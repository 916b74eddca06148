import Ghostlink.Base.Dict
import Ghostlink.Base.Octets
import Ghostlink.Base.Runs

/-! Signing in with a one-time code. The ticket of a sign-in is used up by the first attempt, but
nothing remembers which time step was accepted last. -/

namespace Ghostlink.Portal
open Collections List

def period : ℤ := 30

structure TotpPrimitives where
  b32decode : String → Option (List UInt8)
  hmacSha1 : List UInt8 → List UInt8 → List UInt8
  isDigits : String → Bool
  isAscii : String → Bool
  normalise : String → String
  verifyPassword : String → String → Bool

structure User where
  email : String
  passwordHash : String
  active : Bool
  lockedUntil : Option String

structure Totp where
  secret : String
  enabled : Bool

structure Accepted where
  user : ℕ
  code : String
  counter : ℤ
  step : ℤ
  deriving DecidableEq

/-- `accepted` is history that the source does not keep. -/
structure SignIns where
  users : Dict ℕ User
  mfa : Dict ℕ Totp
  preauthTickets : Dict String ℕ
  accepted : List Accepted

inductive Answer
  | refused (status : ℕ) (code message : String)
  | raised
  | mfaRequired (preauth : String)
  | signedIn (user : ℕ)
  deriving DecidableEq

def zfill (width : ℕ) (text : String) : String :=
  String.ofList (List.replicate (width - text.length) '0' ++ text.toList)

/-- `_hotp`; `none` where the secret is not base 32 or the counter does not fit eight bytes. -/
def hotp (P : TotpPrimitives) (secret : String) (counter : ℤ) : Option String :=
  let padding := List.replicate ((8 - secret.length % 8) % 8) '='
  match P.b32decode (secret ++ String.ofList padding) with
  | none => none
  | some key =>
    if counter < 0 ∨ 2 ^ 64 ≤ counter then none
    else
      let digest := P.hmacSha1 key (Octets.pack 8 counter.toNat)
      let offset := (digest.getLastD 0).toNat % 16
      let binary := Octets.unpack ((digest.drop offset).take 4) % 2 ^ 31
      some (zfill 6 (toString (binary % 10 ^ 6)))

/-- The loop of `verify_totp`, with the counter that matches. Comparing digits that are not ASCII
raises. -/
def matching (P : TotpPrimitives) (secret code : String) : List ℤ → Except Unit (Option ℤ)
  | [] => .ok none
  | counter :: rest =>
    match hotp P secret counter with
    | none => .error ()
    | some candidate =>
      if ¬ P.isAscii code then .error ()
      else if candidate = code then .ok (some counter)
      else matching P secret code rest

def verifyTotp (P : TotpPrimitives) (secret code : String) (now : ℤ) : Except Unit (Option ℤ) :=
  let current := now / period
  if ¬ P.isDigits code ∨ code.length ≠ 6 then .ok none
  else matching P secret code [current - 1, current, current + 1]

namespace SignIns
variable (P : TotpPrimitives) (s : SignIns)

def completeSignin (id : ℕ) (user : User) : SignIns × Answer :=
  ({ s with users := s.users.set id { user with lockedUntil := none } }, .signedIn id)

/-- `handle_signin`; `allowed` is the answer of the rate limiter. -/
def handleSignin (allowed : Bool) (email password nowIso ticket : String) : SignIns × Answer :=
  if ¬ allowed then
    (s, .refused 429 "rate_limited" "Too many sign-in attempts. Try again later.")
  else
    match s.users.entries.find? fun e => e.2.email = P.normalise email with
    | none => (s, .refused 401 "invalid_credentials" "Incorrect email or password.")
    | some (id, user) =>
      if ¬ P.verifyPassword password user.passwordHash then
        (s, .refused 401 "invalid_credentials" "Incorrect email or password.")
      else if ¬ user.active then (s, .refused 403 "not_verified" "Email not verified yet.")
      else if user.lockedUntil.any fun limit => nowIso < limit then
        (s, .refused 403 "locked" "Account temporarily locked.")
      else if (s.mfa.get? id).any Totp.enabled then
        ({ s with preauthTickets := s.preauthTickets.set ticket id }, .mfaRequired ticket)
      else s.completeSignin id user

def handleMfaVerify (preauth code : String) (now : ℤ) : SignIns × Answer :=
  match s.preauthTickets.get? preauth with
  | none => (s, .refused 400 "invalid_ticket" "MFA session expired.")
  | some id =>
    let s := { s with preauthTickets := s.preauthTickets.erase preauth }
    match (s.mfa.get? id).filter Totp.enabled with
    | none => (s, .refused 401 "invalid_code" "Incorrect authentication code.")
    | some totp =>
      match verifyTotp P totp.secret code now with
      | .error () => (s, .raised)
      | .ok none => (s, .refused 401 "invalid_code" "Incorrect authentication code.")
      | .ok (some counter) =>
        match s.users.get? id with
        | none => (s, .refused 500 "internal" "Account not found.")
        | some user =>
          let entry : Accepted :=
            { user := id, code, counter, step := now / period }
          ({ s with accepted := s.accepted ++ [entry] }).completeSignin id user

inductive Request
  | signin (allowed : Bool) (email password nowIso ticket : String)
  | mfaVerify (preauth code : String) (now : ℤ)

def exec : Request → SignIns
  | .signin allowed email password nowIso ticket =>
    (s.handleSignin P allowed email password nowIso ticket).1
  | .mfaVerify preauth code now => (s.handleMfaVerify P preauth code now).1

def start (users : Dict ℕ User) (mfa : Dict ℕ Totp) : SignIns :=
  { users, mfa, preauthTickets := Dict.empty, accepted := [] }

def run (users : Dict ℕ User) (mfa : Dict ℕ Totp) (requests : List Request) : SignIns :=
  requests.foldl (exec P) (start users mfa)

end SignIns

variable {P : TotpPrimitives} {secret code : String}

/-- The counters that a code entered in the time step may belong to. -/
def window (step : ℤ) : List ℤ := [step - 1, step, step + 1]

lemma matching_ok {counters counter} (h : matching P secret code counters = .ok (some counter)) :
    counter ∈ counters ∧ hotp P secret counter = some code := by
  induction counters with
  | nil => cases h
  | cons c rest ih =>
    unfold matching at h
    split at h
    · cases h
    · next candidate made =>
      split_ifs at h with _ same
      · cases h
        exact ⟨mem_cons_self, same ▸ made⟩
      · exact ⟨mem_cons_of_mem _ (ih h).1, (ih h).2⟩

/-- The entry's code is that of its counter, under the user's secret, and was entered in time. -/
def Accepted.Genuine (P : TotpPrimitives) (mfa : Dict ℕ Totp) (a : Accepted) : Prop :=
  ∃ totp, mfa.get? a.user = some totp ∧ a.counter ∈ window a.step ∧
    hotp P totp.secret a.counter = some a.code

namespace SignIns

/-- The user and the time step of a code entered with a ticket that is there. -/
def attempt (s : SignIns) : Request → List (ℕ × ℤ)
  | .signin .. => []
  | .mfaVerify preauth _ now => (s.preauthTickets.get? preauth).toList.map (·, now / period)

def attempts (P : TotpPrimitives) : SignIns → List Request → List (ℕ × ℤ)
  | _, [] => []
  | s, request :: requests => s.attempt request ++ attempts P (s.exec P request) requests

/-- If of one user, the attempts are three steps apart, and no code is right for both. -/
def Apart (P : TotpPrimitives) (mfa : Dict ℕ Totp) (p q : ℕ × ℤ) : Prop :=
  p.1 = q.1 → p.2 + 3 ≤ q.2 ∧ ∀ totp, mfa.get? p.1 = some totp →
    ∀ c ∈ window p.2, ∀ c' ∈ window q.2, hotp P totp.secret c = hotp P totp.secret c' →
      hotp P totp.secret c = none

/-- What a request, or a run, adds to the accepted codes: genuine ones, of the attempts made. -/
structure Adds (P : TotpPrimitives) (s : SignIns) (made : List (ℕ × ℤ)) (s' : SignIns) : Prop where
  mfa : s'.mfa = s.mfa
  accepted : ∃ new, s'.accepted = s.accepted ++ new ∧
    new.map (fun a => (a.user, a.step)) <+ made ∧ ∀ a ∈ new, a.Genuine P s.mfa

variable {s s' s'' : SignIns} {made made' : List (ℕ × ℤ)}

lemma Adds.none (mfa : s'.mfa = s.mfa) (accepted : s'.accepted = s.accepted) : Adds P s made s' :=
  ⟨mfa, [], by simp [accepted], by simp, by simp⟩

lemma Adds.trans (h : Adds P s made s') (h' : Adds P s' made' s'') :
    Adds P s (made ++ made') s'' := by
  obtain ⟨mfa, new, grown, listed, genuine⟩ := h
  obtain ⟨mfa', new', grown', listed', genuine'⟩ := h'
  refine ⟨mfa'.trans mfa, new ++ new', by rw [grown', grown, append_assoc], ?_, ?_⟩
  · rw [map_append]
    exact listed.append listed'
  · intro a mem
    rcases mem_append.mp mem with old | late
    · exact genuine a old
    · exact mfa ▸ genuine' a late

lemma adds_exec (P) (s : SignIns) (request : Request) :
    Adds P s (s.attempt request) (s.exec P request) := by
  cases request with
  | signin =>
    rw [exec]
    unfold handleSignin
    split
    · exact .none rfl rfl
    split
    · exact .none rfl rfl
    · split_ifs <;> exact .none rfl rfl
  | mfaVerify preauth code now =>
    rw [exec]
    unfold handleMfaVerify
    split
    · exact .none rfl rfl
    next id ticket =>
    dsimp only
    split
    · exact .none rfl rfl
    next totp enrolled =>
    split
    · exact .none rfl rfl
    · exact .none rfl rfl
    next counter verified =>
    split
    · exact .none rfl rfl
    · refine ⟨rfl, [⟨id, code, counter, now / period⟩], rfl, by simp [attempt, ticket], ?_⟩
      intro a mem
      cases mem_singleton.mp mem
      unfold verifyTotp at verified
      split_ifs at verified
      · cases verified
      · exact ⟨totp, (Option.filter_eq_some_iff.mp enrolled).1, matching_ok verified⟩

lemma adds_run (P) (s : SignIns) (requests : List Request) :
    Adds P s (attempts P s requests) (requests.foldl (exec P) s) := by
  induction requests generalizing s with
  | nil => exact .none rfl rfl
  | cons request requests ih => exact (adds_exec P s request).trans (ih _)

/-- Where the attempts of each user are three steps apart and no two of them have a right code in
common, each user's accepted counters increase and no code is accepted twice. -/
theorem spaced_signins_increase (P : TotpPrimitives) (users : Dict ℕ User) (mfa : Dict ℕ Totp)
    (requests : List Request)
    (apart : (attempts P (start users mfa) requests).Pairwise (Apart P mfa)) :
    (run P users mfa requests).accepted.Pairwise
      fun a b => a.user = b.user → a.counter < b.counter ∧ a.code ≠ b.code := by
  obtain ⟨-, new, grown, listed, genuine⟩ := adds_run P (start users mfa) requests
  have accepted : (run P users mfa requests).accepted = new := grown
  rw [accepted]
  refine (pairwise_map.mp (apart.sublist listed)).imp_of_mem fun {a b} left right apart same => ?_
  obtain ⟨gap, differ⟩ := apart same
  obtain ⟨totp, enrolled, early, made⟩ := genuine a left
  obtain ⟨totp', enrolled', late, made'⟩ := genuine b right
  rw [← same] at enrolled'
  cases enrolled.symm.trans enrolled'
  refine ⟨?_, fun reused => ?_⟩
  · simp only [window, mem_cons, not_mem_nil, or_false] at early late
    omega
  · have both : hotp P totp.secret a.counter = hotp P totp.secret b.counter := by
      rw [made, made', reused]
    cases made.symm.trans (differ totp enrolled _ early _ late both)

def countingPrimitives : TotpPrimitives where
  b32decode _ := some []
  hmacSha1 _ message := message.drop 4 ++ List.replicate 16 0
  isDigits _ := true
  isAscii _ := true
  normalise email := email
  verifyPassword _ _ := true

def enrolled : Dict ℕ Totp := Dict.empty.set 1 { secret := "", enabled := true }

def oneUser : Dict ℕ User :=
  Dict.empty.set 1 { email := "a@b", passwordHash := "", active := true, lockedUntil := none }

def signins (code : String) (now : ℤ) (code' : String) (now' : ℤ) : List Request :=
  [.signin true "a@b" "" "" "t", .mfaVerify "t" code now, .signin true "a@b" "" "" "u",
    .mfaVerify "u" code' now']

def twice (code : String) (now : ℤ) (code' : String) (now' : ℤ) : SignIns :=
  run countingPrimitives oneUser enrolled (signins code now code' now')

theorem signins_three_steps_apart :
    (twice "000002" 60 "000005" 150).accepted.length = 2 ∧
      (twice "000002" 60 "000005" 150).accepted.Pairwise
        fun a b => a.user = b.user → a.counter < b.counter ∧ a.code ≠ b.code := by
  have made : attempts countingPrimitives (start oneUser enrolled)
      (signins "000002" 60 "000005" 150) = [(1, 2), (1, 5)] := by decide +kernel
  refine ⟨by decide +kernel, spaced_signins_increase _ _ _ _ ?_⟩
  rw [made, pairwise_pair]
  refine fun _ => ⟨by decide, fun totp stored => ?_⟩
  cases stored
  decide +kernel

theorem one_code_two_signins :
    (twice "000002" 60 "000002" 61).accepted =
      [{ user := 1, code := "000002", counter := 2, step := 2 },
        { user := 1, code := "000002", counter := 2, step := 2 }] := by
  decide +kernel

end SignIns
end Ghostlink.Portal
