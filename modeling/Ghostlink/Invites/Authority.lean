import Ghostlink.Base.Checks
import Ghostlink.Base.Dict
import Ghostlink.Invites.Tokens
import Mathlib.Data.List.Infix

/-! The relay's registry of invites. Every call reads the monotonic clock when it needs it; a
reading is never before an earlier one, so a call takes a time and reads the later of that time
and the last reading. -/

namespace Ghostlink.Invites
open Collections Text Checks List Dict

def maxCreatorSessionLength : ℕ := 64
def inviteMinTtlSeconds : Seconds := 1
def inviteMaxTtlSeconds : Seconds := 86400
def inviteMaxRedemptions : ℤ := 16

inductive RedemptionVerdict
  | redeemed | unknown | expired | revoked | alreadyUsed
  deriving DecidableEq, Repr

structure InviteGrant where
  inviteId : String
  expiresAt : Instant
  maxRedemptions : ℤ
  deriving DecidableEq, Repr

structure RedemptionResult where
  verdict : RedemptionVerdict
  inviteId : String
  roomId : Option String := none
  expiresAt : Option Instant := none
  deriving DecidableEq, Repr

def isGranted (result : Except InviteFault RedemptionResult) : Bool :=
  match result with
  | .ok result => decide (result.verdict = .redeemed)
  | .error _ => false

structure InviteStatus where
  inviteId : String
  state : String
  createdAt : Instant
  expiresAt : Instant
  maxRedemptions : ℤ
  redemptions : ℤ
  remainingSeconds : Seconds
  boundSession : Option String
  roomId : Option String
  kind : String
  groupId : Option String
  deriving DecidableEq, Repr

structure InviteLookup where
  inviteId : String
  kind : String
  groupId : String
  redeemed : Bool
  deriving DecidableEq, Repr

structure Entry where
  inviteId : String
  tokenHash : String
  roomId : String
  createdAt : Instant
  expiresAt : Instant
  expiresMonotonic : Seconds
  maxRedemptions : ℤ
  redemptions : ℤ
  creatorSession : String
  kind : String
  groupId : String
  boundSession : Option String
  revoked : Bool
  lastRedeemedAtMono : Option Seconds
  deriving DecidableEq, Repr

namespace Entry

def expired (e : Entry) (now : Seconds) : Bool := decide (e.expiresMonotonic ≤ now)

def exhausted (e : Entry) : Bool := decide (e.maxRedemptions ≤ e.redemptions)

def redeemable (e : Entry) (now : Seconds) : Bool := !e.revoked && !e.expired now && !e.exhausted

def reference (e : Entry) : Seconds :=
  match e.lastRedeemedAtMono with
  | none => e.expiresMonotonic
  | some moment => if moment = 0 then e.expiresMonotonic else moment

def status (e : Entry) (creatorView : Bool) (now : Seconds) : InviteStatus :=
  let remaining := max 0 (e.expiresMonotonic - now)
  { inviteId := e.inviteId
    state :=
      if e.revoked then "revoked"
      else if e.exhausted then "redeemed"
      else if remaining ≤ 0 then "expired"
      else "active"
    createdAt := e.createdAt
    expiresAt := e.expiresAt
    maxRedemptions := e.maxRedemptions
    redemptions := e.redemptions
    remainingSeconds := remaining
    boundSession := e.boundSession
    roomId := if creatorView then some e.roomId else none
    kind := if creatorView then e.kind else "chat"
    groupId := if creatorView then (if e.groupId = "" then none else some e.groupId) else none }

structure Later (e e' : Entry) (n : ℕ) : Prop where
  limit : e'.maxRedemptions = e.maxRedemptions
  deadline : e'.expiresMonotonic = e.expiresMonotonic
  revoked : e.revoked → e'.revoked
  count : e'.redemptions = e.redemptions + n
  bounded : e.redemptions ≤ e.maxRedemptions → e'.redemptions ≤ e'.maxRedemptions

lemma Later.refl (e : Entry) : e.Later e 0 where
  limit := rfl
  deadline := rfl
  revoked := id
  count := (Int.add_zero _).symm
  bounded := id

lemma Later.trans {e₁ e₂ e₃ : Entry} {m n} (first : e₁.Later e₂ m)
    (second : e₂.Later e₃ n) : e₁.Later e₃ (m + n) where
  limit := second.limit.trans first.limit
  deadline := second.deadline.trans first.deadline
  revoked := second.revoked ∘ first.revoked
  count := by
    rw [second.count, first.count, Nat.cast_add, Int.add_assoc]
  bounded := second.bounded ∘ first.bounded

end Entry

structure InviteAuthority where
  retention : Seconds
  entries : Dict String Entry
  clock : Seconds

namespace InviteAuthority
variable (S : InvitePrimitives) (a : InviteAuthority)

def read (time : Seconds) : Seconds := max a.clock time

def tick (time : Seconds) : InviteAuthority := { a with clock := a.read time }

structure Registration where
  token : String
  roomId : String
  ttlSeconds : Seconds
  maxRedemptions : ℤ
  creatorSession : String
  kind : String
  groupId : String

def validateCreation (r : Registration) : Except InviteFault String := do
  let normalized := S.upper (strip r.token)
  if isValidInviteToken S normalized = false then throw (.value "invite token is malformed")
  if r.kind = "group" ∧ Groups.isValidGroupId r.groupId = false then
    throw (.value "group id is malformed")
  if r.kind ≠ "group" ∧ isValidRoomId r.roomId = false then throw (.value "room id is malformed")
  if ¬ (inviteMinTtlSeconds ≤ r.ttlSeconds ∧ r.ttlSeconds ≤ inviteMaxTtlSeconds) then
    throw (.value "ttl out of range")
  if ¬ (1 ≤ r.maxRedemptions ∧ r.maxRedemptions ≤ inviteMaxRedemptions) then
    throw (.value "redemption limit out of range")
  pure normalized

def newEntry (r : Registration) (wall : Instant) (time : Seconds) : Except InviteFault Entry := do
  let normalized ← validateCreation S r
  if maxCreatorSessionLength < r.creatorSession.length then
    throw (.value "creator session id too long")
  let tokenHash ← hashToken S normalized
  if a.entries.contains tokenHash then throw (.value "invite token already registered")
  let inviteId ← inviteIdForToken S normalized
  pure
    { inviteId
      tokenHash
      roomId := r.roomId
      createdAt := wall
      expiresAt := wall + timedelta r.ttlSeconds
      expiresMonotonic := a.read time + r.ttlSeconds
      maxRedemptions := r.maxRedemptions
      redemptions := 0
      creatorSession := r.creatorSession
      kind := r.kind
      groupId := if r.kind = "group" then r.groupId else ""
      boundSession := none
      revoked := false
      lastRedeemedAtMono := none }

def register (r : Registration) (wall : Instant) (time : Seconds) :
    InviteAuthority × Except InviteFault InviteGrant :=
  match a.newEntry S r wall time with
  | .error fault => (a, .error fault)
  | .ok entry =>
    ({ a.tick time with entries := a.entries.set entry.tokenHash entry },
      .ok { inviteId := entry.inviteId, expiresAt := entry.expiresAt
            maxRedemptions := r.maxRedemptions })

def tokenKey (token : String) : Except InviteFault (Option String) := do
  let normalized := S.upper (strip token)
  if isValidInviteToken S normalized then
    let candidate ← hashToken S normalized
    pure (some candidate)
  else pure none

def find (token : String) : Except InviteFault (Option (String × Entry)) := do
  let key ← tokenKey S token
  pure (key.bind fun key => (a.entries.get? key).map fun entry => (key, entry))

def lookup (token : String) : Except InviteFault (Option InviteLookup) := do
  let found ← a.find S token
  pure (found.map fun (_, e) =>
    { inviteId := e.inviteId, kind := e.kind, groupId := e.groupId, redeemed := e.exhausted })

def consumed (e : Entry) (session : String) (now : Seconds) : Entry :=
  { e with
    redemptions := e.redemptions + 1
    boundSession := some session
    lastRedeemedAtMono := some now }

def redeem (token session : String) (time later : Seconds) :
    InviteAuthority × Except InviteFault RedemptionResult :=
  match a.find S token with
  | .error fault => (a, .error fault)
  | .ok none =>
    (a, (hashToken S (S.upper (strip token))).map fun digest =>
      { verdict := .unknown, inviteId := inviteIdPrefix ++ takeChars 10 digest })
  | .ok (some (key, e)) =>
    if e.revoked then (a, .ok { verdict := .revoked, inviteId := e.inviteId })
    else if e.expired (a.read time) then
      (a.tick time,
        .ok { verdict := .expired, inviteId := e.inviteId, expiresAt := some e.expiresAt })
    else if e.exhausted then
      (a.tick time, .ok { verdict := .alreadyUsed, inviteId := e.inviteId })
    else
      let b := (a.tick time).tick later
      ({ b with entries := a.entries.set key (consumed e session b.clock) },
        .ok { verdict := .redeemed, inviteId := e.inviteId, roomId := some e.roomId
              expiresAt := some e.expiresAt })

def revoke (token session : String) (time : Seconds) :
    InviteAuthority × Except InviteFault (Option InviteStatus) :=
  match a.find S token with
  | .error fault => (a, .error fault)
  | .ok none => (a, .ok none)
  | .ok (some (key, e)) =>
    if e.creatorSession ≠ session then
      (a, .error (.permission "only the inviting session may revoke"))
    else
      let revoked := { e with revoked := true }
      ({ a.tick time with entries := a.entries.set key revoked },
        .ok (some (revoked.status true (a.read time))))

def status (token session : String) (time : Seconds) :
    InviteAuthority × Except InviteFault (Option InviteStatus) :=
  match a.find S token with
  | .error fault => (a, .error fault)
  | .ok none => (a, .ok none)
  | .ok (some (_, e)) =>
    (a.tick time, .ok (some (e.status (decide (e.creatorSession = session)) (a.read time))))

/-- `purge_terminal`, which is all that `sweep` does: what can no longer be redeemed is dropped
once the retention is over. -/
def sweep (time : Seconds) : InviteAuthority × ℕ :=
  let now := a.read time
  let gone (e : Entry) : Bool :=
    (e.revoked || e.exhausted || e.expired now) && decide (e.reference < now - a.retention)
  let kept := a.entries.filter fun _ e => !gone e
  ({ a.tick time with entries := kept }, a.entries.size - kept.size)

inductive InviteCall
  | register (r : Registration) (wall : Instant) (time : Seconds)
  | redeem (token session : String) (time later : Seconds)
  | revoke (token session : String) (time : Seconds)
  | status (token session : String) (time : Seconds)
  | sweep (time : Seconds)
  | tick (time : Seconds)

def step : InviteCall → InviteAuthority
  | .register r wall time => (a.register S r wall time).1
  | .redeem token session time later => (a.redeem S token session time later).1
  | .revoke token session time => (a.revoke S token session time).1
  | .status token session time => (a.status S token session time).1
  | .sweep time => (a.sweep time).1
  | .tick time => a.tick time

def run (calls : List InviteCall) : InviteAuthority :=
  calls.foldl (step S) a

def grants (key : String) : InviteCall → Bool
  | .redeem token session time later =>
    decide (tokenKey S token = .ok (some key)) &&
      isGranted (a.redeem S token session time later).2
  | _ => false

def revokes (key : String) : InviteCall → Bool
  | .revoke token session time =>
    decide (tokenKey S token = .ok (some key)) &&
      (a.revoke S token session time).2.toOption.join.isSome
  | _ => false

def granted (S : InvitePrimitives) (key : String) : InviteAuthority → List InviteCall → ℕ
  | _, [] => 0
  | a, c :: calls => (if a.grants S key c then 1 else 0) + granted S key (a.step S c) calls

section
variable {S : InvitePrimitives} {a : InviteAuthority} {key token session : String} {e : Entry}
  {time later : Seconds}

lemma find_eq (h : tokenKey S token = .ok (some key)) :
    a.find S token = .ok ((a.entries.get? key).map fun entry => (key, entry)) := by
  simp [find, h]

lemma find_eq_some {found : String × Entry} (h : a.find S token = .ok (some found)) :
    tokenKey S token = .ok (some found.1) ∧ a.entries.get? found.1 = some found.2 := by
  simp only [find, bind_eq_ok, pure_eq_ok] at h
  obtain ⟨key, matched, h⟩ := h
  obtain ⟨key, rfl, h⟩ := Option.bind_eq_some_iff.mp h
  obtain ⟨entry, held, rfl⟩ := Option.map_eq_some_iff.mp h
  exact ⟨matched, held⟩

section
variable (a)

lemma redeem_cases (token session time later) :
    (∃ key e, tokenKey S token = .ok (some key) ∧ a.entries.get? key = some e ∧
        e.redeemable (a.read time) ∧
        isGranted (a.redeem S token session time later).2 ∧
        (a.redeem S token session time later).1 =
          { (a.tick time).tick later with
            entries := a.entries.set key (consumed e session ((a.tick time).tick later).clock) }) ∨
      isGranted (a.redeem S token session time later).2 = false ∧
        ((a.redeem S token session time later).1 = a ∨
          (a.redeem S token session time later).1 = a.tick time) := by
  cases found : a.find S token with
  | error =>
    right
    simp [redeem, found, isGranted]
  | ok found' =>
    cases found' with
    | none =>
      right
      simp only [redeem, found, true_or, and_true]
      cases hashToken S (S.upper (strip token)) with
      | error | ok => rfl
    | some held =>
      obtain ⟨key, e⟩ := held
      obtain ⟨matched, held⟩ := find_eq_some found
      simp only [redeem, found]
      split_ifs with revoked expired exhausted
      · exact .inr ⟨rfl, .inl rfl⟩
      · exact .inr ⟨rfl, .inr rfl⟩
      · exact .inr ⟨rfl, .inr rfl⟩
      · refine .inl ⟨key, e, matched, held, ?_, rfl, rfl⟩
        simp [Entry.redeemable, revoked, expired, exhausted]

lemma clock_le_read (time) : a.clock ≤ a.read time :=
  le_max_left ..

lemma clock_le_tick (time) : a.clock ≤ (a.tick time).clock :=
  clock_le_read a time

lemma revoke_cases (token session time) :
    (∃ key e, tokenKey S token = .ok (some key) ∧ a.entries.get? key = some e ∧
        (a.revoke S token session time).1 =
          { a.tick time with entries := a.entries.set key { e with revoked := true } }) ∨
      (a.revoke S token session time).2.toOption.join = none ∧
        (a.revoke S token session time).1 = a := by
  cases found : a.find S token with
  | error =>
    right
    rw [revoke, found]
    exact ⟨rfl, rfl⟩
  | ok found' =>
    cases found' with
    | none =>
      right
      rw [revoke, found]
      exact ⟨rfl, rfl⟩
    | some held =>
      obtain ⟨key, e⟩ := held
      obtain ⟨matched, held⟩ := find_eq_some found
      simp only [revoke, found]
      split_ifs with creator
      · exact .inr ⟨rfl, rfl⟩
      · exact .inl ⟨key, e, matched, held, rfl⟩

lemma status_fst (token session time) :
    (a.status S token session time).1 = a ∨ (a.status S token session time).1 = a.tick time := by
  cases found : a.find S token with
  | error =>
    rw [status, found]
    exact .inl rfl
  | ok found' =>
    rw [status, found]
    cases found' with
    | none => exact .inl rfl
    | some => exact .inr rfl

lemma register_cases (r wall time) :
    (∃ e, a.newEntry S r wall time = .ok e ∧
        (a.register S r wall time).1 =
          { a.tick time with entries := a.entries.set e.tokenHash e }) ∨
      ∃ fault, a.register S r wall time = (a, .error fault) := by
  cases made : a.newEntry S r wall time with
  | error fault =>
    right
    rw [register, made]
    exact ⟨fault, rfl⟩
  | ok e =>
    left
    rw [register, made]
    exact ⟨e, rfl, rfl⟩

end

variable {r : Registration}

lemma newEntry_eq_ok {wall} (h : a.newEntry S r wall time = .ok e) :
    tokenKey S r.token = .ok (some e.tokenHash) ∧ a.entries.get? e.tokenHash = none ∧
      e.maxRedemptions = r.maxRedemptions ∧ e.redemptions = 0 ∧ 1 ≤ r.maxRedemptions ∧
      e.expiresMonotonic = a.read time + r.ttlSeconds := by
  simp only [newEntry, validateCreation, refuse_eq_ok, bind_eq_ok, pure_eq_ok, not_not,
    Bool.not_eq_false, Bool.not_eq_true] at h
  obtain ⟨normalized, ⟨valid, -, -, -, limit, rfl⟩, -, hash, hashed, free, id, -, rfl⟩ := h
  refine ⟨?_, ?_, rfl, rfl, limit.1, rfl⟩
  · rw [tokenKey]
    simp only [valid, if_true, hashed]
    rfl
  · exact Option.isNone_iff_eq_none.mp (Option.isSome_eq_false_iff.mp free)

lemma later_consumed (isOpen : e.redeemable time) (session now) :
    e.Later (consumed e session now) 1 where
  limit := rfl
  deadline := rfl
  revoked := id
  count := rfl
  bounded := by
    intro _
    simp only [Entry.redeemable, Entry.exhausted, Bool.and_eq_true, Bool.not_eq_true',
      decide_eq_false_iff_not, not_le] at isOpen
    exact Int.add_one_le_iff.mpr isOpen.2

lemma later_revoked (e : Entry) : e.Later { e with revoked := true } 0 where
  limit := rfl
  deadline := rfl
  revoked := fun _ => rfl
  count := (Int.add_zero _).symm
  bounded := id

variable {c : InviteCall}

lemma clock_step (S) (a : InviteAuthority) (c) : a.clock ≤ (a.step S c).clock := by
  cases c with
  | register r wall time =>
    obtain ⟨e, -, after⟩ | ⟨fault, after⟩ := register_cases (S := S) a r wall time
    all_goals simp [step, after, clock_le_tick]
  | redeem token session time later =>
    obtain ⟨key, e, -, -, -, -, after⟩ | ⟨-, after | after⟩ :=
      redeem_cases (S := S) a token session time later
    · simp only [step, after]
      exact (clock_le_tick a time).trans (clock_le_tick _ later)
    all_goals simp [step, after, clock_le_tick]
  | revoke token session time =>
    obtain ⟨key, e, -, -, after⟩ | ⟨-, after⟩ := revoke_cases (S := S) a token session time
    all_goals simp [step, after, clock_le_tick]
  | status token session time =>
    obtain after | after := status_fst (S := S) a token session time
    all_goals simp [step, after, clock_le_tick]
  | sweep time => exact clock_le_tick a time
  | tick time => exact clock_le_tick a time

lemma redeemable_of_grants (held : a.entries.get? key = some e)
    (granted : a.grants S key c) : e.revoked = false ∧ a.clock < e.expiresMonotonic := by
  cases c with
  | redeem token session time later =>
    simp only [grants, Bool.and_eq_true, decide_eq_true_eq] at granted
    obtain ⟨matched, granted⟩ := granted
    obtain ⟨key', e', matched', held', isOpen, -, -⟩ | ⟨refused, -⟩ :=
      redeem_cases a token session time later
    · cases matched.symm.trans matched'
      cases held.symm.trans held'
      simp only [Entry.redeemable, Entry.expired, Bool.and_eq_true, Bool.not_eq_true',
        decide_eq_false_iff_not, not_le] at isOpen
      exact ⟨isOpen.1.1, (clock_le_read a time).trans_lt isOpen.1.2⟩
    · simp [refused] at granted
  | register | revoke | status | sweep | tick => cases granted

lemma step_entry (held : a.entries.get? key = some e) (kept : (a.step S c).entries.contains key) :
    ∃ e', (a.step S c).entries.get? key = some e' ∧
      e.Later e' (if a.grants S key c then 1 else 0) := by
  have same (h : (a.step S c).entries = a.entries) (none : a.grants S key c = false) :
      ∃ e', (a.step S c).entries.get? key = some e' ∧
        e.Later e' (if a.grants S key c then 1 else 0) := by
    rw [h, none]
    exact ⟨e, held, .refl e⟩
  cases c with
  | register r wall time =>
    obtain ⟨new, made, after⟩ | ⟨fault, after⟩ := register_cases (S := S) a r wall time
    · have free := (newEntry_eq_ok made).2.1
      have other : key ≠ new.tokenHash := by
        rintro rfl
        rw [free] at held
        cases held
      refine ⟨e, ?_, .refl e⟩
      simp only [step, after]
      rw [get?_set_ne _ _ other, held]
    · exact same (by simp [step, after]) rfl
  | redeem token session time later =>
    obtain ⟨key', e', matched, held', isOpen, granted, after⟩ | ⟨refused, after⟩ :=
      redeem_cases (S := S) a token session time later
    · by_cases this : key = key'
      · subst this
        cases held.symm.trans held'
        refine ⟨consumed e session ((a.tick time).tick later).clock, ?_, ?_⟩
        · simp [step, after, get?_set_self]
        · simp only [grants, matched, granted, decide_true, Bool.and_self, if_true]
          exact later_consumed isOpen session _
      · have another : a.grants S key (.redeem token session time later) = false := by
          simp [grants, matched, Ne.symm this]
        rw [another]
        refine ⟨e, ?_, .refl e⟩
        simp only [step, after]
        rw [get?_set_ne _ _ this, held]
    · have none : a.grants S key (.redeem token session time later) = false := by
        simp [grants, refused]
      rcases after with after | after
      · exact same (by simp [step, after]) none
      · exact same (by simp [step, after, tick]) none
  | revoke token session time =>
    obtain ⟨key', e', matched, held', after⟩ | ⟨-, after⟩ :=
      revoke_cases (S := S) a token session time
    · by_cases this : key = key'
      · subst this
        cases held.symm.trans held'
        refine ⟨{ e with revoked := true }, ?_, later_revoked e⟩
        simp [step, after, get?_set_self]
      · refine ⟨e, ?_, .refl e⟩
        simp only [step, after]
        rw [get?_set_ne _ _ this, held]
    · exact same (by simp [step, after]) rfl
  | status token session time =>
    obtain after | after := status_fst (S := S) a token session time
    · exact same (by simp [step, after]) rfl
    · exact same (by simp [step, after, tick]) rfl
  | sweep =>
    obtain ⟨e', held'⟩ := Option.isSome_iff_exists.mp kept
    have before : a.entries.get? key = some e' := get?_of_filter held'
    cases held.symm.trans before
    exact ⟨e, held', .refl e⟩
  | tick => exact same rfl rfl

lemma revoked_of_revokes (done : a.revokes S key c) :
    ∃ e', (a.step S c).entries.get? key = some e' ∧ e'.revoked := by
  cases c with
  | revoke token session time =>
    simp only [revokes, Bool.and_eq_true, decide_eq_true_eq] at done
    obtain ⟨matched, done⟩ := done
    obtain ⟨key', e', matched', held', after⟩ | ⟨refused, -⟩ :=
      revoke_cases a token session time
    · cases matched.symm.trans matched'
      refine ⟨{ e' with revoked := true }, ?_, rfl⟩
      simp [step, after, get?_set_self]
    · simp [refused] at done
  | register | redeem | status | sweep | tick => cases done

def Stays (S : InvitePrimitives) (a : InviteAuthority) (key : String) (calls : List InviteCall) :
    Prop :=
  ∀ js, js <+: calls → (a.run S js).entries.contains key

variable {calls : List InviteCall}

lemma Stays.next (h : a.Stays S key (c :: calls)) : (a.step S c).Stays S key calls := by
  intro js before
  exact h (c :: js) (cons_prefix_cons.mpr ⟨rfl, before⟩)

lemma Stays.first (h : a.Stays S key (c :: calls)) : (a.step S c).entries.contains key :=
  h [c] (cons_prefix_cons.mpr ⟨rfl, nil_prefix⟩)

lemma Stays.drop {before after} (h : a.Stays S key (before ++ after)) :
    (a.run S before).Stays S key after := by
  intro js shorter
  have whole := h (before ++ js) ((prefix_append_right_inj before).mpr shorter)
  rwa [run, foldl_append] at whole

lemma Stays.take {before after} (h : a.Stays S key (before ++ after)) : a.Stays S key before :=
  fun js shorter => h js (shorter.trans (prefix_append before after))

section
variable (held : a.entries.get? key = some e)
include held

lemma run_entry (stays : a.Stays S key calls) :
    ∃ e', (a.run S calls).entries.get? key = some e' ∧ e.Later e' (granted S key a calls) := by
  induction calls generalizing a e with
  | nil => exact ⟨e, held, .refl e⟩
  | cons c calls ih =>
    obtain ⟨e₁, held₁, later₁⟩ := step_entry held stays.first
    obtain ⟨e₂, held₂, later₂⟩ := ih held₁ stays.next
    exact ⟨e₂, held₂, later₁.trans later₂⟩

lemma granted_of_spent
    (spent : e.revoked ∨ e.expiresMonotonic ≤ a.clock) (stays : a.Stays S key calls) :
    granted S key a calls = 0 := by
  induction calls generalizing a e with
  | nil => rfl
  | cons c calls ih =>
    have refused : a.grants S key c = false := by
      by_contra granted
      obtain ⟨live, early⟩ := redeemable_of_grants held (Bool.eq_true_of_not_eq_false granted)
      rcases spent with revoked | late
      · rw [revoked] at live
        cases live
      · exact absurd late (not_le.mpr early)
    obtain ⟨e', held', later⟩ := step_entry held stays.first
    have still : e'.revoked ∨ e'.expiresMonotonic ≤ (a.step S c).clock := by
      refine spent.imp later.revoked fun late => ?_
      rw [later.deadline]
      exact late.trans (clock_step S a c)
    rw [granted, refused, ih held' still stays.next]
    rfl

lemma sweep_keeps
    (isOpen : e.redeemable (a.read time)) : (a.sweep time).1.entries.get? key = some e := by
  simp only [Entry.redeemable, Bool.and_eq_true, Bool.not_eq_true'] at isOpen
  refine (get?_filter _ _ _ _).mpr ⟨held, ?_⟩
  simp [isOpen]

end

lemma register_refused (matched : tokenKey S r.token = .ok (some key))
    (held : a.entries.get? key = some e) (wall time) :
    ∃ fault, a.register S r wall time = (a, .error fault) := by
  obtain ⟨new, made, -⟩ | refused := register_cases a r wall time
  · obtain ⟨matched', free, -⟩ := newEntry_eq_ok made
    cases matched.symm.trans matched'
    simp [held] at free
  · exact refused

/-- From the registration of a token until its entry is gone, redemptions are granted at most as
often as was registered, and none after a revocation or once the clock has reached the deadline.
An entry that would still be redeemed is neither swept nor replaced by another registration. -/
theorem redemptions_accounted (S : InvitePrimitives) :
    (∀ (a : InviteAuthority) (r : Registration) (wall : Instant) (time : Seconds)
        (grant : InviteGrant) (key : String) (calls : List InviteCall),
      (a.register S r wall time).2 = .ok grant → tokenKey S r.token = .ok (some key) →
      let b := (a.register S r wall time).1
      b.Stays S key calls →
        granted S key b calls ≤ r.maxRedemptions ∧
        (∀ before c after, calls = before ++ c :: after → (b.run S before).revokes S key c →
          granted S key (b.run S (before ++ [c])) after = 0) ∧
        ∀ before after, calls = before ++ after →
          a.read time + r.ttlSeconds ≤ (b.run S before).clock →
            granted S key (b.run S before) after = 0) ∧
    ∀ (a : InviteAuthority) (token session key : String) (time later : Seconds),
      tokenKey S token = .ok (some key) → isGranted (a.redeem S token session time later).2 →
        (a.sweep time).1.entries.contains key ∧
        ∀ (r : Registration) (wall : Instant) (time : Seconds),
          tokenKey S r.token = .ok (some key) →
            ∃ fault, a.register S r wall time = (a, .error fault) := by
  constructor
  · intro a r wall time grant key calls accepted matched b stays
    obtain ⟨e, made, after⟩ | ⟨fault, refused⟩ := register_cases a r wall time
    · obtain ⟨matched', -, limit, fresh, positive, deadline⟩ := newEntry_eq_ok made
      cases matched.symm.trans matched'
      have held : b.entries.get? e.tokenHash = some e := by
        simp [b, after, get?_set_self]
      refine ⟨?_, ?_, ?_⟩
      · obtain ⟨e', -, later⟩ := run_entry held stays
        have start : e.redemptions ≤ e.maxRedemptions := by
          rw [fresh, limit]
          exact Int.zero_le_ofNat 1 |>.trans positive
        have final := later.bounded start
        rwa [later.count, fresh, later.limit, limit, Int.zero_add] at final
      · rintro before c after rfl revokes
        obtain ⟨e', held', revoked⟩ := revoked_of_revokes revokes
        have split : before ++ c :: after = (before ++ [c]) ++ after := by
          rw [append_assoc, singleton_append]
        have next : b.run S (before ++ [c]) = (b.run S before).step S c := by
          simp [run, foldl_append]
        rw [split] at stays
        rw [next]
        refine granted_of_spent held' (.inl revoked) ?_
        rw [← next]
        exact stays.drop
      · rintro before after rfl late
        obtain ⟨e', held', later⟩ := run_entry held stays.take
        refine granted_of_spent held' (.inr ?_) stays.drop
        rwa [later.deadline, deadline]
    · simp [refused] at accepted
  · intro a token session key time later matched granted
    obtain ⟨key', e, matched', held, isOpen, -, -⟩ | ⟨refused, -⟩ :=
      redeem_cases a token session time later
    · cases matched.symm.trans matched'
      refine ⟨?_, fun r wall time same => register_refused same held wall time⟩
      simp [Dict.contains, sweep_keeps held isOpen]
    · simp [refused] at granted

def Registered (S : InvitePrimitives) (a : InviteAuthority) (normalized : String) : Prop :=
  isValidInviteToken S normalized ∧
    ∃ digest, hashToken S normalized = .ok digest ∧ a.entries.contains digest

lemma find_cases (S) (a : InviteAuthority) (token) :
    (∃ fault, a.find S token = .error fault ∧ hashToken S (S.upper (strip token)) = .error fault) ∨
      (a.find S token = .ok none ∧ ¬ a.Registered S (S.upper (strip token))) ∨
      ∃ found, a.find S token = .ok (some found) ∧ a.Registered S (S.upper (strip token)) := by
  unfold find tokenKey Registered
  by_cases valid : isValidInviteToken S (S.upper (strip token))
  · cases hashed : hashToken S (S.upper (strip token)) with
    | error fault => exact .inl ⟨fault, by simp [valid, hashed, bind, Except.bind], rfl⟩
    | ok digest =>
      right
      cases held : a.entries.get? digest <;>
        simp [valid, hashed, held, Dict.contains, bind, Except.bind, pure, Except.pure]
  · simp [valid, bind, Except.bind, pure, Except.pure]

lemma hashToken_ok_iff {normalized} : (∃ digest, hashToken S normalized = .ok digest) ↔
    ∀ c ∈ normalized.toList, c.toNat < 128 := by
  simp only [hashToken, all_eq_true, decide_eq_true_eq]
  split_ifs with ascii
  · simp only [Except.ok.injEq, exists_eq', true_iff]
    exact ascii
  · simp [ascii]

/-- A redeem raises exactly when the normalized token has a character that is not ASCII: a token
that is not registered is hashed whatever its format. -/
theorem redeem_verdict_iff (S : InvitePrimitives) (a : InviteAuthority) (token session : String)
    (time later : Seconds) :
    let normalized := S.upper (strip token)
    let after := a.redeem S token session time later
    ((∃ r, after.2 = .ok r) ↔ ∀ c ∈ normalized.toList, c.toNat < 128) ∧
    (∀ r, after.2 = .ok r → (r.verdict = .unknown ↔ ¬ a.Registered S normalized)) ∧
    (isGranted after.2 = false → after.1.entries = a.entries) := by
  intro normalized after
  refine and_assoc.mp ⟨?_, fun refused => ?_⟩
  · simp only [← hashToken_ok_iff (S := S), after, redeem]
    obtain ⟨fault, raised, unhashed⟩ | ⟨unknown, absent⟩ | ⟨⟨key, e⟩, found, held⟩ :=
      find_cases S a token
    · simp [raised, unhashed, normalized]
    · cases hashed : hashToken S (S.upper (strip token)) with
      | error | ok => simp [unknown, absent, normalized, Except.map]
    · obtain ⟨-, digest, hashed, -⟩ := id held
      simp only [found, held, hashed, normalized]
      split_ifs <;> simp
  · obtain ⟨_, _, _, _, _, granted, _⟩ | ⟨-, same | same⟩ :=
      redeem_cases (S := S) a token session time later
    · exact absurd (granted.symm.trans refused) Bool.noConfusion
    · exact congrArg entries same
    · exact congrArg (·.entries) same

def plainInvites : InvitePrimitives where
  upper := id
  lower := id
  sha256 bytes := Vector.ofFn fun i : Fin 32 => bytes.getD i 0

def plainToken : String := "AAAAAAAAAAAAAAAAAAAA"

def plainRegistration : Registration where
  token := plainToken
  roomId := "gl-room-AAAA-AAAA-AAAA"
  ttlSeconds := 60
  maxRedemptions := 2
  creatorSession := "alice"
  kind := "chat"
  groupId := ""

def plainCalls : List InviteCall :=
  [.redeem plainToken "bob" 1 1, .redeem plainToken "carol" 2 2, .redeem plainToken "dave" 3 3,
    .revoke plainToken "alice" 4, .redeem plainToken "erin" 5 5]

def plainKey : String := toHex (plainInvites.sha256 (utf8Encode plainToken.toList)).toList

def emptyAuthority : InviteAuthority := ⟨86400, Dict.empty, 0⟩

def plainAuthority : InviteAuthority :=
  (emptyAuthority.register plainInvites plainRegistration 0 0).1

lemma plainCalls_stay : plainAuthority.Stays plainInvites plainKey plainCalls := by
  have all : ∀ js ∈ plainCalls.inits,
      (plainAuthority.run plainInvites js).entries.contains plainKey := by
    decide +kernel
  exact fun js before => all js ((mem_inits js plainCalls).mpr before)

theorem plain_redemptions_accounted :
    granted plainInvites plainKey plainAuthority plainCalls = 2 ∧
      (granted plainInvites plainKey plainAuthority plainCalls : ℤ) ≤ 2 ∧
      granted plainInvites plainKey (plainAuthority.run plainInvites (plainCalls.take 4))
        (plainCalls.drop 4) = 0 := by
  have accounted := (redemptions_accounted plainInvites).1 emptyAuthority plainRegistration 0 0
    ⟨"gi_4141414141", 60000000, 2⟩ plainKey plainCalls (by decide +kernel) (by decide +kernel)
    plainCalls_stay
  exact ⟨by decide +kernel, accounted.1,
    accounted.2.1 (plainCalls.take 3) (.revoke plainToken "alice" 4) (plainCalls.drop 4) rfl
      (by decide +kernel)⟩

/-- The relay's registry is empty and the token is one euro sign, which upper-casing keeps. -/
theorem euro_redeem_raises :
    (emptyAuthority.redeem plainInvites "€" "bob" 1 1).2 = .error .unicode := by
  decide +kernel

end

end InviteAuthority
end Ghostlink.Invites
