import Ghostlink.Groups.Sync

/-! The roster of a local record: what it looks like when the record is built by creating,
joining or synchronizing a group, and what the events taken in afterwards leave of it. -/

namespace Ghostlink.Groups
open Collections Text Checks LocalGroupManager List Dict LocalGroupRecord GroupMember

def unknownSuite (cryptoSuite : String) : GroupError :=
  ⟨.validation, s!"Unknown crypto suite '{cryptoSuite}'.",
    "Choose one of: " ++ ", ".intercalate groupCryptoSuites ++ "."⟩

def LocalGroupRecord.build (groupId name : String) (ownerFingerprint : Fingerprint)
    (ownerPublicKeyHex : String) (myFingerprint : Fingerprint) (epoch : ℕ)
    (members : Dict Fingerprint GroupMember) (cryptoSuite : String) (now : Moment) :
    Except GroupError LocalGroupRecord :=
  match GroupId.ofString? groupId with
  | none => .error ⟨.validation, s!"Group id '{groupId}' is malformed.",
      "Group ids look like gl-group-XXXX-XXXX-XXXX."⟩
  | some gid => do
    if epoch < 1 then
      throw ⟨.validation, s!"Group epoch must be ≥ 1, got {epoch}.",
        "Epochs start at 1 at creation."⟩
    if cryptoSuite ∉ groupCryptoSuites then
      throw (unknownSuite cryptoSuite)
    let _ ← validateGroupName name
    return { groupId := gid, ownerFingerprint,
             ownerPublicKeyHex := ownerPublicKeyHex.toLower, myFingerprint,
             epoch, members, state := .active, updatedAt := now,
             epochLeapAt := none, events := [], suspect := false, cryptoSuite }

namespace LocalGroupManager

def identityFingerprintOf (P : Primitives) (identity : LocalIdentity) :
    Except GroupError Fingerprint :=
  match identity.fingerprint P with
  | none => .error ⟨.state, "The local identity key is malformed.", "Recreate the identity store."⟩
  | some fingerprint => .ok fingerprint

def createGroup (P : Primitives) (identity : LocalIdentity)
    (identityId nickname name displayName cryptoSuite : String)
    (granted : Except GroupError (String × ℕ)) (now : Moment) :
    Except GroupError LocalGroupRecord := do
  let cleanName ← validateGroupName name
  if cryptoSuite ∉ groupCryptoSuites then
    throw (unknownSuite cryptoSuite)
  let shown := if displayName ≠ "" then displayName else if nickname ≠ "" then nickname
    else identityId
  let (groupId, epoch) ← granted
  let myFingerprint ← identityFingerprintOf P identity
  let owner ← fromEventPayload
    ⟨myFingerprint, identityId, shown, identity.publicKeyHex, .owner, 1⟩
  build groupId cleanName myFingerprint identity.publicKeyHex myFingerprint epoch
    (Dict.empty.set myFingerprint owner) cryptoSuite now

structure GroupRedemption where
  groupId : String
  name : String
  ownerFingerprint : String
  ownerPublicKeyHex : String
  members : List MemberView
  epoch : ℕ
  cryptoSuite : String := defaultCryptoSuite

def recordFromRedemption (P : Primitives) (redemption : GroupRedemption) (identity : LocalIdentity)
    (now : Moment) : Except GroupError LocalGroupRecord := do
  let ownerFp ← requireValidFingerprint P redemption.ownerFingerprint "owner fingerprint"
  let keyed ← fingerprintForKeyHex P redemption.ownerPublicKeyHex
  if keyed ≠ ownerFp then
    throw ⟨.state, "The relay's owner key does not match the owner fingerprint.",
      "Treat this relay as untrustworthy — do not join."⟩
  let members ← verifiedMembers P redemption.members
  if (members.get? ownerFp).map (fun m => (m.role, m.publicKeyHex)) ≠
      some (.owner, redemption.ownerPublicKeyHex.toLower) then
    throw ⟨.state, "The roster snapshot has no consistent owner entry.",
      "Treat this relay as untrustworthy — do not join."⟩
  let myFingerprint ← identityFingerprintOf P identity
  build redemption.groupId redemption.name ownerFp redemption.ownerPublicKeyHex
    myFingerprint redemption.epoch members redemption.cryptoSuite now

/-- `join_group`, given what the relay answers: who is a member already adopts the first
snapshot, a candidate waits for the admission and adopts a second one. -/
def joinGroup (P : Primitives) (identity : LocalIdentity) (redemption : GroupRedemption)
    (attestation : Except GroupError GroupAttested) (admission : Except GroupError EventPacket)
    (reattestation : Except GroupError GroupAttested) (now : Moment) :
    Except GroupError LocalGroupRecord := do
  let myFingerprint ← identityFingerprintOf P identity
  let snapshot ← recordFromRedemption P redemption identity now
  let attested ← attestation
  if attested.role ≠ .candidate then
    recordFromAttested P snapshot attested myFingerprint now
  else
    let packet ← admission
    let event ← eventFromPacket P packet
    verifyEventSignature P snapshot event
    let reattested ← reattestation
    let epoch := reattested.epoch
    let reached := event.epoch
    if reattested.role = .candidate then
      throw ⟨.state, "The admission event arrived but the relay still lists us as a candidate.",
        "Treat this relay as untrustworthy — do not trust the roster."⟩
    if reattested.epoch < event.epoch then
      throw ⟨.epoch, s!"Relay epoch {epoch} is behind the admission event {reached}.",
        "Never regress an epoch — the join was refused."⟩
    recordFromAttested P snapshot reattested myFingerprint now

end LocalGroupManager

/-- The members that the relay lists in the answer which `join_group` adopts. -/
def adoptedReply (attestation reattestation : Except GroupError GroupAttested) : List MemberView :=
  let answer := if attestation.toOption.any fun attested => attested.role = .candidate
    then reattestation else attestation
  (answer.toOption.map GroupAttested.members).getD []

/-- How a record is built, with the members in the relay's reply. -/
inductive LocalGroupRecord.Built (P : Primitives) (r : LocalGroupRecord) : List MemberView → Prop
  | created (identity : LocalIdentity) (identityId nickname name displayName suite : String)
      (granted : Except GroupError (String × ℕ)) (now : Moment)
      (h : createGroup P identity identityId nickname name displayName suite granted now = .ok r) :
      Built P r []
  | joined (identity : LocalIdentity) (redemption : GroupRedemption)
      (attestation : Except GroupError GroupAttested) (admission : Except GroupError EventPacket)
      (reattestation : Except GroupError GroupAttested) (now : Moment)
      (h : joinGroup P identity redemption attestation admission reattestation now = .ok r) :
      Built P r (adoptedReply attestation reattestation)
  | synced (base : LocalGroupRecord) (attested : GroupAttested) (now : Moment)
      (h : recordFromAttested P base attested base.myFingerprint now = .ok r) :
      Built P r attested.members

def LocalGroupRecord.takeIn (P : Primitives) (r : LocalGroupRecord)
    (arrival : EventPacket × Moment) : LocalGroupRecord :=
  match intake P r arrival.1 arrival.2 with
  | .dropped => r
  | .flagged r' _ => r'.markSuspect arrival.2
  | .applied _ _ r' _ => r'

namespace LocalGroupRecord
variable {P : Primitives} {r r' : LocalGroupRecord}

/-- The owner is on the roster and is the only owner there, the record's user is on it, and
every key belongs to the fingerprint it is filed under. -/
structure Sound (P : Primitives) (r : LocalGroupRecord) : Prop where
  owner : r.members.contains r.ownerFingerprint
  sole : ∀ f m, r.members.get? f = some m → (m.role = .owner ↔ f = r.ownerFingerprint)
  mine : r.members.contains r.myFingerprint
  keyed : ∀ f m, r.members.get? f = some m → fingerprintForKeyHex P m.publicKeyHex = .ok f

structure Keyed (P : Primitives) (r : LocalGroupRecord) : Prop where
  mine : r.members.contains r.myFingerprint
  keyed : ∀ f m, r.members.get? f = some m → fingerprintForKeyHex P m.publicKeyHex = .ok f

/-- The role that the reply gives somebody; of several entries the last one counts. -/
def roleIn (reply : List MemberView) (f : Fingerprint) : Option GroupRole :=
  (reply.reverse.find? fun v => v.fingerprint = f).map MemberView.role

def SoleOwner (reply : List MemberView) (owner : Fingerprint) : Prop :=
  ∀ f, f ≠ owner → roleIn reply f ≠ some .owner

def OrderlyIntake (r : LocalGroupRecord) : Intake → Prop
  | .dropped => True
  | .flagged _ _ => True
  | .applied event joinMember _ _ =>
    (event.kind = .join → ∀ m ∈ joinMember, m.role ≠ .owner) ∧
      (event.kind = .left → event.subjectFingerprint = r.ownerFingerprint →
        r.ownerFingerprint = r.myFingerprint)

instance (r : LocalGroupRecord) : ∀ taken : Intake, Decidable (r.OrderlyIntake taken)
  | .dropped => .isTrue trivial
  | .flagged _ _ => .isTrue trivial
  | .applied _ _ _ _ => inferInstanceAs (Decidable (_ ∧ _))

def Orderly (P : Primitives) (r : LocalGroupRecord) (arrival : EventPacket × Moment) : Prop :=
  r.OrderlyIntake (intake P r arrival.1 arrival.2)

instance (P : Primitives) (r : LocalGroupRecord) (arrival : EventPacket × Moment) :
    Decidable (r.Orderly P arrival) :=
  inferInstanceAs (Decidable (r.OrderlyIntake (intake P r arrival.1 arrival.2)))

variable {m : GroupMember} {f : Fingerprint} {joinMember : Option GroupMember}
  {archived : LocalGroupState}

variable {v : MemberView} {payloads : List MemberView} {now : Moment} {name suite : String}

lemma verifiedMember_keyed (h : verifiedMember P v = .ok m) :
    fingerprintForKeyHex P m.publicKeyHex = .ok m.fingerprint := by
  simp only [verifiedMember, bind_eq_ok, refuse_eq_ok, pure_eq_ok] at h
  obtain ⟨m', _, f, keyed, same, _, rfl⟩ := h
  rw [keyed, not_not.mp same]

lemma get?_foldlM_fileMember {members members' : Dict Fingerprint GroupMember}
    (h : payloads.foldlM (fileMember P) members = .ok members') (found : members'.get? f = some m) :
    members.get? f = some m ∨ m.fingerprint = f ∧ ∃ v ∈ payloads, verifiedMember P v = .ok m := by
  induction payloads generalizing members with
  | nil =>
    cases h
    exact .inl found
  | cons v payloads ih =>
    simp only [foldlM_cons, fileMember, bind_eq_ok, pure_eq_ok] at h
    obtain ⟨_, ⟨m₀, verified, rfl⟩, h⟩ := h
    obtain earlier | ⟨named, w, mem, hw⟩ := ih h
    · rcases get?_of_set earlier with ⟨rfl, rfl⟩ | ⟨-, old⟩
      · exact .inr ⟨rfl, v, mem_cons_self, verified⟩
      · exact .inl old
    · exact .inr ⟨named, w, mem_cons_of_mem v mem, hw⟩

lemma verifiedMembers_keyed {members : Dict Fingerprint GroupMember}
    (h : verifiedMembers P payloads = .ok members)
    (found : members.get? f = some m) : fingerprintForKeyHex P m.publicKeyHex = .ok f := by
  simp only [verifiedMembers, bind_eq_ok, refuse_eq_ok, pure_eq_ok] at h
  obtain ⟨_, folded, _, rfl⟩ := h
  obtain earlier | ⟨rfl, v, _, verified⟩ := get?_foldlM_fileMember folded found
  · cases earlier
  · exact verifiedMember_keyed verified

lemma fromEventPayload_fields (h : fromEventPayload v = .ok m) :
    m.fingerprint = v.fingerprint ∧ m.publicKeyHex = v.publicKeyHex.toLower ∧ m.role = v.role := by
  unfold fromEventPayload at h
  split_ifs at h
  split at h
  · cases h
  · cases h
    exact ⟨rfl, rfl, rfl⟩

lemma role_foldlM_fileMember {members members' : Dict Fingerprint GroupMember}
    (h : payloads.foldlM (fileMember P) members = .ok members') (f) :
    (members'.get? f).map role = (roleIn payloads f).or ((members.get? f).map role) := by
  induction payloads generalizing members with
  | nil =>
    cases h
    rfl
  | cons v payloads ih =>
    simp only [foldlM_cons, fileMember, bind_eq_ok, pure_eq_ok] at h
    obtain ⟨_, ⟨m, verified, rfl⟩, h⟩ := h
    simp only [verifiedMember, bind_eq_ok, refuse_eq_ok, pure_eq_ok] at verified
    obtain ⟨_, read, _, _, _, _, rfl⟩ := verified
    obtain ⟨named, -, same⟩ := fromEventPayload_fields read
    rw [ih h, get?_set, named]
    by_cases own : v.fingerprint = f
    · simp [roleIn, find?_append, own, same]
    · simp [roleIn, find?_append, own, Ne.symm own]

structure Founded (P : Primitives) (r : LocalGroupRecord) (reply : List MemberView) : Prop where
  active : r.state = .active
  owned : (r.members.get? r.ownerFingerprint).map role = some .owner
  others : ∀ f, f ≠ r.ownerFingerprint → (r.members.get? f).map role = roleIn reply f
  roster : r.Keyed P

lemma founded_recordFromAttested {base attested}
    (h : recordFromAttested P base attested f now = .ok r) : r.Founded P attested.members := by
  obtain ⟨_, pinned, _, active, mine, present, owned, verified⟩ := recordFromAttested_ok h
  refine ⟨active, ?_, fun f _ => ?_, ?_, ?_⟩
  · rwa [pinned.ownerFingerprint]
  · simp only [verifiedMembers, bind_eq_ok, refuse_eq_ok, pure_eq_ok] at verified
    obtain ⟨_, folded, _, rfl⟩ := verified
    exact (role_foldlM_fileMember folded f).trans Option.or_none
  · rwa [mine]
  · intro f m found
    exact verifiedMembers_keyed verified found

lemma build_ok {groupId key owner mine epoch members}
    (h : build groupId name owner key mine epoch members suite now = .ok r) :
    r.state = .active ∧ r.ownerFingerprint = owner ∧ r.myFingerprint = mine ∧
      r.members = members := by
  unfold build at h
  split at h
  · cases h
  · simp only [refuse_eq_ok, bind_eq_ok, pure_eq_ok] at h
    obtain ⟨_, _, _, _, rfl⟩ := h
    exact ⟨rfl, rfl, rfl, rfl⟩

lemma identityFingerprintOf_keyed {identity : LocalIdentity}
    (h : identityFingerprintOf P identity = .ok f) :
    fingerprintForKeyHex P identity.publicKeyHex.toLower = .ok f := by
  unfold identityFingerprintOf at h
  split at h
  · cases h
  · rename_i f' hashed
    cases h
    obtain ⟨key, decoded, hashed⟩ := Option.bind_eq_some_iff.mp hashed
    simp [fingerprintForKeyHex, fromHex_toLower, decoded, hashed]

lemma founded_createGroup {identity identityId nickname displayName}
    {granted : Except GroupError (String × ℕ)}
    (h : createGroup P identity identityId nickname name displayName suite granted now = .ok r) :
    r.Founded P [] := by
  simp only [createGroup, bind_eq_ok, refuse_eq_ok] at h
  obtain ⟨_, _, _, ⟨groupId, epoch⟩, _, mine, hashed, owner, described, built⟩ := h
  obtain ⟨active, howner, hmine, members⟩ := build_ok built
  obtain ⟨_, key, role⟩ := fromEventPayload_fields described
  refine ⟨active, ?_, fun f other => ?_, ?_, ?_⟩
  · rw [howner, members, get?_set_self]
    exact congrArg some role
  · rw [members, get?_set_ne _ _ (howner ▸ other)]
    rfl
  · rw [hmine, members, contains_set]
    exact .inl rfl
  · rw [members]
    refine forall_of_set ?_ (fun _ _ found => by cases found)
    rw [key]
    exact identityFingerprintOf_keyed hashed

lemma Built.founded {reply} (h : Built P r reply) : r.Founded P reply := by
  cases h with
  | created _ _ _ _ _ _ _ _ h => exact founded_createGroup h
  | joined identity redemption attestation admission reattestation now h =>
    simp only [joinGroup, bind_eq_ok] at h
    obtain ⟨mine, _, snapshot, _, attested, rfl, h⟩ := h
    split_ifs at h with member
    · have reply : adoptedReply (.ok attested) reattestation = attested.members := by
        simp [adoptedReply, Except.toOption, member]
      exact reply ▸ founded_recordFromAttested h
    · simp only [bind_eq_ok, refuse_eq_ok] at h
      obtain ⟨packet, _, event, _, _, _, reattested, rfl, _, _, h⟩ := h
      have reply : adoptedReply (.ok attested) (.ok reattested) = reattested.members := by
        simp [adoptedReply, Except.toOption, not_not.mp member]
      exact reply ▸ founded_recordFromAttested h
  | synced base attested now h => exact founded_recordFromAttested h

lemma vetEvent_keyed {packet event} (h : vetEvent P r packet event = .ok joinMember)
    (described : joinMember = some m) :
    fingerprintForKeyHex P m.publicKeyHex = .ok m.fingerprint := by
  subst described
  simp only [vetEvent, bind_eq_ok] at h
  obtain ⟨_, _, h⟩ := h
  split_ifs at h
  · simp only [bind_eq_ok, pure_eq_ok, Option.some.injEq] at h
    obtain ⟨m', joined, rfl⟩ := h
    unfold joinMemberFromPacket at joined
    split at joined
    · cases joined
    · simp only [bind_eq_ok, refuse_eq_ok, pure_eq_ok] at joined
      obtain ⟨v, _, m', verified, _, rfl⟩ := joined
      exact verifiedMember_keyed verified
  · cases h

lemma takeIn_cases (P) (r : LocalGroupRecord) (arrival : EventPacket × Moment) :
    ((∃ suspect updatedAt, r.takeIn P arrival =
        { r with suspect, updatedAt }) ∧ r.Orderly P arrival) ∨
      ∃ event joinMember r₁ notice, r.state = .active ∧ r.Effect event joinMember r₁ ∧
        r.takeIn P arrival = r₁.advance event arrival.2 ∧
        (∀ m, joinMember = some m → fingerprintForKeyHex P m.publicKeyHex = .ok m.fingerprint) ∧
        (r.Orderly P arrival ↔ r.OrderlyIntake (.applied event joinMember r₁ notice)) := by
  unfold takeIn Orderly
  obtain dropped | ⟨e, suspect, flagged⟩ |
    ⟨event, joinMember, r₁, notice, applied, -, vetted, active, effect, -⟩ :=
      intake_cases P r arrival.1 arrival.2
  · rw [dropped]
    exact .inl ⟨⟨r.suspect, r.updatedAt, rfl⟩, trivial⟩
  · rw [flagged]
    exact .inl ⟨⟨true, arrival.2, rfl⟩, trivial⟩
  · rw [applied]
    exact .inr ⟨event, joinMember, r₁, notice, active, effect, rfl, fun m => vetEvent_keyed vetted,
      Iff.rfl⟩

lemma active_of_depart
    (terminal : archived ≠ .active) (active : (r.depart f archived).state = .active) :
    f ≠ r.myFingerprint := by
  rintro rfl
  simp only [depart, if_true] at active
  exact terminal active

lemma Keyed.depart (h : r.Keyed P)
    (other : f ≠ r.myFingerprint) : (r.depart f archived).Keyed P := by
  exact ⟨(contains_erase _ _ _).mpr ⟨other.symm, h.mine⟩,
    fun f' m found => h.keyed f' m (get?_of_erase found)⟩

lemma Keyed.effect {event} (h : r.Keyed P) (effect : r.Effect event joinMember r')
    (vetted : ∀ m, joinMember = some m →
      fingerprintForKeyHex P m.publicKeyHex = .ok m.fingerprint)
    (active : r'.state = .active) : r'.Keyed P := by
  cases effect with
  | joined m _ _ described named =>
    refine ⟨(contains_set _ _ _ _).mpr (.inr h.mine), forall_of_set ?_ h.keyed⟩
    rw [vetted m described, named]
  | left | removed => exact h.depart (active_of_depart (by decide) active)
  | dissolved => cases active

lemma keyed_takeIn (h : r.state = .active → r.Keyed P) (arrival : EventPacket × Moment)
    (active : (r.takeIn P arrival).state = .active) : (r.takeIn P arrival).Keyed P := by
  obtain ⟨⟨suspect, updatedAt, same⟩, -⟩ |
    ⟨event, joinMember, r₁, -, before, effect, after, vetted, -⟩ := takeIn_cases P r arrival
  · rw [same] at active ⊢
    obtain ⟨mine, keyed⟩ := h active
    exact ⟨mine, keyed⟩
  · rw [after] at active ⊢
    obtain ⟨mine, keyed⟩ := (h before).effect effect vetted active
    exact ⟨mine, keyed⟩

lemma Sound.depart (h : r.Sound P) (other : f ≠ r.myFingerprint) :
    (r.depart f archived).Sound P ↔ f ≠ r.ownerFingerprint := by
  have keyed : (r.depart f archived).Keyed P := Keyed.depart ⟨h.mine, h.keyed⟩ other
  constructor
  · rintro after rfl
    exact ((contains_erase _ _ _).mp after.owner).1 rfl
  · intro guest
    refine ⟨(contains_erase _ _ _).mpr ⟨guest.symm, h.owner⟩, ?_, keyed.mine, keyed.keyed⟩
    intro f' m found
    exact h.sole f' m (get?_of_erase found)

lemma Sound.join (h : r.Sound P) (absent : r.members.contains f = false)
    (keyed : fingerprintForKeyHex P m.publicKeyHex = .ok f) :
    Sound P { r with members := r.members.set f m } ↔ m.role ≠ .owner := by
  have guest : f ≠ r.ownerFingerprint := by
    rintro rfl
    exact absurd h.owner (Bool.eq_false_iff.mp absent)
  constructor
  · intro after second
    exact guest ((after.sole f m (get?_set_self ..)).mp second)
  · intro plain
    exact ⟨(contains_set _ _ _ _).mpr (.inr h.owner),
      forall_of_set (iff_of_false plain guest) h.sole,
      (contains_set _ _ _ _).mpr (.inr h.mine), forall_of_set keyed h.keyed⟩

lemma Sound.effect {event : GroupEvent} (h : r.Sound P)
    (effect : r.Effect event joinMember r') (before : r.state = .active)
    (vetted : ∀ m, joinMember = some m →
      fingerprintForKeyHex P m.publicKeyHex = .ok m.fingerprint) (notice) :
    (r'.state = .active → r'.Sound P) ↔ r.OrderlyIntake (.applied event joinMember r' notice) := by
  rw [OrderlyIntake]
  cases effect with
  | joined m kind absent described named =>
    have keyed := vetted m described
    rw [named] at keyed
    have sound := h.join absent keyed
    constructor
    · intro after
      refine ⟨?_, fun left => absurd (kind.symm.trans left) (by decide)⟩
      intro _ m' described'
      cases described.symm.trans described'
      exact sound.mp (after before)
    · rintro ⟨plain, -⟩ -
      exact sound.mpr (plain kind m described)
  | left kind =>
    constructor
    · intro after
      refine ⟨fun join => absurd (kind.symm.trans join) (by decide), ?_⟩
      intro _ owner
      by_contra other
      have stays : event.subjectFingerprint ≠ r.myFingerprint := by
        rwa [owner]
      have active : (r.depart event.subjectFingerprint .left).state = .active := by
        simp [LocalGroupRecord.depart, stays, before]
      exact (h.depart stays).mp (after active) owner
    · rintro ⟨-, leaving⟩ active
      have stays := active_of_depart (by decide) active
      apply (h.depart stays).mpr
      intro owner
      exact stays (owner.trans (leaving kind owner))
  | removed kind present guest =>
    refine iff_of_true ?_ ⟨fun join => absurd (kind.symm.trans join) (by decide),
      fun left => absurd (kind.symm.trans left) (by decide)⟩
    intro active
    exact (h.depart (active_of_depart (by decide) active)).mpr guest
  | dissolved kind =>
    refine iff_of_true ?_ ⟨fun join => absurd (kind.symm.trans join) (by decide),
      fun left => absurd (kind.symm.trans left) (by decide)⟩
    rintro ⟨⟩

lemma sound_takeIn_iff (h : r.state = .active → r.Sound P) (arrival : EventPacket × Moment) :
    ((r.takeIn P arrival).state = .active → (r.takeIn P arrival).Sound P) ↔
      r.Orderly P arrival := by
  obtain ⟨⟨suspect, updatedAt, same⟩, orderly⟩ |
    ⟨event, joinMember, r₁, notice, before, effect, after, vetted, orderly⟩ := takeIn_cases P r arrival
  · refine iff_of_true ?_ orderly
    rw [same]
    intro active
    obtain ⟨owner, sole, mine, keyed⟩ := h active
    exact ⟨owner, sole, mine, keyed⟩
  · rw [orderly, after, ← (h before).effect effect before vetted notice]
    constructor
    · intro sound active
      obtain ⟨owner, sole, mine, keyed⟩ := sound active
      exact ⟨owner, sole, mine, keyed⟩
    · intro sound active
      obtain ⟨owner, sole, mine, keyed⟩ := sound active
      exact ⟨owner, sole, mine, keyed⟩

lemma keyed_run {reply} (built : Built P r reply) (arrivals : List (EventPacket × Moment))
    (active : (arrivals.foldl (takeIn P) r).state = .active) :
    (arrivals.foldl (takeIn P) r).Keyed P := by
  revert active
  induction arrivals using List.reverseRecOn with
  | nil =>
    intro _
    exact built.founded.roster
  | append_singleton arrivals arrival ih =>
    rw [foldl_append, foldl_cons, foldl_nil]
    exact keyed_takeIn ih arrival

lemma Founded.sound_iff {reply} (h : r.Founded P reply) :
    r.Sound P ↔ SoleOwner reply r.ownerFingerprint := by
  obtain ⟨m₀, found₀, role₀⟩ := Option.map_eq_some_iff.mp h.owned
  constructor
  · intro sound f other listed
    rw [← h.others f other] at listed
    obtain ⟨m, found, owner⟩ := Option.map_eq_some_iff.mp listed
    exact other ((sound.sole f m found).mp owner)
  · intro sole
    refine ⟨?_, fun f m found => ⟨fun owner => ?_, ?_⟩, h.roster.mine, h.roster.keyed⟩
    · simp [Dict.contains, found₀]
    · by_contra other
      refine sole f other ?_
      rw [← h.others f other, found, Option.map_some, owner]
    · rintro rfl
      cases found₀.symm.trans found
      exact role₀

/-- However a record was built and whatever it takes in, its user stays on the roster and the
keys stay with their fingerprints while it is active. The owner stays the one owner exactly
when the relay's reply names no second one and every packet is orderly. -/
theorem local_roster_sound_iff (P : Primitives) (r : LocalGroupRecord) (reply : List MemberView)
    (built : Built P r reply) (arrivals : List (EventPacket × Moment)) :
    (∀ before, before <+: arrivals → (before.foldl (takeIn P) r).state = .active →
        (before.foldl (takeIn P) r).Keyed P) ∧
      ((∀ before, before <+: arrivals → (before.foldl (takeIn P) r).state = .active →
          (before.foldl (takeIn P) r).Sound P) ↔
        SoleOwner reply r.ownerFingerprint ∧
          Runs.Along (takeIn P) (Orderly P) r arrivals) := by
  refine ⟨fun before _ => keyed_run built before, ?_⟩
  have founded := built.founded
  have along (start : r.Sound P) : Runs.Along (takeIn P) (Orderly P) r arrivals ↔
      ∀ before, before <+: arrivals → (before.foldl (takeIn P) r).state = .active →
        (before.foldl (takeIn P) r).Sound P :=
    Runs.along_iff_forall_moment (J := fun _ => True)
      (P := fun s : LocalGroupRecord => s.state = .active → s.Sound P) trivial
      (fun _ => start) (fun _ _ _ _ _ _ => trivial) (fun _ i _ _ h => sound_takeIn_iff h i)
  constructor
  · intro always
    have start := always [] nil_prefix founded.active
    exact ⟨founded.sound_iff.mp start, (along start).mpr always⟩
  · rintro ⟨sole, orderly⟩
    exact (along (founded.sound_iff.mpr sole)).mp orderly

section
open GroupAuthority Mirror Network SyncingClient

def aliceCreates : Except GroupError LocalGroupRecord :=
  createGroup plainPrimitives ⟨plainKey '0', id⟩ "GL-AAAA" "" "NightWatch" "member" "mesh-v1"
    (.ok (nightWatch.val, 1)) noon.wall

def bobSyncs : Except GroupError LocalGroupRecord :=
  recordFromAttested plainPrimitives { aliceRecord with myFingerprint := bob } bobAttested bob
    noon.wall

def eventOf (kind : GroupEventKind) (epoch : ℕ) (subject : Fingerprint)
    (member : Option MemberView) : EventPacket × Moment :=
  (⟨nightWatch.val, some ⟨epoch, kind, subject.val, noon.wall, alice.val, [0]⟩,
    member.map .ok⟩, noon.wall)

def bobAdmitted : EventPacket × Moment := eventOf .join 2 bob (some (plainView bob '1' .member 2))

theorem local_roster_sound_admission :
    ∃ r, Built plainPrimitives r [] ∧ (r.takeIn plainPrimitives bobAdmitted).epoch = 2 ∧
      (r.takeIn plainPrimitives bobAdmitted).Sound plainPrimitives := by
  have facts : aliceCreates.toOption.any (fun r => decide (r.Orderly plainPrimitives bobAdmitted ∧
      (r.takeIn plainPrimitives bobAdmitted).epoch = 2 ∧
      (r.takeIn plainPrimitives bobAdmitted).state = .active)) := by decide +kernel
  obtain ⟨r, created, facts⟩ := exists_of_any facts
  obtain ⟨orderly, epoch, active⟩ := of_decide_eq_true facts
  have built : Built plainPrimitives r [] := .created _ _ _ _ _ _ _ _ created
  have sound := (local_roster_sound_iff plainPrimitives r [] built [bobAdmitted]).2.mpr
    ⟨by rintro f - ⟨⟩, orderly, trivial⟩
  exact ⟨r, built, epoch, sound [bobAdmitted] (prefix_refl _) active⟩

/-- The owner signs a leave of their own, which everybody else accepts; and an admission that
the owner signed comes with the descriptor of an owner. -/
theorem roster_without_or_with_two_owners :
    (∃ r, Built plainPrimitives r bobAttested.members ∧
      let r' := r.takeIn plainPrimitives (eventOf .left 3 alice none)
      r'.state = .active ∧ r'.members.contains r'.ownerFingerprint = false) ∧
    ∃ r, Built plainPrimitives r [] ∧
      let r' := r.takeIn plainPrimitives (eventOf .join 2 bob (some (plainView bob '1' .owner 1)))
      r'.state = .active ∧ r'.members.values.map role = [.owner, .owner] := by
  have leaves : bobSyncs.toOption.any (fun r =>
      let r' := r.takeIn plainPrimitives (eventOf .left 3 alice none)
      decide (r'.state = .active ∧ r'.members.contains r'.ownerFingerprint = false)) := by
    decide +kernel
  have second : aliceCreates.toOption.any (fun r =>
      let r' := r.takeIn plainPrimitives (eventOf .join 2 bob (some (plainView bob '1' .owner 1)))
      decide (r'.state = .active ∧
        r'.members.values.map role = [.owner, .owner])) := by
    decide +kernel
  obtain ⟨r, synced, after⟩ := exists_of_any leaves
  obtain ⟨q, created, after'⟩ := exists_of_any second
  exact ⟨⟨r, .synced _ _ _ synced, of_decide_eq_true after⟩,
    ⟨q, .created _ _ _ _ _ _ _ _ created, of_decide_eq_true after'⟩⟩

end
end LocalGroupRecord
end Ghostlink.Groups
