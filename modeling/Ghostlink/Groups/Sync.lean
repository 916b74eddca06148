import Ghostlink.Groups.SignedRosters

/-! A client brings its record of a group up to date from what the relay attests. The record
is loaded before the round trip and stored after it, and events of the group may be taken in
while the answer is under way. -/

namespace Ghostlink.Groups
open Collections Text Checks LocalGroupManager

/-- A row of the history that a relay sends along; `fields` is empty when one does not parse. -/
structure HistoryRow where
  group : String
  fields : Option EventFields

structure GroupAttested where
  role : AttestRole
  epoch : ℕ
  members : List MemberView
  events : List HistoryRow
  cryptoSuite : String := defaultCryptoSuite

def GroupEvent.tailKey (event : GroupEvent) : ℕ × GroupEventKind × Fingerprint :=
  (event.epoch, event.kind, event.subjectFingerprint)

namespace LocalGroupRecord

def markSuspect (r : LocalGroupRecord) (now : Moment) : LocalGroupRecord :=
  { r with suspect := true, updatedAt := now }

def markDefunct (r : LocalGroupRecord) (now : Moment) : Except GroupError LocalGroupRecord := do
  r.requireActive
  return { r with state := .defunct, updatedAt := now }

end LocalGroupRecord

namespace LocalGroupManager

def fileMember (P : Primitives) (members : Dict Fingerprint GroupMember) (payload : MemberView) :
    Except GroupError (Dict Fingerprint GroupMember) := do
  let member ← verifiedMember P payload
  return members.set member.fingerprint member

def verifiedMembers (P : Primitives) (payloads : List MemberView) :
    Except GroupError (Dict Fingerprint GroupMember) := do
  let members ← payloads.foldlM (fileMember P) Dict.empty
  if members.size = 0 ∨ maxGroupMembers < members.size then
    throw ⟨.state, s!"A group roster must hold 1..{maxGroupMembers} members.",
      "Treat this relay as untrustworthy — do not trust the roster."⟩
  return members

def verifyTailEvent (P : Primitives) (old merged : LocalGroupRecord) (event : GroupEvent) :
    Except GroupError Unit :=
  let verified (keyHex : String) : Except GroupError Unit :=
    if verifySignature P ((fromHex keyHex).getD []) event.signature event.canonical = false then
      .error ⟨.permission, "A roster-history signature does not verify.",
        "This relay is misbehaving — the record stays unchanged."⟩
    else .ok ()
  if event.kind = .left then
    match (old.members.get? event.subjectFingerprint).or
        (merged.members.get? event.subjectFingerprint) with
    | none => .ok ()
    | some member =>
      if event.signerFingerprint ≠ member.fingerprint then
        .error ⟨.permission, "A leave event was not signed by the leaving member.",
          "This relay is misbehaving — the record stays unchanged."⟩
      else verified member.publicKeyHex
  else if event.signerFingerprint ≠ merged.ownerFingerprint then
    .error ⟨.permission, "A roster-history row was not signed by the pinned owner.",
      "This relay is misbehaving — the record stays unchanged."⟩
  else verified merged.ownerPublicKeyHex

def takeTailRow (P : Primitives) (base merged : LocalGroupRecord) (events : List GroupEvent)
    (row : HistoryRow) : Except GroupError (List GroupEvent) :=
  -- a stored row passes the checks of an event packet; one that does not is dropped
  match eventFromPacket P ⟨row.group, row.fields, none⟩ with
  | .error _ => .ok events
  | .ok event =>
    if base.epoch < event.epoch ∧ event.tailKey ∉ events.map GroupEvent.tailKey then do
      verifyTailEvent P base merged event
      return events ++ [event]
    else .ok events

def recordFromAttested (P : Primitives) (base : LocalGroupRecord) (attested : GroupAttested)
    (myFingerprint : Fingerprint) (now : Moment) : Except GroupError LocalGroupRecord := do
  let epoch := attested.epoch
  let pinned := base.epoch
  let suite := attested.cryptoSuite
  let pinnedSuite := base.cryptoSuite
  if attested.epoch < base.epoch then
    throw ⟨.epoch, s!"Relay epoch {epoch} is behind the pinned epoch {pinned}.",
      "Never regress an epoch — treat this relay as untrustworthy."⟩
  if base.cryptoSuite ≠ "" ∧ attested.cryptoSuite ≠ base.cryptoSuite then
    throw ⟨.state, s!"Relay crypto suite '{suite}' differs from the pinned '{pinnedSuite}'.",
      "A crypto-suite change is an owner action, not a roster answer."⟩
  let members ← verifiedMembers P attested.members
  if (members.get? base.ownerFingerprint).map GroupMember.role ≠ some .owner then
    throw ⟨.state, "The relay roster has no consistent owner entry.",
      "Treat this relay as untrustworthy — the record stays unchanged."⟩
  if ¬ members.contains myFingerprint then
    throw ⟨.notMember, "The relay roster no longer contains your identity.",
      "You may have been removed while offline."⟩
  let merged : LocalGroupRecord :=
    { base with
      myFingerprint
      epoch := attested.epoch
      members
      state := .active
      updatedAt := now
      epochLeapAt := if base.epoch < attested.epoch then some now else base.epochLeapAt
      suspect := false }
  let events ← attested.events.foldlM (takeTailRow P base merged) base.events
  return { merged with events := Group.keepLast groupEventsKept events }

/-- `sync_group` up to its round trip: the copy of the record it goes on with. -/
def beginSync (m : LocalGroupManager) (groupId : String) : Except GroupError LocalGroupRecord :=
  match m.get groupId with
  | none => .error ⟨.unknown, s!"No local record of group {groupId}.",
      "Create or join the group first (ghostlink group list shows yours)."⟩
  | some record => do
    record.requireActive
    return record

/-- The record that `sync_group` stores once the relay has answered, if any, and what it
returns or raises. -/
def syncOutcome (P : Primitives) (record : LocalGroupRecord)
    (answer : Except GroupError GroupAttested) (now : Moment) :
    Option LocalGroupRecord × Except GroupError LocalGroupRecord :=
  let groupId := record.groupId.val
  let pinned := record.epoch
  match answer with
  | .error e =>
    if e.kind = .unknown then
      match record.markDefunct now with
      | .error e => (none, .error e)
      | .ok defunct => (some defunct, .error ⟨.defunct,
          s!"The relay no longer hosts group {groupId}.",
          "Relays hold groups in memory; after a restart the group is gone."⟩)
    else (none, .error e)
  | .ok attested =>
    let epoch := attested.epoch
    if attested.epoch < record.epoch then
      (some (record.markSuspect now), .error ⟨.epoch,
        s!"Relay epoch {epoch} is behind the local epoch {pinned}.",
        "Never regress an epoch — the record was marked suspect."⟩)
    else
      match recordFromAttested P record attested record.myFingerprint now with
      | .error e => (some (record.markSuspect now), .error e)
      | .ok merged => (some merged, .ok merged)

def finishSync (P : Primitives) (m : LocalGroupManager) (record : LocalGroupRecord)
    (answer : Except GroupError GroupAttested) (now : Moment) :
    LocalGroupManager × Except GroupError LocalGroupRecord :=
  let (stored, outcome) := syncOutcome P record answer now
  (stored.elim m m.save, outcome)

variable {P : Primitives} {m : LocalGroupManager}

variable {r : LocalGroupRecord}

lemma requireActive_eq_ok {u} : r.requireActive = .ok u ↔ r.state = .active := by
  unfold LocalGroupRecord.requireActive
  split_ifs with archived
  · exact ⟨fun h => (by cases h), fun h => absurd h archived⟩
  · exact ⟨fun _ => not_not.mp archived, fun _ => rfl⟩

lemma beginSync_ok {groupId} (h : m.beginSync groupId = .ok r) :
    m.records.get? r.groupId = some r ∧ r.state = .active := by
  unfold beginSync at h
  cases loaded : m.get groupId with
  | none =>
    simp [loaded] at h
  | some record =>
    simp only [loaded, bind_eq_ok, pure_eq_ok] at h
    obtain ⟨_, active, rfl⟩ := h
    obtain ⟨gid, _, stored⟩ := Option.bind_eq_some_iff.mp loaded
    refine ⟨?_, requireActive_eq_ok.mp active⟩
    rwa [m.filed gid record stored]

end LocalGroupManager

namespace LocalGroupRecord
open LocalGroupManager
variable {P : Primitives} {r r' r'' : LocalGroupRecord} {now : Moment}

structure Pinned (r r' : LocalGroupRecord) : Prop where
  groupId : r'.groupId = r.groupId
  ownerFingerprint : r'.ownerFingerprint = r.ownerFingerprint
  ownerPublicKeyHex : r'.ownerPublicKeyHex = r.ownerPublicKeyHex
  cryptoSuite : r'.cryptoSuite = r.cryptoSuite

lemma Pinned.refl (r : LocalGroupRecord) : r.Pinned r := ⟨rfl, rfl, rfl, rfl⟩

lemma Pinned.symm (h : r.Pinned r') : r'.Pinned r :=
  ⟨h.groupId.symm, h.ownerFingerprint.symm, h.ownerPublicKeyHex.symm, h.cryptoSuite.symm⟩

lemma Pinned.trans (h : r.Pinned r') (h' : r'.Pinned r'') : r.Pinned r'' :=
  ⟨h'.groupId.trans h.groupId, h'.ownerFingerprint.trans h.ownerFingerprint,
    h'.ownerPublicKeyHex.trans h.ownerPublicKeyHex, h'.cryptoSuite.trans h.cryptoSuite⟩

def Forward (r r' : LocalGroupRecord) : Prop :=
  r.epoch ≤ r'.epoch ∧ (r'.state = .active → r.state = .active)

lemma Effect.pinned {event joinMember} (h : r.Effect event joinMember r') : r.Pinned r' := by
  cases h with
  | joined | left | removed | dissolved => exact ⟨rfl, rfl, rfl, rfl⟩

lemma recordFromAttested_ok {attested : GroupAttested} {f}
    (h : recordFromAttested P r attested f now = .ok r') :
    r.epoch ≤ attested.epoch ∧ r.Pinned r' ∧ r'.epoch = attested.epoch ∧ r'.state = .active ∧
      r'.myFingerprint = f ∧ r'.members.contains f ∧
      (r'.members.get? r.ownerFingerprint).map GroupMember.role = some .owner ∧
      verifiedMembers P attested.members = .ok r'.members := by
  simp only [recordFromAttested, refuse_eq_ok, bind_eq_ok, pure_eq_ok] at h
  obtain ⟨epoch, _, members, verified, owner, mine, events, _, rfl⟩ := h
  exact ⟨Nat.le_of_not_lt epoch, ⟨rfl, rfl, rfl, rfl⟩, rfl, rfl, rfl, not_not.mp mine,
    not_not.mp owner, verified⟩

def settledEpoch (P : Primitives) (r : LocalGroupRecord) (attested : GroupAttested)
    (now : Moment) : ℕ :=
  match recordFromAttested P r attested r.myFingerprint now with
  | .ok _ => attested.epoch
  | .error _ => r.epoch

lemma syncOutcome_attested (P now) (active : r.state = .active) (attested) :
    ∃ r', (syncOutcome P r (.ok attested) now).1 = some r' ∧ r.Pinned r' ∧
      r'.state = .active ∧ r'.epoch = settledEpoch P r attested now := by
  unfold syncOutcome settledEpoch
  dsimp only
  cases built : recordFromAttested P r attested r.myFingerprint now with
  | error =>
    have suspected : r.Pinned (r.markSuspect now) := ⟨rfl, rfl, rfl, rfl⟩
    split_ifs
    · exact ⟨_, rfl, suspected, active, rfl⟩
    · exact ⟨_, rfl, suspected, active, rfl⟩
  | ok merged =>
    obtain ⟨epoch, pinned, reached, adopted, -⟩ := recordFromAttested_ok built
    rw [if_neg (Nat.not_lt.mpr epoch)]
    exact ⟨merged, rfl, pinned, adopted, reached⟩

lemma syncOutcome_failed (P now) (active : r.state = .active) (e : GroupError) :
    (e.kind ≠ .unknown ∧ (syncOutcome P r (.error e) now).1 = none) ∨
    (e.kind = .unknown ∧ ∃ r', (syncOutcome P r (.error e) now).1 = some r' ∧ r.Pinned r' ∧
      r'.state = .defunct ∧ r'.epoch = r.epoch) := by
  unfold syncOutcome
  dsimp only
  split_ifs with unknown
  · have marked : r.markDefunct now = .ok { r with state := .defunct, updatedAt := now } := by
      simp [markDefunct, requireActive_eq_ok (u := ()) |>.mpr active]
    rw [marked]
    exact .inr ⟨unknown, _, rfl, ⟨rfl, rfl, rfl, rfl⟩, rfl, rfl⟩
  · exact .inl ⟨unknown, rfl⟩

end LocalGroupRecord

structure SyncingClient where
  manager : LocalGroupManager
  syncs : List LocalGroupRecord

inductive SyncEvent
  | sync (groupId : String)
  | answer (task : ℕ) (answer : Except GroupError GroupAttested) (now : Moment)
  | event (packet : EventPacket) (now : Moment)

namespace SyncingClient
open LocalGroupRecord

def step (P : Primitives) (s : SyncingClient) : SyncEvent → SyncingClient
  | .sync groupId =>
    match s.manager.beginSync groupId with
    | .error _ => s
    | .ok record => { s with syncs := s.syncs ++ [record] }
  | .answer task answer now =>
    match s.syncs[task]? with
    | none => s
    | some record =>
      { manager := (s.manager.finishSync P record answer now).1, syncs := s.syncs.eraseIdx task }
  | .event packet now => { s with manager := (s.manager.onGroupEvent P packet now).1 }

def run (P : Primitives) (m : LocalGroupManager) (events : List SyncEvent) : SyncingClient :=
  events.foldl (step P) ⟨m, []⟩

def record? (s : SyncingClient) (gid : GroupId) : Option LocalGroupRecord :=
  s.manager.records.get? gid

def Keeps (s s' : SyncingClient) : Prop :=
  ∀ gid r, s.record? gid = some r → ∃ r', s'.record? gid = some r' ∧ r.Pinned r'

def Advances (s s' : SyncingClient) : Prop :=
  ∀ gid r r', s.record? gid = some r → s'.record? gid = some r' → r.Forward r'

/-- An answer finds the stored record active and no further than what it is about to store;
when the relay has lost the group, only the epoch matters. -/
def Timely (P : Primitives) (s : SyncingClient) : SyncEvent → Prop
  | .answer task (.ok attested) now =>
    ∀ loaded stored, s.syncs[task]? = some loaded → s.record? loaded.groupId = some stored →
      stored.state = .active ∧ stored.epoch ≤ loaded.settledEpoch P attested now
  | .answer task (.error e) _ =>
    ∀ loaded stored, s.syncs[task]? = some loaded → s.record? loaded.groupId = some stored →
      e.kind = .unknown → stored.epoch ≤ loaded.epoch
  | _ => True

def Waiting (s : SyncingClient) : Prop :=
  ∀ loaded ∈ s.syncs, loaded.state = .active ∧
    ∃ stored, s.record? loaded.groupId = some stored ∧ loaded.Pinned stored

variable {P : Primitives} {s s' s'' : SyncingClient}

lemma Keeps.refl (s : SyncingClient) : s.Keeps s := fun _ r h => ⟨r, h, .refl r⟩

lemma Keeps.trans (h : s.Keeps s') (h' : s'.Keeps s'') : s.Keeps s'' := by
  intro gid r stored
  obtain ⟨r', stored', pinned⟩ := h gid r stored
  obtain ⟨r'', stored'', pinned'⟩ := h' gid r' stored'
  exact ⟨r'', stored'', pinned.trans pinned'⟩

lemma Advances.refl (s : SyncingClient) : s.Advances s := by
  intro gid r r' stored stored'
  cases stored.symm.trans stored'
  exact ⟨le_rfl, id⟩

variable {gid : GroupId} {r r' loaded : LocalGroupRecord} (m : LocalGroupManager)

lemma keeps_of_set (stored : s.record? gid = some r)
    (replaced : s'.manager.records = s.manager.records.set gid r') (pinned : r.Pinned r') :
    s.Keeps s' := by
  intro gid' q found
  simp only [record?, replaced, Dict.get?_set]
  split_ifs with same
  · subst same
    cases stored.symm.trans found
    exact ⟨r', rfl, pinned⟩
  · exact ⟨q, found, .refl q⟩

lemma advances_of_set (stored : s.record? gid = some r)
    (replaced : s'.manager.records = s.manager.records.set gid r') :
    s.Advances s' ↔ r.Forward r' := by
  constructor
  · intro h
    apply h gid r r' stored
    simp [record?, replaced, Dict.get?_set_self]
  · intro forward gid' q q' found found'
    simp only [record?, replaced, Dict.get?_set] at found'
    split_ifs at found' with same
    · subst same
      cases stored.symm.trans found
      cases found'
      exact forward
    · cases found.symm.trans found'
      exact ⟨le_rfl, id⟩

lemma onGroupEvent_stores (packet now) : (m.onGroupEvent P packet now).1.records = m.records ∨
      ∃ gid r r', m.records.get? gid = some r ∧
        (m.onGroupEvent P packet now).1.records = m.records.set gid r' ∧
        r.Pinned r' ∧ r.Forward r' := by
  rw [onGroupEvent_eq]
  cases loaded : m.get packet.group with
  | none => exact .inl rfl
  | some r =>
    obtain ⟨gid, -, stored⟩ := Option.bind_eq_some_iff.mp loaded
    have filed := m.filed gid r stored
    obtain dropped | ⟨e, suspect, flagged⟩ |
      ⟨event, joinMember, r₁, notice, applied, -, -, active, effect, advances⟩ :=
        intake_cases P r packet now
    · dsimp only
      rw [dropped]
      exact .inl rfl
    · dsimp only
      rw [flagged]
      refine .inr ⟨gid, r, r.markSuspect now, stored, ?_, ⟨rfl, rfl, rfl, rfl⟩, le_rfl, id⟩
      exact congrArg (fun g => m.records.set g (r.markSuspect now)) filed
    · dsimp only
      rw [applied]
      refine .inr ⟨gid, r, r₁.advance event now, stored, ?_, { effect.pinned with }, ?_,
        fun _ => active⟩
      · have same : (r₁.advance event now).groupId = gid := advances.groupId.1.trans filed
        simp [save, same]
      · rw [advances.epoch.2]
        exact Nat.le_succ r.epoch

lemma finishSync_stores {m : LocalGroupManager} {answer now}
    (outcome : (syncOutcome P loaded answer now).1 = some r')
    (pinned : loaded.Pinned r') :
    (m.finishSync P loaded answer now).1.records = m.records.set loaded.groupId r' := by
  simp [finishSync, outcome, save, pinned.groupId]

lemma step_cases (waiting : s.Waiting) (i) :
    ((s.step P i).manager.records = s.manager.records ∧ s.Timely P i) ∨
      ∃ gid r r', s.record? gid = some r ∧
        (s.step P i).manager.records = s.manager.records.set gid r' ∧ r.Pinned r' ∧
        (r.Forward r' ↔ s.Timely P i) := by
  cases i with
  | sync =>
    refine .inl ⟨?_, trivial⟩
    simp only [step]
    split <;> rfl
  | event packet now =>
    obtain same | ⟨gid, r, r', stored, replaced, pinned, forward⟩ :=
      onGroupEvent_stores s.manager packet now
    · exact .inl ⟨same, trivial⟩
    · exact .inr ⟨gid, r, r', stored, replaced, pinned, iff_of_true forward trivial⟩
  | answer task answer now =>
    simp only [step]
    cases loaded? : s.syncs[task]? with
    | none =>
      refine .inl ⟨rfl, ?_⟩
      cases answer with
      | error | ok =>
        rintro loaded stored found
        simp [loaded?] at found
    | some loaded =>
      obtain ⟨active, stored, found, same⟩ := waiting loaded (List.mem_of_getElem? loaded?)
      have timely_iff (Q : LocalGroupRecord → LocalGroupRecord → Prop) :
          (∀ l st, s.syncs[task]? = some l → s.record? l.groupId = some st → Q l st) ↔
            Q loaded stored := by
        constructor
        · intro h
          exact h loaded stored loaded? found
        · intro h l st hl hst
          cases loaded?.symm.trans hl
          cases found.symm.trans hst
          exact h
      cases answer with
      | ok attested =>
        obtain ⟨r', outcome, pinned, adopted, epoch⟩ :=
          syncOutcome_attested P now active attested
        refine .inr ⟨loaded.groupId, stored, r', found, finishSync_stores outcome pinned,
          same.symm.trans pinned, ?_⟩
        rw [Timely, timely_iff fun l st => st.state = .active ∧ st.epoch ≤ l.settledEpoch P attested now,
          LocalGroupRecord.Forward, epoch, and_comm]
        exact and_congr_left fun _ => ⟨fun h => h adopted, fun h _ => h⟩
      | error e =>
        obtain ⟨known, outcome⟩ | ⟨unknown, r', outcome, pinned, defunct, epoch⟩ :=
          syncOutcome_failed P now active e
        · refine .inl ⟨?_, ?_⟩
          · simp [finishSync, outcome]
          · exact fun _ _ _ _ unknown => absurd unknown known
        · refine .inr ⟨loaded.groupId, stored, r', found, finishSync_stores outcome pinned,
            same.symm.trans pinned, ?_⟩
          rw [Timely, timely_iff fun l st => e.kind = .unknown → st.epoch ≤ l.epoch,
            LocalGroupRecord.Forward, epoch, defunct]
          exact ⟨fun h _ => h.1, fun h => ⟨h unknown, fun active => (by cases active)⟩⟩

lemma step_keeps (waiting : s.Waiting) (i) : s.Keeps (s.step P i) := by
  obtain ⟨same, -⟩ | ⟨gid, r, r', stored, replaced, pinned, -⟩ := step_cases waiting i
  · intro gid r stored
    refine ⟨r, ?_, .refl r⟩
    rwa [record?, same]
  · exact keeps_of_set stored replaced pinned

lemma step_advances_iff (waiting : s.Waiting) (i) : s.Advances (s.step P i) ↔ s.Timely P i := by
  obtain ⟨same, timely⟩ | ⟨gid, r, r', stored, replaced, -, forward⟩ :=
    step_cases waiting i
  · refine iff_of_true ?_ timely
    intro gid r r' stored stored'
    rw [record?, same] at stored'
    exact Advances.refl s gid r r' stored stored'
  · rw [advances_of_set stored replaced, forward]

lemma mem_syncs_step {i} (h : loaded ∈ (s.step P i).syncs) :
    loaded ∈ s.syncs ∨ s.record? loaded.groupId = some loaded ∧ loaded.state = .active := by
  cases i with
  | sync groupId =>
    simp only [step] at h
    split at h
    · exact .inl h
    · rename_i record begun
      obtain earlier | rfl := (List.mem_append.mp h).imp_right List.mem_singleton.mp
      · exact .inl earlier
      · exact .inr (beginSync_ok begun)
  | answer =>
    simp only [step] at h
    split at h
    · exact .inl h
    · exact .inl (List.mem_of_mem_eraseIdx h)
  | event => exact .inl h

lemma Waiting.step (waiting : s.Waiting) (i) : (s.step P i).Waiting := by
  have kept := step_keeps (P := P) waiting i
  intro loaded mem
  obtain earlier | ⟨stored, active⟩ := mem_syncs_step mem
  · obtain ⟨active, stored, found, pinned⟩ := waiting loaded earlier
    obtain ⟨stored', found', pinned'⟩ := kept _ _ found
    exact ⟨active, stored', found', pinned.trans pinned'⟩
  · exact ⟨active, kept _ _ stored⟩

lemma run_append (before i) : run P m (before ++ [i]) = (run P m before).step P i := by
  simp [run]

lemma waiting_run (events) : (run P m events).Waiting ∧ Keeps ⟨m, []⟩ (run P m events) := by
  induction events using List.reverseRecOn with
  | nil =>
    refine ⟨?_, .refl _⟩
    intro loaded mem
    cases mem
  | append_singleton events i ih =>
    rw [run_append]
    exact ⟨ih.1.step i, ih.2.trans (step_keeps ih.1 i)⟩

/-- Whatever the order of syncs and events, the owner and the cryptography of a stored record
stay. It goes back nowhere exactly when every answer finds a record that it does not take
back. -/
theorem synced_records_advance_iff (P : Primitives) (m : LocalGroupManager)
    (events : List SyncEvent) :
    (∀ before, before <+: events → Keeps ⟨m, []⟩ (run P m before)) ∧
      ((∀ before i, before ++ [i] <+: events →
          (run P m before).Advances (run P m (before ++ [i]))) ↔
        Runs.Along (step P) (Timely P) ⟨m, []⟩ events) := by
  refine ⟨fun before _ => (waiting_run m before).2, ?_⟩
  rw [Runs.along_iff_forall_step]
  apply forall₃_congr
  intro before i _
  rw [run_append]
  exact step_advances_iff (waiting_run m before).1 i

section
open GroupAuthority Mirror Network

def plainView (f : Fingerprint) (digit : Char) (role : GroupRole) (joined : ℕ) : MemberView :=
  ⟨f, ((fromHex (plainKey digit)).bind (identityIdFor plainPrimitives)).getD "", "member",
    plainKey digit, role, joined⟩

def bobAttested : GroupAttested where
  role := .owner
  epoch := 2
  members := [plainView alice '0' .owner 1, plainView bob '1' .member 2]
  events := []

def dissolution : EventPacket where
  group := nightWatch.val
  fields := some ⟨3, .dissolved, alice.val, noon.wall, alice.val, [0]⟩
  member := none

def lateAnswer : List SyncEvent :=
  [.sync nightWatch.val, .event dissolution noon.wall, .answer 0 (.ok bobAttested) noon.wall]

theorem late_answer_takes_record_back :
    ((run plainPrimitives aliceManager (lateAnswer.take 2)).record? nightWatch).map
        (fun r => (r.state, r.epoch)) = some (.dissolved, 3) ∧
      ((run plainPrimitives aliceManager lateAnswer).record? nightWatch).map
        (fun r => (r.state, r.epoch, r.suspect)) = some (.active, 2, false) := by
  decide +kernel

end

end SyncingClient
end Ghostlink.Groups
