import Ghostlink.Groups.Lifecycle
import Ghostlink.Groups.RosterAgreement

/-! Members behind a relay that asks for any signatures and delivers any packets. A manager
signs only for the epoch right after its record's, and two records that start alike stay
alike at equal epochs unless two different events of one epoch have been signed. -/

namespace Ghostlink.Groups
open Collections Text List Option

namespace LocalGroupManager
variable {P : Primitives} {m : LocalGroupManager}

lemma fromUTF8?_toUTF8 (s : String) : String.fromUTF8? s.toUTF8 = some s := by
  rw [String.fromUTF8?, String.toUTF8_eq_toByteArray, dif_pos s.isValidUTF8]
  rfl

variable {gid : GroupId} {k : GroupEventKind} {s : Fingerprint} {t : Moment}

lemma parseSignRequest_canonical {groupId e epoch kind subject}
    (h : parseSignRequest P groupId (canonicalEventForm gid e k s t) =
      some (epoch, kind, subject)) :
    gid.val = groupId ∧ P.int (Nat.repr e) = some epoch ∧ kind = k ∧
      subject = P.upper (strip s.val) := by
  simp only [parseSignRequest, canonicalEventForm, fromUTF8?_toUTF8, bind_eq_bind,
    bind_some, split_canonicalEventString, map_cons, map_nil,
    String.ofList_toList] at h
  split_ifs at h with hform
  simp only [Option.bind_eq_some_iff, GroupEventKind.ofValue?_value, Option.pure_def,
    Option.some.injEq, Prod.mk.injEq] at h
  obtain ⟨epoch', hepoch, _, _, _, rfl, rfl, rfl, rfl⟩ := h
  push Not at hform
  exact ⟨hform.2, hepoch, rfl, rfl⟩

lemma signForRelay_some {groupId message answer}
    (h : m.signForRelay P groupId message = some answer) :
    ∃ r epoch kind subject identity, m.get groupId = some r ∧
      (r.state = .active ∧ r.suspect = false) ∧
      parseSignRequest P groupId message = some (epoch, kind, subject) ∧ epoch = r.epoch + 1 ∧
      m.identity = some identity ∧ identity.fingerprint P = some r.myFingerprint ∧
      authorized r kind subject := by
  simp only [signForRelay, bind_eq_bind, bind_eq_some_iff, not_or, not_not,
    ite_none_left_eq_some, ite_none_right_eq_some, Bool.not_eq_true] at h
  obtain ⟨r, found, usable, ⟨epoch, kind, subject⟩, parsed, next, identity, stored, own, allowed,
    -⟩ := h
  exact ⟨r, epoch, kind, subject, identity, found, usable, parsed, next, stored, own, allowed⟩

lemma signForRelay_canonical (int_repr : ∀ n : ℕ, P.int (Nat.repr n) = some (n : ℤ))
    {groupId e answer}
    (h : m.signForRelay P groupId (canonicalEventForm gid e k s t) = some answer) :
    ∃ r, m.records.get? gid = some r ∧ r.state = .active ∧ r.suspect = false ∧
      e = r.epoch + 1 ∧ (k ≠ .left → r.isOwner) := by
  obtain ⟨r, epoch, kind, subject, _, hr, usable, parsed, next, -, -, allowed⟩ := signForRelay_some h
  obtain ⟨rfl, hepoch, rfl, -⟩ := parseSignRequest_canonical parsed
  rw [int_repr, Option.some.injEq] at hepoch
  refine ⟨r, ?_, usable.1, usable.2, by omega, fun hk => ?_⟩
  · simpa only [get, GroupId.ofString?_val, bind_some] using hr
  · simpa [authorized, hk] using allowed

def rosterStep (roster : Fingerprint → Prop) (e : GroupEventKind × Fingerprint) :
    Fingerprint → Prop :=
  match e.1 with
  | .join => fun f => f = e.2 ∨ roster f
  | .left => fun f => f ≠ e.2 ∧ roster f
  | .removed => fun f => f ≠ e.2 ∧ roster f
  | .dissolved => roster

end LocalGroupManager

namespace LocalGroupRecord
open LocalGroupManager Checks
variable {r r' : LocalGroupRecord} {event : GroupEvent} {joinMember : Option GroupMember}
  {now : Moment} {notice : String}

def roster (r : LocalGroupRecord) : Fingerprint → Prop := fun f => r.members.contains f

structure Advances (r : LocalGroupRecord) (event : GroupEvent) (r' : LocalGroupRecord) :
    Prop where
  groupId : r'.groupId = r.groupId ∧ event.groupId = r.groupId
  epoch : event.epoch = r.epoch + 1 ∧ r'.epoch = r.epoch + 1
  roster : r'.roster = rosterStep r.roster (event.kind, event.subjectFingerprint)
  owner : r'.ownerFingerprint = r.ownerFingerprint ∧ r'.ownerPublicKeyHex = r.ownerPublicKeyHex
  listed : ∀ f m, r'.members.get? f = some m → r.members.get? f = some m ∨
    event.kind = .join ∧ m.fingerprint = event.subjectFingerprint

inductive Effect (r : LocalGroupRecord) (event : GroupEvent) (joinMember : Option GroupMember) :
    LocalGroupRecord → Prop
  | joined (m : GroupMember) (kind : event.kind = .join)
      (absent : r.members.contains event.subjectFingerprint = false)
      (described : joinMember = some m) (named : m.fingerprint = event.subjectFingerprint) :
      Effect r event joinMember { r with members := r.members.set event.subjectFingerprint m }
  | left (kind : event.kind = .left)
      (present : r.members.contains event.subjectFingerprint) :
      Effect r event joinMember (r.depart event.subjectFingerprint .left)
  | removed (kind : event.kind = .removed)
      (present : r.members.contains event.subjectFingerprint)
      (guest : event.subjectFingerprint ≠ r.ownerFingerprint) :
      Effect r event joinMember (r.depart event.subjectFingerprint .removed)
  | dissolved (kind : event.kind = .dissolved) :
      Effect r event joinMember { r with state := .dissolved }

lemma contains_of_requireOnRoster {f m}
    (h : r.requireOnRoster f = .ok m) : r.members.contains f := by
  unfold requireOnRoster at h
  split at h
  · cases h
  · rename_i found
    simp [Dict.contains, found]

lemma applyEventSemantics_effect (h : r.applyEventSemantics event joinMember = .ok (r', notice)) :
    r.Effect event joinMember r' := by
  unfold applyEventSemantics at h
  cases hk : event.kind with
  | join =>
    simp only [hk, applyJoin, bind_eq_ok, refuse_eq_ok] at h
    obtain ⟨_, _, absent, h⟩ := h
    split at h
    · exact absurd h throw_ne_ok
    · rename_i m described
      simp only [pure_eq_ok, Prod.mk.injEq] at h
      obtain ⟨rfl, _⟩ := h
      obtain ⟨rfl, named⟩ := filter_eq_some_iff.mp described
      exact .joined m hk (Bool.eq_false_iff.mpr absent) rfl (of_decide_eq_true named)
  | left =>
    simp only [hk, applyLeft, bind_eq_ok, refuse_eq_ok, pure_eq_ok, Prod.mk.injEq] at h
    obtain ⟨_, present, _, rfl, _⟩ := h
    exact .left hk (contains_of_requireOnRoster present)
  | removed =>
    simp only [hk, applyRemoved, bind_eq_ok, refuse_eq_ok, pure_eq_ok, Prod.mk.injEq] at h
    obtain ⟨_, present, _, _, guest, rfl, _⟩ := h
    exact .removed hk (contains_of_requireOnRoster present) guest
  | dissolved =>
    simp only [hk, applyDissolved, bind_eq_ok, refuse_eq_ok, pure_eq_ok, Prod.mk.injEq] at h
    obtain ⟨_, _, _, rfl, _⟩ := h
    exact .dissolved hk

lemma Effect.roster (h : r.Effect event joinMember r') : r'.groupId = r.groupId ∧
      r'.roster = rosterStep r.roster (event.kind, event.subjectFingerprint) := by
  cases h with
  | joined m kind => exact ⟨rfl, funext fun f => kind ▸ propext (Dict.contains_set _ _ _ _)⟩
  | left kind | removed kind =>
    exact ⟨rfl, funext fun f => kind ▸ propext (Dict.contains_erase _ _ _)⟩
  | dissolved kind => exact ⟨rfl, kind ▸ rfl⟩

lemma Effect.listed (h : r.Effect event joinMember r') {f m} (found : r'.members.get? f = some m) :
    r.members.get? f = some m ∨ event.kind = .join ∧ m.fingerprint = event.subjectFingerprint := by
  cases h with
  | joined m' kind absent described named =>
    simp only [Dict.get?_set] at found
    split_ifs at found
    · cases found
      exact .inr ⟨kind, named⟩
    · exact .inl found
  | left | removed => exact .inl (Dict.get?_of_filter found)
  | dissolved => exact .inl found

lemma Effect.owner (h : r.Effect event joinMember r') : r'.ownerFingerprint = r.ownerFingerprint ∧
    r'.ownerPublicKeyHex = r.ownerPublicKeyHex := by
  cases h <;> exact ⟨rfl, rfl⟩

lemma applyVerifiedEvent_cases (r : LocalGroupRecord) (event joinMember now) :
    (∃ r₁ notice, r.applyVerifiedEvent event joinMember now = (r₁.advance event now, .ok notice) ∧
        r.state = .active ∧ r.Effect event joinMember r₁ ∧
        r.Advances event (r₁.advance event now)) ∨
      ∃ e suspect, r.applyVerifiedEvent event joinMember now =
        ({ r with suspect }, .error e) := by
  unfold applyVerifiedEvent
  split
  · exact .inr ⟨_, r.suspect, rfl⟩
  · rename_i hactive
    have active : r.state = .active := by
      by_contra hne
      simp only [requireActive, ne_eq, hne, not_false_eq_true, if_true, reduceCtorEq] at hactive
    split_ifs with hgid hstale hgap
    · exact .inr ⟨_, r.suspect, rfl⟩
    · exact .inr ⟨_, r.suspect, rfl⟩
    · exact .inr ⟨_, true, rfl⟩
    · split
      · exact .inr ⟨_, r.suspect, rfl⟩
      · rename_i r₁ notice hok
        have effect := applyEventSemantics_effect hok
        obtain ⟨hsame, hroster⟩ := effect.roster
        have hepoch : event.epoch = r.epoch + 1 := by omega
        exact .inl ⟨r₁, notice, rfl, active, effect, ⟨hsame, not_not.mp hgid⟩,
          ⟨hepoch, hepoch⟩, hroster, effect.owner, fun _ _ => effect.listed⟩

end LocalGroupRecord

namespace LocalGroupManager
open Checks
variable {P : Primitives} {m : LocalGroupManager} {packet : EventPacket}

inductive Intake
  | dropped
  | flagged (record : LocalGroupRecord) (error : GroupError)
  | applied (event : GroupEvent) (joinMember : Option GroupMember) (record : LocalGroupRecord)
      (notice : String)

def intake (P : Primitives) (r : LocalGroupRecord) (packet : EventPacket) (now : Moment) :
    Intake :=
  match eventFromPacket P packet with
  | .error e => .flagged r e
  | .ok event =>
    if event.epoch ≤ r.epoch then .dropped
    else if r.state ≠ .active then .dropped
    else
      match vetEvent P r packet event with
      | .error e => .flagged r e
      | .ok joinMember =>
        match r.applyVerifiedEvent event joinMember now with
        | (r', .error e) => .flagged r' e
        | (r', .ok notice) => .applied event joinMember r' notice

lemma onGroupEvent_eq (P) (m : LocalGroupManager) (packet : EventPacket) (now) :
    m.onGroupEvent P packet now =
      match m.get packet.group with
      | none => (m, none)
      | some r =>
        match intake P r packet now with
        | .dropped => (m, none)
        | .flagged r' e => (m.flagSuspect r' e now, none)
        | .applied _ _ r' notice =>
          ({ m.save r' with applyErrors := m.applyErrors.erase r'.groupId }, some notice) := by
  unfold onGroupEvent intake
  cases m.get packet.group with
  | none => rfl
  | some r =>
    cases eventFromPacket P packet with
    | error => rfl
    | ok event =>
      dsimp only
      split_ifs
      · rfl
      · rfl
      · cases vetEvent P r packet event with
        | error => rfl
        | ok joinMember =>
          rcases applied : r.applyVerifiedEvent event joinMember now with ⟨r', e | notice⟩
          · simp [applied]
          · simp [applied]

lemma intake_cases (P r packet now) : intake P r packet now = .dropped ∨
      (∃ e suspect, intake P r packet now = .flagged { r with suspect } e) ∨
      ∃ event joinMember r₁ notice,
        intake P r packet now = .applied event joinMember (r₁.advance event now) notice ∧
        eventFromPacket P packet = .ok event ∧ vetEvent P r packet event = .ok joinMember ∧
        r.state = .active ∧ r.Effect event joinMember r₁ ∧
        r.Advances event (r₁.advance event now) := by
  unfold intake
  cases parsed : eventFromPacket P packet with
  | error e => exact .inr (.inl ⟨e, r.suspect, rfl⟩)
  | ok event =>
    dsimp only
    split_ifs
    · exact .inl rfl
    · exact .inl rfl
    · cases vetted : vetEvent P r packet event with
      | error e => exact .inr (.inl ⟨e, r.suspect, rfl⟩)
      | ok joinMember =>
        obtain ⟨r₁, notice, applied, active, effect, advances⟩ | ⟨e, suspect, refused⟩ :=
          r.applyVerifiedEvent_cases event joinMember now
        · simp only [applied]
          exact .inr (.inr ⟨event, joinMember, r₁, notice, rfl, rfl, vetted, active, effect,
            advances⟩)
        · simp only [refused]
          exact .inr (.inl ⟨e, suspect, rfl⟩)

/-- The packet carries the event, and the record's own check finds it signed. -/
def Backs (P : Primitives) (packet : EventPacket) (r : LocalGroupRecord) (event : GroupEvent) : Prop :=
  eventFromPacket P packet = .ok event ∧ verifyEventSignature P r event = .ok ()

inductive Moves (P : Primitives) (packet : EventPacket) (r r' : LocalGroupRecord) : Prop
  | kept (suspect : Bool) (updatedAt : Moment) (same : r' = { r with suspect, updatedAt })
  | applied (event : GroupEvent) (backs : Backs P packet r event) (h : r.Advances event r')

variable {r : LocalGroupRecord}

lemma signingKey_ok {event : GroupEvent} {keyHex} (h : signingKey P r event = .ok keyHex) :
    keyHex = r.ownerPublicKeyHex ∨ ∃ f m, r.members.get? f = some m ∧
      fingerprintForKeyHex P keyHex = .ok m.fingerprint := by
  unfold signingKey at h
  split_ifs at h
  · split at h
    · cases h
    · next m found =>
      obtain ⟨f, print, h⟩ := bind_eq_ok.mp h
      split_ifs at h with same
      · exact absurd h throw_ne_ok
      · cases h
        exact .inr ⟨_, m, found, not_not.mp same ▸ print⟩
  · exact .inl (Except.ok.inj h).symm

lemma onGroupEvent_moves (packet now) {gid} (h : m.records.get? gid = some r) :
    ∃ r', (m.onGroupEvent P packet now).1.records.get? gid = some r' ∧ Moves P packet r r' := by
  have same : Moves P packet r r := .kept r.suspect r.updatedAt rfl
  rw [onGroupEvent_eq]
  cases loaded : m.get packet.group with
  | none => exact ⟨r, h, same⟩
  | some r₀ =>
    obtain ⟨gid₀, hgid₀, hr₀⟩ := bind_eq_some_iff.mp loaded
    have saved (r' : LocalGroupRecord) (errors : Dict GroupId GroupError)
        (hgroup : r'.groupId = r₀.groupId) (hmoves : Moves P packet r₀ r') :
        ∃ r'', ({ m.save r' with applyErrors := errors }).records.get? gid = some r'' ∧
          Moves P packet r r'' := by
      simp only [save, Dict.get?_set, hgroup, m.filed gid₀ r₀ hr₀]
      split_ifs with heq
      · subst heq
        cases h.symm.trans hr₀
        exact ⟨r', rfl, hmoves⟩
      · exact ⟨r, h, same⟩
    obtain dropped | ⟨e, suspect, flagged⟩ |
      ⟨event, joinMember, r₁, notice, applied, hevent, hvet, _, _, hadv⟩ :=
        intake_cases P r₀ packet now
    · simp only [dropped]
      exact ⟨r, h, same⟩
    · simp only [flagged]
      exact saved _ _ rfl (.kept true now rfl)
    · simp only [applied]
      simp only [vetEvent, bind_eq_ok] at hvet
      obtain ⟨_, hvet, _⟩ := hvet
      exact saved _ _ hadv.groupId.1 (.applied event ⟨hevent, hvet⟩ hadv)

end LocalGroupManager

structure Network (ι : Type) where
  managers : ι → LocalGroupManager
  signed : List (ι × ByteArray)

inductive RelayAction (ι : Type)
  | signRequest (i : ι) (groupId : String) (message : ByteArray)
  | deliver (i : ι) (packet : EventPacket) (now : Moment)

namespace Network
open LocalGroupManager
variable {ι : Type} [DecidableEq ι] {P : Primitives} {n : Network ι}

def exec (P : Primitives) (n : Network ι) : RelayAction ι → Network ι
  | .signRequest i groupId message =>
    match (n.managers i).signForRelay P groupId message with
    | some _ => { n with signed := n.signed ++ [(i, message)] }
    | none => n
  | .deliver i packet now =>
    { n with managers :=
        Function.update n.managers i ((n.managers i).onGroupEvent P packet now).1 }

def run (P : Primitives) (n : Network ι) (actions : List (RelayAction ι)) : Network ι :=
  actions.foldl (exec P) n

def record? (n : Network ι) (i : ι) (gid : GroupId) : Option LocalGroupRecord :=
  (n.managers i).records.get? gid

def Signs (P : Primitives) (n : Network ι) (action : RelayAction ι) (i : ι) (gid : GroupId) (e : ℕ)
    (k : GroupEventKind) (s : Fingerprint) : Prop :=
  ∃ groupId t, action = .signRequest i groupId (canonicalEventForm gid e k s t) ∧
    ((n.managers i).signForRelay P groupId (canonicalEventForm gid e k s t)).isSome

def delivered (actions : List (RelayAction ι)) : List EventPacket :=
  actions.filterMap fun
    | .deliver _ packet _ => some packet
    | .signRequest .. => none

/-- How a record came about from an earlier one through the packets delivered to it. -/
inductive Trail (P : Primitives) (packets : List EventPacket) (r₀ : LocalGroupRecord) :
    LocalGroupRecord → List GroupEvent → Prop
  | refl : Trail P packets r₀ r₀ []
  | kept {r events} (h : Trail P packets r₀ r events) (suspect : Bool) (updatedAt : Moment) :
      Trail P packets r₀ { r with suspect, updatedAt } events
  | applied {r r' events packet event} (h : Trail P packets r₀ r events)
      (received : packet ∈ packets) (backs : Backs P packet r event) (adv : r.Advances event r') :
      Trail P packets r₀ r' (events ++ [event])

structure Tally (r₀ r : LocalGroupRecord) (events : List GroupEvent) : Prop where
  own : ∀ e ∈ events, e.groupId = r₀.groupId
  numbered : events.map GroupEvent.epoch = List.range' (r₀.epoch + 1) events.length
  groupId : r.groupId = r₀.groupId
  epoch : r.epoch = r₀.epoch + events.length
  roster : r.roster =
    (events.map fun e => (e.kind, e.subjectFingerprint)).foldl rosterStep r₀.roster

namespace Trail
variable {packets : List EventPacket} {r₀ r : LocalGroupRecord} {events : List GroupEvent}

lemma mono {packets' : List EventPacket} (h : Trail P packets r₀ r events)
    (sub : packets ⊆ packets') : Trail P packets' r₀ r events := by
  induction h with
  | refl => exact .refl
  | kept _ suspect updatedAt ih => exact ih.kept suspect updatedAt
  | applied _ received backs adv ih => exact ih.applied (sub received) backs adv

lemma tally (h : Trail P packets r₀ r events) : Tally r₀ r events := by
  induction h with
  | refl => exact ⟨by simp, rfl, rfl, rfl, rfl⟩
  | kept _ _ _ ih => exact ⟨ih.own, ih.numbered, ih.groupId, ih.epoch, ih.roster⟩
  | @applied r _ events _ event _ _ _ adv ih =>
    refine ⟨?_, ?_, adv.groupId.1.trans ih.groupId, ?_, ?_⟩
    · intro e he
      obtain he | he := mem_append.mp he
      · exact ih.own e he
      · cases mem_singleton.mp he
        exact adv.groupId.2.trans ih.groupId
    · rw [map_append, ih.numbered, map_singleton, adv.epoch.1, ih.epoch,
        length_append, length_singleton, List.range'_1_concat]
      congr 2
      omega
    · rw [adv.epoch.2, ih.epoch, length_append, length_singleton]
      omega
    · rw [map_append, foldl_append, ← ih.roster]
      exact adv.roster

lemma moves {r' : LocalGroupRecord} {packet} (h : Trail P packets r₀ r events)
    (received : packet ∈ packets) (hm : Moves P packet r r') :
    ∃ events', Trail P packets r₀ r' events' := by
  cases hm with
  | kept suspect updatedAt same => exact ⟨events, same ▸ h.kept suspect updatedAt⟩
  | applied event backs adv => exact ⟨_, h.applied received backs adv⟩

end Trail

variable {r₀ : LocalGroupRecord}

lemma run_append (P) (n : Network ι) (xs ys : List (RelayAction ι)) :
    n.run P (xs ++ ys) = (n.run P xs).run P ys := foldl_append

lemma exists_trail (P) (n : Network ι) (actions : List (RelayAction ι)) {i : ι}
    {gid} (h : n.record? i gid = some r₀) : ∃ r events, (n.run P actions).record? i gid = some r ∧
      Trail P (delivered actions) r₀ r events := by
  induction actions using List.reverseRecOn with
  | nil => exact ⟨r₀, [], h, .refl⟩
  | append_singleton actions action ih =>
    obtain ⟨r, events, hr, trail⟩ := ih
    rw [run_append]
    have trail : Trail P (delivered (actions ++ [action])) r₀ r events := by
      refine trail.mono fun _ received => ?_
      rw [delivered, filterMap_append]
      exact mem_append_left _ received
    cases action with
    | signRequest =>
      refine ⟨r, events, ?_, trail⟩
      simp only [run, foldl_cons, foldl_nil, exec]
      split <;> exact hr
    | deliver j packet now =>
      by_cases hij : i = j
      · subst hij
        obtain ⟨r', hr', hmoves⟩ := onGroupEvent_moves packet now hr
        obtain ⟨events', trail'⟩ := trail.moves (by simp [delivered]) hmoves
        refine ⟨r', events', ?_, trail'⟩
        simpa only [run, foldl_cons, foldl_nil, exec, record?,
          Function.update_self] using hr'
      · refine ⟨r, events, ?_, trail⟩
        simpa only [run, foldl_cons, foldl_nil, exec, record?,
          Function.update_of_ne hij] using hr

lemma map_eq_of_numbered {α β : Type} (num : α → ℕ) (val : α → β) {xs ys : List α}
    (hnum : xs.map num = ys.map num)
    (huniq : ∀ x ∈ xs, ∀ y ∈ ys, num x = num y → val x = val y) : xs.map val = ys.map val := by
  induction xs generalizing ys with
  | nil => cases ys with
    | nil => rfl
    | cons => cases hnum
  | cons x xs ih => cases ys with
    | nil => cases hnum
    | cons y =>
      obtain ⟨hhead, htail⟩ := List.cons.inj hnum
      rw [map_cons, map_cons, huniq x (by simp) y (by simp) hhead,
        ih htail fun x' hx' y' hy' => huniq x' (by simp [hx']) y' (by simp [hy'])]

def Known (P : Primitives) (n : Network ι) (f : Fingerprint) : Prop :=
  ∃ i identity, (n.managers i).identity = some identity ∧ identity.fingerprint P = some f

/-- A delivered signature that verifies under a key with a member's fingerprint is of an event
that a member signed. Of signatures under any other key, the relay's own say, nothing is
assumed. -/
def Unforged (P : Primitives) (n : Network ι) (actions : List (RelayAction ι)) : Prop :=
  ∀ packet ∈ delivered actions, ∀ event, eventFromPacket P packet = .ok event →
    ∀ keyHex f, fingerprintForKeyHex P keyHex = .ok f → Known P n f →
      verifySignature P ((fromHex keyHex).getD []) event.signature event.canonical →
      ∃ i, (i, event.canonical) ∈ (n.run P actions).signed

def Admits (P : Primitives) (n : Network ι) (actions : List (RelayAction ι)) : Prop :=
  ∀ i gid e s t, (i, canonicalEventForm gid e .join s t) ∈ (n.run P actions).signed → Known P n s

/-- The record's owner and members are members of the network, under the owner's own key. -/
structure Rooted (P : Primitives) (n : Network ι) (r : LocalGroupRecord) : Prop where
  pinned : fingerprintForKeyHex P r.ownerPublicKeyHex = .ok r.ownerFingerprint
  owner : Known P n r.ownerFingerprint
  listed : ∀ f m, r.members.get? f = some m → Known P n m.fingerprint

lemma Rooted.signed {actions : List (RelayAction ι)} {r : LocalGroupRecord} {packet event}
    (h : Rooted P n r) (unforged : Unforged P n actions) (received : packet ∈ delivered actions)
    (backs : Backs P packet r event) : ∃ i, (i, event.canonical) ∈ (n.run P actions).signed := by
  obtain ⟨parsed, verified⟩ := backs
  simp only [verifyEventSignature, Checks.bind_eq_ok] at verified
  obtain ⟨keyHex, key, verified⟩ := verified
  have valid : verifySignature P ((fromHex keyHex).getD []) event.signature event.canonical := by
    simpa using Checks.throw_if_eq_ok.mp verified
  obtain rfl | ⟨f, m, found, print⟩ := signingKey_ok key
  · exact unforged packet received event parsed _ _ h.pinned h.owner valid
  · exact unforged packet received event parsed _ _ print (h.listed f m found) valid

lemma Trail.signed {actions : List (RelayAction ι)} {r events} (unforged : Unforged P n actions)
    (admits : Admits P n actions) (rooted : Rooted P n r₀)
    (h : Trail P (delivered actions) r₀ r events) :
    Rooted P n r ∧ ∀ e ∈ events, ∃ i, (i, e.canonical) ∈ (n.run P actions).signed := by
  induction h with
  | refl => exact ⟨rooted, by simp⟩
  | kept _ _ _ ih => exact ⟨⟨ih.1.pinned, ih.1.owner, ih.1.listed⟩, ih.2⟩
  | @applied r _ _ _ event _ received backs adv ih =>
    obtain ⟨rooted, signed⟩ := ih
    obtain ⟨i, hi⟩ := rooted.signed unforged received backs
    refine ⟨⟨?_, ?_, ?_⟩, ?_⟩
    · rw [adv.owner.1, adv.owner.2]
      exact rooted.pinned
    · rw [adv.owner.1]
      exact rooted.owner
    · intro f m found
      obtain found | ⟨kind, named⟩ := adv.listed f m found
      · exact rooted.listed f m found
      · rw [named]
        rw [GroupEvent.canonical, kind] at hi
        exact admits _ _ _ _ _ hi
    · intro e he
      obtain he | he := mem_append.mp he
      · exact signed e he
      · cases mem_singleton.mp he
        exact ⟨i, hi⟩

def SingleValued (n : Network ι) : Prop :=
  ∀ i j gid e k k' s s' t t', (i, canonicalEventForm gid e k s t) ∈ n.signed →
    (j, canonicalEventForm gid e k' s' t') ∈ n.signed → k = k' ∧ s = s'

omit [DecidableEq ι] in
lemma roster_eq_of_singleValued (single : n.SingleValued) {ri rj si sj : LocalGroupRecord} {ei ej}
    (hi : Tally ri si ei) (hj : Tally rj sj ej) (signedi : ∀ e ∈ ei, ∃ i, (i, e.canonical) ∈ n.signed)
    (signedj : ∀ e ∈ ej, ∃ j, (j, e.canonical) ∈ n.signed) (groupId : ri.groupId = rj.groupId)
    (epoch : ri.epoch = rj.epoch) (roster : ri.roster = rj.roster)
    (now : si.epoch = sj.epoch) : si.roster = sj.roster := by
  have hlen : ei.length = ej.length := by
    have h₁ := hi.epoch
    have h₂ := hj.epoch
    omega
  have hnum : ei.map GroupEvent.epoch = ej.map GroupEvent.epoch := by
    rw [hi.numbered, hj.numbered, epoch, hlen]
  rw [hi.roster, hj.roster, roster]
  congr 1
  apply map_eq_of_numbered GroupEvent.epoch _ hnum
  intro x hx y hy hxy
  obtain ⟨ix, hix⟩ := signedi x hx
  obtain ⟨iy, hiy⟩ := signedj y hy
  have hgid : y.groupId = x.groupId :=
    (hj.own y hy).trans (groupId.symm.trans (hi.own x hx).symm)
  rw [GroupEvent.canonical, hgid, ← hxy] at hiy
  obtain ⟨hk, hs⟩ := single _ _ _ _ _ _ _ _ _ _ hix hiy
  rw [hk, hs]

/-- Whatever the relay asks and delivers, in any order: a member signs an event only as the
next one of its usable record, and as the owner unless it is a leave, so never for an epoch
its record has reached; and unless two events of one group and epoch have been signed, records
that list members of the network and start alike have the same roster whenever they are at the
same epoch. -/
theorem signed_epochs_and_rosters (P : Primitives)
    (int_repr : ∀ n : ℕ, P.int (Nat.repr n) = some (n : ℤ)) (n : Network ι)
    (actions : List (RelayAction ι)) :
    (∀ before between action rest, actions = before ++ between ++ action :: rest →
      ∀ i gid e k s, (n.run P (before ++ between)).Signs P action i gid e k s →
        (∃ r, (n.run P (before ++ between)).record? i gid = some r ∧ r.state = .active ∧
          r.suspect = false ∧ e = r.epoch + 1 ∧ (k ≠ .left → r.isOwner)) ∧
        ∀ r, (n.run P before).record? i gid = some r → r.epoch < e) ∧
    (Unforged P n actions → Admits P n actions → (n.run P actions).SingleValued →
      ∀ i j gid ri rj si sj, n.record? i gid = some ri → n.record? j gid = some rj →
        Rooted P n ri → Rooted P n rj → ri.epoch = rj.epoch → ri.roster = rj.roster →
        (n.run P actions).record? i gid = some si → (n.run P actions).record? j gid = some sj →
        si.epoch = sj.epoch → si.roster = sj.roster) := by
  refine ⟨?_, ?_⟩
  · rintro before between action rest - i gid e k s ⟨groupId, t, -, hsigned⟩
    obtain ⟨answer, hanswer⟩ := isSome_iff_exists.mp hsigned
    obtain ⟨r, hr, hactive, hsuspect, hepoch, howner⟩ := signForRelay_canonical int_repr hanswer
    refine ⟨⟨r, hr, hactive, hsuspect, hepoch, howner⟩, ?_⟩
    intro r₀ hr₀
    obtain ⟨r', events, hr', trail⟩ := exists_trail P (n.run P before) between hr₀
    rw [← run_append] at hr'
    cases hr'.symm.trans hr
    have := trail.tally.epoch
    omega
  · intro unforged admits single i j gid ri rj si sj hri hrj rooti rootj epoch roster hsi hsj now
    obtain ⟨si', ei, hsi', ti⟩ := exists_trail P n actions hri
    obtain ⟨sj', ej, hsj', tj⟩ := exists_trail P n actions hrj
    cases hsi'.symm.trans hsi
    cases hsj'.symm.trans hsj
    have groupId : ri.groupId = rj.groupId :=
      ((n.managers i).filed gid ri hri).trans ((n.managers j).filed gid rj hrj).symm
    exact roster_eq_of_singleValued single ti.tally tj.tally (ti.signed unforged admits rooti).2
      (tj.signed unforged admits rootj).2 groupId epoch roster now

section
open GroupAuthority Mirror

def managerOf (digit : Char) (me : Fingerprint) : LocalGroupManager where
  identity := some ⟨plainKey digit, id⟩
  records := Dict.empty.set nightWatch { aliceRecord with myFingerprint := me }
  applyErrors := Dict.empty
  filed gid r h := by
    rw [Dict.get?_set] at h
    split_ifs at h with heq
    · cases h
      exact heq.symm
    · cases h

def aliceManager : LocalGroupManager := managerOf '0' alice

def carol : Fingerprint := ⟨"GLFP-0000-0200-0000", by decide⟩

def aliceAlone : Network Unit := ⟨fun _ => aliceManager, []⟩

def requestOf (k : GroupEventKind) (s : Fingerprint) : RelayAction Unit :=
  .signRequest () nightWatch.val
    (canonicalEventForm nightWatch 3 k s noon.wall)

lemma plainPrimitives_int (n) : plainPrimitives.int (Nat.repr n) = some (n : ℤ) := by
  have hdigits : (Nat.toDigits 10 n).all Char.isDigit := by
    rw [List.all_eq_true]
    intro c hc
    exact Nat.isDigit_of_mem_toDigits (by decide) (by decide) hc
  simp only [plainPrimitives, Nat.toList_repr, hdigits, if_true, Nat.ofDigitChars_ten_toDigits]

/-- A signature verifies under the key it spells out. -/
def spelledPrimitives : Primitives :=
  { plainPrimitives with ed25519Verify := fun key signature _ => signature = key }

def keyBytes (digit : Char) : Bytes := (fromHex (plainKey digit)).getD []

def aliceAndBob : Network Bool := ⟨fun i => if i then aliceManager else managerOf '1' bob, []⟩

def packetOf (k : GroupEventKind) (s : Fingerprint) (signature : Bytes) : EventPacket :=
  ⟨nightWatch.val, some ⟨3, k, s.val, noon.wall, alice.val, signature⟩, none⟩

def removalRequest : RelayAction Bool :=
  .signRequest true nightWatch.val (canonicalEventForm nightWatch 3 .removed bob noon.wall)

def deliveries (packet : EventPacket) : List (RelayAction Bool) :=
  [.deliver true packet noon.wall, .deliver false packet noon.wall]

/-- Alice signs the removal of Bob; the relay delivers to both an event that it has signed
itself, in Alice's name, and then the removal. -/
def removal : List (RelayAction Bool) :=
  [removalRequest] ++ deliveries (packetOf .dissolved alice (keyBytes '2')) ++
    deliveries (packetOf .removed bob (keyBytes '0'))

lemma canonicalEventForm_inj {gid gid' : GroupId} {e e' k k'} {s s' : Fingerprint} {t t'}
    (h : canonicalEventForm gid e k s t = canonicalEventForm gid' e' k' s' t') :
    k = k' ∧ s = s' := by
  have texts := congrArg String.fromUTF8? h
  simp only [canonicalEventForm, fromUTF8?_toUTF8, Option.some.injEq] at texts
  have fields := congrArg (fun text => text.toList.splitOn '|') texts
  simp only [split_canonicalEventString, map_cons, List.cons.injEq, String.toList_inj] at fields
  obtain ⟨-, -, -, kinds, subjects, -⟩ := fields
  refine ⟨?_, Subtype.ext subjects⟩
  rw [← Option.some.injEq, ← k.ofValue?_value, ← k'.ofValue?_value, kinds]

lemma exec_signRequest {i groupId message}
    (h : ((n.managers i).signForRelay P groupId message).isSome) :
    n.exec P (.signRequest i groupId message) = ⟨n.managers, n.signed ++ [(i, message)]⟩ := by
  obtain ⟨answer, hanswer⟩ := isSome_iff_exists.mp h
  simp [exec, hanswer]

lemma signed_deliveries (P) (n : Network Bool) (packet : EventPacket) :
    (n.run P (deliveries packet)).signed = n.signed := rfl

lemma answered_removal : ((aliceAndBob.managers true).signForRelay spelledPrimitives nightWatch.val
    (canonicalEventForm nightWatch 3 .removed bob noon.wall)).isSome := by decide +kernel

lemma signed_removal : (aliceAndBob.run spelledPrimitives removal).signed =
    [(true, canonicalEventForm nightWatch 3 .removed bob noon.wall)] := by
  rw [removal, run_append, run_append, signed_deliveries, signed_deliveries, run, foldl_cons,
    removalRequest, exec_signRequest answered_removal]
  rfl

lemma known_aliceAndBob {f} (h : Known spelledPrimitives aliceAndBob f) : f = alice ∨ f = bob := by
  obtain ⟨i, identity, stored, print⟩ := h
  cases i with
  | true =>
    cases stored
    refine .inl (Option.some.inj (print.symm.trans ?_))
    decide +kernel
  | false =>
    cases stored
    refine .inr (Option.some.inj (print.symm.trans ?_))
    decide +kernel

lemma rooted_aliceAndBob (i : Bool) {r} (h : aliceAndBob.record? i nightWatch = some r) :
    Rooted spelledPrimitives aliceAndBob r := by
  have owner : Known spelledPrimitives aliceAndBob alice := ⟨true, _, rfl, by decide +kernel⟩
  have guest : Known spelledPrimitives aliceAndBob bob := ⟨false, _, rfl, by decide +kernel⟩
  have pinned : fingerprintForKeyHex spelledPrimitives (plainKey '0') = .ok alice := by
    decide +kernel
  have listed (f m) (h : aliceRecord.members.get? f = some m) :
      Known spelledPrimitives aliceAndBob m.fingerprint := by
    simp only [aliceRecord, Dict.get?_set] at h
    split_ifs at h
    · cases h
      exact guest
    · cases h
      exact owner
    · cases h
  cases i with
  | true =>
    cases h
    exact ⟨pinned, owner, listed⟩
  | false =>
    cases h
    exact ⟨pinned, owner, listed⟩

lemma event_packetOf {k s signature event}
    (h : eventFromPacket spelledPrimitives (packetOf k s signature) = .ok event) :
    event.signature = signature ∧ ∃ subject,
      requireValidFingerprint spelledPrimitives s.val "subject fingerprint" = .ok subject ∧
      event.canonical = canonicalEventForm nightWatch 3 k subject noon.wall := by
  simp only [eventFromPacket, packetOf, GroupId.ofString?_val, Nat.reduceLT, dite_false,
    Checks.bind_eq_ok, Checks.pure_eq_ok] at h
  obtain ⟨subject, read, _, _, rfl⟩ := h
  exact ⟨rfl, subject, read, rfl⟩

/-- The relay's own key has nobody's fingerprint. -/
lemma unforged_removal : Unforged spelledPrimitives aliceAndBob removal := by
  intro packet received event parsed keyHex f print known valid
  rw [signed_removal]
  have received : packet = packetOf .dissolved alice (keyBytes '2') ∨
      packet = packetOf .removed bob (keyBytes '0') := by
    simpa [removal, deliveries, removalRequest, delivered] using received
  obtain rfl | rfl := received
  · have spelled : (fromHex keyHex).getD [] = keyBytes '2' := by
      rw [(event_packetOf parsed).1] at valid
      simp only [verifySignature, Bool.if_false_left] at valid
      simp [spelledPrimitives] at valid
      exact valid.2.symm
    have print' : fingerprintForKeyHex spelledPrimitives keyHex = .ok carol := by
      unfold fingerprintForKeyHex
      cases read : fromHex keyHex with
      | none =>
        rw [read] at spelled
        exact absurd spelled (by decide +kernel)
      | some key =>
        rw [read] at spelled
        cases spelled
        decide +kernel
    cases print.symm.trans print'
    exact absurd (known_aliceAndBob known) (by decide)
  · obtain ⟨-, subject, read, canonical⟩ := event_packetOf parsed
    have read' : requireValidFingerprint spelledPrimitives bob.val "subject fingerprint" =
        .ok bob := by
      decide +kernel
    cases read.symm.trans read'
    exact ⟨true, by rw [canonical]; exact mem_singleton_self _⟩

theorem signed_epochs_and_rosters_removal :
    (∀ r, aliceAndBob.record? true nightWatch = some r → r.epoch < 3) ∧
    ∃ si sj, (aliceAndBob.run spelledPrimitives removal).record? true nightWatch = some si ∧
      (aliceAndBob.run spelledPrimitives removal).record? false nightWatch = some sj ∧
      si.epoch = 3 ∧ sj.epoch = 3 ∧ si.roster = sj.roster := by
  obtain ⟨signing, agreeing⟩ :=
    signed_epochs_and_rosters spelledPrimitives plainPrimitives_int aliceAndBob removal
  have signs : aliceAndBob.Signs spelledPrimitives removalRequest true nightWatch 3 .removed bob :=
    ⟨nightWatch.val, noon.wall, rfl, answered_removal⟩
  refine ⟨(signing [] [] _ _ rfl _ _ _ _ _ signs).2, ?_⟩
  have reached : ∀ i, ((aliceAndBob.run spelledPrimitives removal).record? i nightWatch).map
      LocalGroupRecord.epoch = some 3 := by decide +kernel
  obtain ⟨si, hsi, epochi⟩ := Option.map_eq_some_iff.mp (reached true)
  obtain ⟨sj, hsj, epochj⟩ := Option.map_eq_some_iff.mp (reached false)
  refine ⟨si, sj, hsi, hsj, epochi, epochj, agreeing unforged_removal ?_ ?_ true false nightWatch
    _ _ si sj rfl rfl (rooted_aliceAndBob true rfl) (rooted_aliceAndBob false rfl) rfl rfl hsi hsj
    (epochi.trans epochj.symm)⟩
  · intro i gid e s t member
    rw [signed_removal, mem_singleton, Prod.mk.injEq] at member
    cases (canonicalEventForm_inj member.2).1
  · intro i j gid e k k' s s' t t' first second
    rw [signed_removal, mem_singleton, Prod.mk.injEq] at first second
    obtain ⟨rfl, rfl⟩ := canonicalEventForm_inj first.2
    obtain ⟨rfl, rfl⟩ := canonicalEventForm_inj second.2
    exact ⟨rfl, rfl⟩

/-- Before the first of them is committed, the owner signs two events of one epoch. -/
theorem owner_signs_two_events_of_one_epoch :
    aliceAlone.Signs plainPrimitives (requestOf .removed bob) () nightWatch 3 .removed bob ∧
      (aliceAlone.exec plainPrimitives (requestOf .removed bob)).Signs plainPrimitives
        (requestOf .join carol) () nightWatch 3 .join carol ∧
      ¬ (aliceAlone.run plainPrimitives
        [requestOf .removed bob, requestOf .join carol]).SingleValued := by
  have hfirst : ((aliceAlone.managers ()).signForRelay plainPrimitives nightWatch.val
      (canonicalEventForm nightWatch 3 .removed bob noon.wall)).isSome := answered_removal
  have hsecond : ((aliceAlone.managers ()).signForRelay plainPrimitives nightWatch.val
      (canonicalEventForm nightWatch 3 .join carol noon.wall)).isSome := by decide +kernel
  refine ⟨⟨_, _, rfl, hfirst⟩, ⟨_, _, rfl, ?_⟩, ?_⟩
  · rwa [requestOf, exec_signRequest hfirst]
  · intro hsingle
    rw [run, foldl_cons, foldl_cons, requestOf, exec_signRequest hfirst, requestOf,
      exec_signRequest] at hsingle
    · have hkind := (hsingle () () nightWatch 3 .removed .join bob carol noon.wall noon.wall
        (by simp) (by simp)).1
      cases hkind
    · exact hsecond

end
end Network
end Ghostlink.Groups
