import Ghostlink.Groups.AuthorityAdmission
import Ghostlink.Groups.Record

/-! The relay's roster and a member's record of it. A record that takes in every committed
operation follows the authority's active members, as long as each signature submitted for a
removal finds its subject active and each one for an admission finds the operation's own
record seated under its subject, with a name that records accept. -/

namespace Ghostlink.Groups
open Collections Text Checks Runs List Option Dict

namespace Group
variable {P : Primitives} {g g' : Group} {l : Label} {log : List CommittedOp}

def Unseated (g : Group) : Prop :=
  ∀ op ∈ g.ops, op.kind = .join → ¬ g.Active op.subjectFingerprint

lemma active_congr {f} (members : g'.members.get? f = g.members.get? f)
    (status : ∀ r, g.members.get? f = some r → (g'.objects r).status = (g.objects r).status) :
    g'.Active f ↔ g.Active f := by
  simp only [Active, members]
  constructor
  · rintro ⟨r, hr, ha⟩
    exact ⟨r, hr, (status r hr) ▸ ha⟩
  · rintro ⟨r, hr, ha⟩
    exact ⟨r, hr, (status r hr).trans ha⟩

lemma active_seatCandidate (hr : g.Roster) {f}
    (session key handle display) (notActive : ¬ g.Active f) (f') :
    (g.seatCandidate f session key handle display).Active f' ↔ g.Active f' := by
  by_cases hf : f' = f
  · subst hf
    refine iff_of_false ?_ notActive
    rintro ⟨r, hseat, hactive⟩
    rw [seatCandidate, get?_set_self, Option.some.injEq] at hseat
    subst hseat
    simp [(seatCandidate_objects_new ..).2.1] at hactive
  · refine active_congr (get?_set_ne _ _ hf) ?_
    intro r hseat
    have hne := Nat.ne_of_lt (hr.filed f' r hseat).1
    simp [seatCandidate, Function.update_of_ne hne]

lemma Step.active_iff (hs : Step P g l g') (hr : g.Roster) (hu : g.Unseated)
    (hl : l.commits = []) (f) : g'.Active f ↔ g.Active f := by
  cases hs with
  | settle => cases hl
  | seat _ session key handle display notActive | enrol _ session key handle display notActive =>
    exact active_seatCandidate hr session key handle display notActive f
  | @abandon op rest c queue action =>
    have hop : op ∈ g.ops := by simp [queue]
    have hfp := hr.subject_of_join hop action
    have hne := hu op hop (Op.kind_eq_join.mpr ⟨c, action⟩)
    by_cases hf : f = op.subjectFingerprint
    · subst hf
      refine iff_of_false ?_ hne
      rintro ⟨r, hseat, _⟩
      simp [hfp] at hseat
    · exact active_congr (get?_erase_ne _ (hfp ▸ hf)) fun _ _ => rfl
  | rebind r₀ =>
    refine active_congr rfl ?_
    intro r _
    by_cases h : r = r₀ <;> simp [Group.rebind, updateObject, h]
  | unbind =>
    refine active_congr rfl ?_
    intro r _
    simp only [disbindSession]
    split_ifs <;> rfl
  | _ => exact active_congr rfl fun _ _ => rfl

lemma active_of_settled (hr : g.Roster) {op : Op} (hop : op ∈ g.ops) {signature clock f}
    (h : (g.settled op signature clock).Active f) :
    g.Active f ∨ op.kind = .join ∧ f = op.subjectFingerprint := by
  obtain ⟨r, hseat, hactive⟩ := h
  have hold : g.members.get? f = some r := by
    rw [settled_members] at hseat
    split_ifs at hseat
    · exact get?_of_erase hseat
    · exact hseat
  by_cases hact : op.action = .join r
  · right
    exact ⟨Op.kind_eq_join.mpr ⟨r, hact⟩,
      (hr.filed f r hold).2.symm.trans (hr.subject_of_join hop hact)⟩
  · left
    rw [settled_objects, if_neg hact] at hactive
    exact ⟨r, hold, hactive⟩

lemma Unseated.step (h : g.Unseated) (hr : g.Roster) (hd : Distinct g.ops)
    (hs : Step P g l g') : g'.Unseated := by
  have same (hl : l.commits = []) (f : Fingerprint) (hn : ¬ g.Active f) : ¬ g'.Active f :=
    fun ha => hn ((hs.active_iff hr h hl f).mp ha)
  cases hs with
  | enrol op session key handle display notActive _ _ _ _ _ =>
    intro o ho hk
    obtain ho | ho := mem_append.mp ho
    · exact same rfl _ (h o ho hk)
    · cases mem_singleton.mp ho
      exact same rfl _ notActive
  | enqueue op requested _ =>
    intro o ho hk
    obtain ho | ho := mem_append.mp ho
    · exact same rfl _ (h o ho hk)
    · cases mem_singleton.mp ho
      obtain ⟨c, hc⟩ := Op.kind_eq_join.mp hk
      exact absurd hc (requested.2.1 c)
  | @promote head rest clock queue _ =>
    intro o ho hk
    obtain rfl | ho := mem_cons.mp ho
    · exact same rfl _ (h head (by simp [queue]) hk)
    · exact same rfl _ (h o (by simp [queue, ho]) hk)
  | abandon queue _ | drop queue _ =>
    exact fun o ho hk => same rfl _ (h o (by simp [queue, ho]) hk)
  | @settle op signer signature clock hset =>
    intro o ho hk ha
    rw [settled_ops] at ho
    obtain ⟨rest, queue⟩ := head?_eq_some_iff.mp hset.head
    have hop : op ∈ g.ops := mem_of_head? hset.head
    obtain ha | ⟨hkind, hsub⟩ := active_of_settled hr hop ha
    · exact h o (mem_of_mem_tail ho) hk ha
    · rw [queue] at hd ho
      exact (nodup_cons.mp hd).1
        (mem_map.mpr ⟨o, ho, Prod.ext (hk.trans hkind.symm) hsub⟩)
  | _ => exact fun o ho hk => same rfl _ (h o ho hk)

lemma Lived.unseated (h : Lived P log g) : g.Unseated := by
  induction h with
  | new h =>
    obtain ⟨session, name, key, handle, display, suite, wall, heq⟩ := h
    rw [heq]
    exact fun op hop => by simp [GroupAuthority.newGroup] at hop
  | step past hs ih => exact ih.step past.roster past.distinct hs

variable {op : Op} {signature : Bytes} {clock : Clock} {f : Fingerprint}

lemma active_settled_departure (kind : op.kind = .left ∨ op.kind = .removed) :
    (g.settled op signature clock).Active f ↔ f ≠ op.subjectFingerprint ∧ g.Active f := by
  have hnot (r : Ref) : op.action ≠ .join r := by
    intro hact
    rw [Op.kind_eq_join.mpr ⟨r, hact⟩] at kind
    simp at kind
  have hmembers : (g.settled op signature clock).members = g.members.erase op.subjectFingerprint :=
    by rw [settled_members, if_pos kind]
  by_cases hf : f = op.subjectFingerprint
  · refine iff_of_false ?_ (fun h => h.1 hf)
    rintro ⟨r, hseat, _⟩
    simp [hmembers, hf] at hseat
  · rw [active_congr]
    · exact (and_iff_right hf).symm
    · rw [hmembers, get?_erase_ne _ hf]
    · intro r _
      rw [settled_objects, if_neg (hnot r)]

lemma active_settled_join (hr : g.Roster) (hop : op ∈ g.ops) {c}
    (action : op.action = .join c) (seat : g.members.get? op.subjectFingerprint = some c) :
    (g.settled op signature clock).Active f ↔ f = op.subjectFingerprint ∨ g.Active f := by
  have hkind := Op.kind_eq_join.mpr ⟨c, action⟩
  have hmembers : (g.settled op signature clock).members = g.members := by
    simp [settled_members, hkind]
  by_cases hf : f = op.subjectFingerprint
  · subst hf
    refine iff_of_true ⟨c, ?_, ?_⟩ (.inl rfl)
    · rw [hmembers, seat]
    · rw [settled_objects, if_pos action]
  · rw [active_congr (g := g) (by rw [hmembers]), or_iff_right hf]
    intro r hseat
    have hne : op.action ≠ .join r := by
      intro hact
      exact hf ((hr.filed f r hseat).2.symm.trans (hr.subject_of_join hop hact))
    rw [settled_objects, if_neg hne]

lemma active_settled_dissolved (kind : op.kind = .dissolved) :
    (g.settled op signature clock).Active f ↔ g.Active f := by
  apply active_congr
  · simp [settled_members, kind]
  · intro r _
    have hne : op.action ≠ .join r := by
      intro hact
      simp [Op.kind_eq_join.mpr ⟨r, hact⟩] at kind
    rw [settled_objects, if_neg hne]

/-- The head can be committed without parting from the records: a removal finds its subject
active, an admission finds its own record seated under a name that records accept. -/
def settlesFairly (g : Group) : Bool :=
  g.ops.head?.all fun op =>
    match op.action with
    | .removed => decide (g.Active op.subjectFingerprint)
    | .join c => decide (g.members.get? op.subjectFingerprint = some c) &&
        (validateGroupDisplayName (g.objects c).view.shownName "display name").isOk
    | _ => true

end Group

namespace LocalGroupRecord

structure Agrees (r : LocalGroupRecord) (g : Group) : Prop where
  groupId : r.groupId = g.groupId
  owner : r.ownerFingerprint = g.ownerFingerprint
  epoch : r.epoch = g.epoch
  roster : ∀ f, r.members.contains f ↔ g.Active f

variable {P : Primitives} {r : LocalGroupRecord} {g : Group} {op : Op} {signer : Member}
  {signature : Bytes} {log : List CommittedOp}

lemma applyVerifiedEvent_next {event : GroupEvent} {joinMember}
    (now) {r' : LocalGroupRecord} {notice} (active : r.state = .active)
    (group : event.groupId = r.groupId) (epoch : event.epoch = r.epoch + 1)
    (semantics : r.applyEventSemantics event joinMember = .ok (r', notice)) :
    r.applyVerifiedEvent event joinMember now = (r'.advance event now, .ok notice) := by
  simp [applyVerifiedEvent, requireActive, active, group, epoch, semantics]

lemma requireOwnerSigned_ok {event : GroupEvent} {operation}
    (h : event.signerFingerprint = r.ownerFingerprint) :
    r.requireOwnerSigned event operation = .ok () := by
  simp [requireOwnerSigned, h]

lemma requireOnRoster_ok {f} (h : r.members.contains f) :
    ∃ m, r.requireOnRoster f = .ok m := by
  obtain ⟨m, hm⟩ := isSome_iff_exists.mp h
  exact ⟨m, by simp [requireOnRoster, hm]⟩

lemma applyJoin_ok {event : GroupEvent} {m : GroupMember}
    (signer : event.signerFingerprint = r.ownerFingerprint)
    (absent : r.members.contains event.subjectFingerprint = false)
    (member : m.fingerprint = event.subjectFingerprint) : r.applyJoin event (some m) =
      .ok ({ r with members := r.members.set event.subjectFingerprint m },
        m.displayName ++ " joined the group") := by
  simp only [applyJoin, requireOwnerSigned_ok signer, absent, filter_some, member,
    decide_true, if_true, Bool.false_eq_true, if_false]
  rfl

lemma applyLeft_ok (event : GroupEvent)
    (present : r.members.contains event.subjectFingerprint)
    (signer : event.signerFingerprint = event.subjectFingerprint) :
    ∃ notice, r.applyLeft event = .ok (r.depart event.subjectFingerprint .left, notice) := by
  obtain ⟨m, hm⟩ := requireOnRoster_ok present
  refine ⟨m.displayName ++ " left the group", ?_⟩
  simp only [applyLeft, hm, signer, ne_eq, not_true_eq_false, if_false]
  rfl

lemma applyRemoved_ok (event : GroupEvent)
    (present : r.members.contains event.subjectFingerprint)
    (signer : event.signerFingerprint = r.ownerFingerprint)
    (notOwner : event.subjectFingerprint ≠ r.ownerFingerprint) :
    ∃ notice, r.applyRemoved event = .ok (r.depart event.subjectFingerprint .removed, notice) := by
  obtain ⟨m, hm⟩ := requireOnRoster_ok present
  refine ⟨m.displayName ++ " was removed from the group", ?_⟩
  simp only [applyRemoved, hm, requireOwnerSigned_ok signer, notOwner, if_false]
  rfl

lemma applyDissolved_ok (event : GroupEvent)
    (signer : event.signerFingerprint = r.ownerFingerprint)
    (subject : event.subjectFingerprint = r.ownerFingerprint) : r.applyDissolved event =
      .ok ({ r with state := .dissolved }, "The owner dissolved the group") := by
  simp only [applyDissolved, requireOwnerSigned_ok signer, subject, ne_eq, not_true_eq_false,
    if_false]
  rfl

lemma fromEventPayload_ok {v : MemberView} (role : v.role = .member) (joined : 1 ≤ v.joinedEpoch)
    (named : (validateGroupDisplayName v.shownName "display name").isOk) :
    ∃ m, GroupMember.fromEventPayload v = .ok m ∧ m.fingerprint = v.fingerprint := by
  have notOwner : ¬ (v.role = .owner ∧ v.joinedEpoch ≠ 1) := by simp [role]
  rw [GroupMember.fromEventPayload, dif_neg notOwner, dif_neg (Nat.not_lt.mpr joined)]
  split
  · rename_i e refused
    rw [refused] at named
    cases named
  · exact ⟨_, rfl, rfl⟩

structure Applies (r : LocalGroupRecord) (g : Group) (op : Op) (signature : Bytes) (clock : Clock)
    (r₁ : LocalGroupRecord) : Prop where
  accepted : ∃ joinMember notice,
    (g.settledReply op signature clock).joinMember.mapM GroupMember.fromEventPayload =
      .ok joinMember ∧
    r.applyEventSemantics (g.committedEvent op signature clock) joinMember = .ok (r₁, notice)
  groupId : r₁.groupId = r.groupId
  owner : r₁.ownerFingerprint = r.ownerFingerprint
  roster : ∀ f, r₁.members.contains f ↔ (g.settled op signature clock).Active f

lemma settledReply_joinMember {clock} (hk : op.kind ≠ .join) :
    (g.settledReply op signature clock).joinMember = none := by
  simp only [Group.settledReply, Group.routingFor]
  cases hact : op.action with
  | join c => exact absurd (Op.kind_eq_join.mpr ⟨c, hact⟩) hk
  | _ => rfl

lemma applies_join (h : r.Agrees g) (lived : g.Lived P log) (hop : op ∈ g.ops) {c}
    (action : op.action = .join c) (seat : g.members.get? op.subjectFingerprint = some c)
    (named : (validateGroupDisplayName (g.objects c).view.shownName "display name").isOk)
    (signature clock) : ∃ r₁, r.Applies g op signature clock r₁ := by
  have hkind : op.kind = .join := Op.kind_eq_join.mpr ⟨c, action⟩
  have hcon := lived.roster.queued op hop
  rw [Group.Concerns, action] at hcon
  obtain ⟨⟨_, hfp, hrole⟩, hsigner, _⟩ := hcon
  have hview : (g.settledReply op signature clock).joinMember =
      some { (g.objects c).view with joinedEpoch := g.epoch + 1 } := by
    simp only [Group.settledReply, Group.routingFor, action, Group.settled_objects, if_true]
    rfl
  obtain ⟨m, hm, hmfp⟩ := fromEventPayload_ok
    (v := { (g.objects c).view with joinedEpoch := g.epoch + 1 }) hrole (Nat.le_add_left _ _) named
  have absent : r.members.contains op.subjectFingerprint = false := by
    rw [← Bool.not_eq_true, h.roster]
    exact lived.unseated op hop hkind
  refine ⟨{ r with members := r.members.set op.subjectFingerprint m }, ⟨some m,
    m.displayName ++ " joined the group", ?_, ?_⟩, rfl, rfl, ?_⟩
  · rw [hview]
    show some <$> GroupMember.fromEventPayload _ = _
    simp [hm]
  · simp only [applyEventSemantics, Group.committedEvent, hkind]
    exact applyJoin_ok (hsigner.trans h.owner.symm) absent (hmfp.trans hfp)
  · intro f
    rw [contains_set, h.roster, Group.active_settled_join lived.roster hop action seat]

lemma applies_settled (h : r.Agrees g) (lived : g.Lived P log)
    (hset : Group.Settles P g op signer signature) (fair : g.settlesFairly) (clock) :
    ∃ r₁, r.Applies g op signature clock r₁ ∧ (op.kind = .dissolved → r₁.state = .dissolved) := by
  have hop : op ∈ g.ops := mem_of_head? hset.head
  have hcon := lived.roster.queued op hop
  simp only [Group.settlesFairly, hset.head, all_some] at fair
  unfold Group.Concerns at hcon
  cases hact : op.action with
  | join c =>
    simp only [hact, Bool.and_eq_true, decide_eq_true_eq] at fair
    obtain ⟨r₁, happ⟩ := applies_join h lived hop hact fair.1 fair.2 signature clock
    exact ⟨r₁, happ, by simp [Op.kind_eq_join.mpr ⟨c, hact⟩]⟩
  | left =>
    have hkind : op.kind = .left := by rw [Op.kind, hact]; rfl
    simp only [hact] at hcon
    have present : r.members.contains op.subjectFingerprint := by
      have hs := hset.signer_eq
      rw [hcon.1] at hs
      obtain ⟨ref, hseat, rfl⟩ := map_eq_some_iff.mp hs
      exact (h.roster _).mpr ⟨ref, hseat, hset.signer_active⟩
    obtain ⟨notice, hok⟩ := applyLeft_ok (g.committedEvent op signature clock) present
      hcon.1
    refine ⟨r.depart op.subjectFingerprint .left, ⟨⟨none, notice, ?_, ?_⟩, rfl, rfl, ?_⟩, ?_⟩
    · rw [settledReply_joinMember (by simp [hkind])]
      rfl
    · simpa only [applyEventSemantics, Group.committedEvent, hkind] using hok
    · intro f
      rw [depart, contains_erase, h.roster, Group.active_settled_departure (.inl hkind)]
    · simp [hkind]
  | removed =>
    have hkind : op.kind = .removed := by rw [Op.kind, hact]; rfl
    simp only [hact, decide_eq_true_eq] at hcon fair
    obtain ⟨notice, hok⟩ := applyRemoved_ok (g.committedEvent op signature clock)
      ((h.roster _).mpr fair) (hcon.1.trans h.owner.symm) (h.owner ▸ hcon.2)
    refine ⟨r.depart op.subjectFingerprint .removed, ⟨⟨none, notice, ?_, ?_⟩, rfl, rfl, ?_⟩, ?_⟩
    · rw [settledReply_joinMember (by simp [hkind])]
      rfl
    · simpa only [applyEventSemantics, Group.committedEvent, hkind] using hok
    · intro f
      rw [depart, contains_erase, h.roster, Group.active_settled_departure (.inr hkind)]
    · simp [hkind]
  | dissolved =>
    have hkind : op.kind = .dissolved := by rw [Op.kind, hact]; rfl
    simp only [hact] at hcon
    have hok := applyDissolved_ok (g.committedEvent op signature clock)
      (hcon.1.trans h.owner.symm) (hcon.2.trans h.owner.symm)
    refine ⟨{ r with state := .dissolved },
      ⟨⟨none, "The owner dissolved the group", ?_, ?_⟩, rfl, rfl, ?_⟩, fun _ => rfl⟩
    · rw [settledReply_joinMember (by simp [hkind])]
      rfl
    · simpa only [applyEventSemantics, Group.committedEvent, hkind] using hok
    · intro f
      rw [h.roster, Group.active_settled_dissolved hkind]

lemma receive_settled (h : r.Agrees g) (active : r.state = .active) (lived : g.Lived P log)
    (hset : Group.Settles P g op signer signature) (fair : g.settlesFairly) (clock now) :
    ∃ r' notice, r.receive (g.settledReply op signature clock) now = (r', .ok notice) ∧
      r'.Agrees (g.settled op signature clock) ∧
      (op.kind = .dissolved → r'.state = .dissolved) := by
  obtain ⟨r₁, ⟨⟨joinMember, notice, hjoin, hok⟩, hgid, howner, roster⟩, hdis⟩ :=
    applies_settled h lived hset fair clock
  have hepoch : (g.committedEvent op signature clock).epoch = r.epoch + 1 := by
    rw [h.epoch]
    rfl
  have hnext := applyVerifiedEvent_next now active h.groupId.symm hepoch hok
  obtain ⟨hid, hown, _⟩ := (Group.Step.settle clock hset).identity
  refine ⟨r₁.advance (g.committedEvent op signature clock) now, notice, ?_, ⟨?_, ?_, ?_, ?_⟩, ?_⟩
  · simp only [receive, hjoin]
    exact hnext
  · exact hgid.trans (h.groupId.trans hid.symm)
  · exact howner.trans (h.owner.trans hown.symm)
  · rfl
  · exact roster
  · exact hdis

lemma receive_archived (h : r.state ≠ .active) (c now) : (r.receive c now).1 = r := by
  unfold receive
  split
  · rfl
  · simp [applyVerifiedEvent, requireActive, h]

variable {g' : Group}

lemma Agrees.step {l : Group.Label} (h : r.Agrees g) (lived : g.Lived P log)
    (hs : Group.Step P g l g') (hl : l.commits = []) : r.Agrees g' := by
  obtain ⟨hid, howner, _⟩ := hs.identity
  refine ⟨h.groupId.trans hid.symm, h.owner.trans howner.symm, ?_, ?_⟩
  · exact h.epoch.trans (hs.unlogged hl).1.symm
  · intro f
    rw [hs.active_iff lived.roster lived.unseated hl, h.roster]

lemma Agrees.quiet (h : r.Agrees g) (lived : g.Lived P log)
    (hq : Group.Quiet P g g') : r.Agrees g' := by
  induction hq with
  | refl => exact h
  | tail hq hs ih => exact ih.step (lived.quiet hq) hs rfl

end LocalGroupRecord

structure Mirror where
  authority : GroupAuthority
  record : LocalGroupRecord

namespace Mirror
open GroupAuthority
variable {P : Primitives} {m : Mirror}

def take (r : LocalGroupRecord) (now : Moment) : Option CommittedOp → LocalGroupRecord
  | some c => if c.event.groupId = r.groupId then (r.receive c now).1 else r
  | none => r

def exec (P : Primitives) (m : Mirror) (clock : Clock) (call : Call) : Mirror :=
  let (a, c) := m.authority.exec P clock call
  ⟨a, take m.record clock.wall c⟩

/-- A signature submitted to the record's group, before the record is archived, finds a head
that settles fairly. -/
def fair (m : Mirror) : Call → Bool
  | .submitSignature groupId _ _ _ =>
    match m.authority.require groupId with
    | .ok g => decide (g.groupId = m.record.groupId ∧ m.record.state = .active →
        g.settlesFairly)
    | .error _ => true
  | _ => true

def InSync (m : Mirror) : Prop :=
  m.record.state = .active ∧
    ∃ g, m.authority.groups.get? m.record.groupId = some g ∧ m.record.Agrees g

def Accepts (m : Mirror) (now : Moment) (a' : GroupAuthority) (c : CommittedOp) : Prop :=
  ∃ r' notice g', m.record.receive c now = (r', .ok notice) ∧
    (a'.groups.get? r'.groupId = some g' ∨ a'.dissolved.get? r'.groupId = some g') ∧
    r'.epoch = g'.epoch ∧ ∀ f, r'.members.contains f ↔ g'.Active f

structure Coherent (P : Primitives) (m : Mirror) : Prop where
  sound : ∃ log, History.Sound P ⟨m.authority, log⟩
  agrees : m.record.state = .active →
    ∃ g, m.authority.groups.get? m.record.groupId = some g ∧ m.record.Agrees g

variable {call : Call}

variable {g : Group} {a' : GroupAuthority}

lemma fair_settles (hf : m.fair call)
    (submits : m.authority.SubmitsTo call g) (hid : g.groupId = m.record.groupId)
    (active : m.record.state = .active) : g.settlesFairly := by
  cases call with
  | submitSignature groupId =>
    have hg : m.authority.require groupId = .ok g := submits
    simp only [fair, hg, decide_eq_true_eq] at hf
    exact hf ⟨hid, active⟩
  | _ => exact submits.elim

lemma Coherent.settles (h : m.Coherent P) (active : m.record.state = .active) {gid}
    {op : Op} {signer signature} (clock now) (live : m.authority.groups.get? gid = some g)
    (hid : g.groupId = m.record.groupId)
    (submits : m.authority.SubmitsTo call g) (hset : Group.Settles P g op signer signature)
    (hf : m.fair call) :
    ∃ r' notice, m.record.receive (g.settledReply op signature clock) now = (r', .ok notice) ∧
      r'.Agrees (g.settled op signature clock) ∧ (op.kind = .dissolved → r'.state = .dissolved) := by
  obtain ⟨log, hsound⟩ := h.sound
  obtain ⟨hgid, _, own, _, lived⟩ := hsound.live gid g live
  obtain ⟨g₀, hg₀, hag⟩ := h.agrees active
  have heq : g₀ = g := by
    rw [← hid, hgid, live] at hg₀
    exact (Option.some.inj hg₀).symm
  subst heq
  exact LocalGroupRecord.receive_settled hag active lived hset (fair_settles hf submits hid active)
    clock now

lemma Coherent.change (h : m.Coherent P)
    {c} (hchange : Change P m.authority call a' c) (hf : m.fair call)
    (now) : Coherent P ⟨a', take m.record now c⟩ := by
  obtain ⟨log, hsound⟩ := h.sound
  refine ⟨⟨_, hsound.change hchange⟩, fun active' => ?_⟩
  have active : m.record.state = .active := by
    by_contra hne
    have hsame : take m.record now c = m.record := by
      unfold take
      split
      · split_ifs
        · exact LocalGroupRecord.receive_archived hne _ _
        · rfl
      · rfl
    exact hne (hsame ▸ active')
  by_cases helse : ∀ d ∈ c, d.event.groupId ≠ m.record.groupId
  · have hsame : take m.record now c = m.record := by
      cases c with
      | none => rfl
      | some d => exact if_neg (helse d rfl)
    rw [hsame]
    obtain ⟨g, live, hag⟩ := h.agrees active
    obtain ⟨g', live'⟩ := hchange.still_live live helse
    refine ⟨g', live', ?_⟩
    cases hchange.live_origin hsound.keyed live' with
    | fresh hfresh filed =>
      have hnone := hfresh.1
      simp [filed, live] at hnone
    | quiet live₀ hq _ =>
      cases live₀.symm.trans live
      obtain ⟨_, _, _, _, lived⟩ := hsound.live _ _ live
      exact hag.quiet lived hq
    | seated live₀ _ hstep _ =>
      cases live₀.symm.trans live
      obtain ⟨_, _, _, _, lived⟩ := hsound.live _ _ live
      exact hag.step lived hstep rfl
    | settled live₀ _ hsettled =>
      obtain ⟨d, hd, hid, _⟩ := hsettled.event
      exact absurd (hid.trans (hsound.keyed.live _ _ live₀)) (helse d hd)
  · push Not at helse
    obtain ⟨d, hd, hid⟩ := helse
    cases hchange with
    | @settled gid g op signer signature clock live submits hset kind =>
      cases hd
      obtain ⟨r', notice, hrec, hag, _⟩ :=
        h.settles active clock now live hid submits hset hf
      have htake : take m.record now (some (g.settledReply op signature clock)) = r' := by
        rw [take, if_pos hid, hrec]
      rw [htake]
      refine ⟨g.settled op signature clock, ?_, hag⟩
      rw [hag.groupId, put]
      exact get?_set_self _ _ _
    | @buried gid g op signer signature clock live submits hset kind =>
      cases hd
      obtain ⟨r', notice, hrec, hag, hdis⟩ :=
        h.settles active clock now live hid submits hset hf
      have htake : take m.record now (some (g.settledReply op signature clock)) = r' := by
        rw [take, if_pos hid, hrec]
      simp [htake, hdis kind] at active'
    | _ => cases hd

lemma Coherent.accepts (h : m.Coherent P)
    {c : CommittedOp} (hchange : Change P m.authority call a' (some c)) (hf : m.fair call)
    (now) (active : m.record.state = .active) (hid : c.event.groupId = m.record.groupId) :
    m.Accepts now a' c := by
  cases hchange with
  | @settled gid g op signer signature clock live submits hset kind =>
    obtain ⟨r', notice, hrec, hag, _⟩ := h.settles active clock now live hid submits hset hf
    refine ⟨r', notice, g.settled op signature clock, hrec, .inl ?_, hag.epoch, hag.roster⟩
    rw [hag.groupId, put]
    exact get?_set_self _ _ _
  | @buried gid g op signer signature clock live submits hset kind =>
    obtain ⟨r', notice, hrec, hag, _⟩ := h.settles active clock now live hid submits hset hf
    refine ⟨r', notice, g.settled op signature clock, hrec, .inr ?_, hag.epoch, hag.roster⟩
    rw [hag.groupId, bury]
    exact get?_set_self _ _ _

def FairRun (P : Primitives) (m : Mirror) (calls : List (Clock × Call)) : Prop :=
  Along (fun (m : Mirror) c => m.exec P c.1 c.2) (fun m c => m.fair c.2) m calls

instance (P : Primitives) (m : Mirror) (calls : List (Clock × Call)) :
    Decidable (FairRun P m calls) := inferInstanceAs (Decidable (Along _ _ _ _))

def run (P : Primitives) (m : Mirror) (calls : List (Clock × Call)) : Mirror :=
  calls.foldl (fun m c => m.exec P c.1 c.2) m

lemma FairRun.coherent {calls : List (Clock × Call)} (h : FairRun P m calls)
    (start : m.Coherent P) : (m.run P calls).Coherent P := by
  apply h.invariant start
  intro m c hm hf
  exact hm.change (m.authority.change_exec c.1 c.2) hf c.1.wall

/-- From any reachable registry and any record in sync with it, along any fair run: until the
group is dissolved or the record's own member has departed, the record agrees with the group
and accepts whatever is committed in it. -/
theorem roster_agreement (P : Primitives) (joinPending signTimeout retention : Seconds)
    (past calls : List (Clock × Call)) (start : Mirror)
    (reached : start.authority =
      (GroupAuthority.run P (init joinPending signTimeout retention) past).authority)
    (sync : start.InSync) (fair : FairRun P start calls) :
    ∀ before after, calls = before ++ after → ∀ m, m = start.run P before →
      m.record.state = .active →
        m.InSync ∧
        ∀ clock call rest, after = (clock, call) :: rest → ∀ c,
          (m.authority.exec P clock call).2 = some c → c.event.groupId = m.record.groupId →
            m.Accepts clock.wall (m.authority.exec P clock call).1 c := by
  rintro before after rfl m rfl active
  obtain ⟨hbefore, hafter⟩ := (along_append before after).mp fair
  have hstart : start.Coherent P := by
    refine ⟨⟨(GroupAuthority.run P (init joinPending signTimeout retention) past).log, ?_⟩,
      fun _ => sync.2⟩
    rw [reached]
    exact sound_run P joinPending signTimeout retention past
  have hm : (start.run P before).Coherent P := FairRun.coherent hbefore hstart
  refine ⟨⟨active, hm.agrees active⟩, ?_⟩
  rintro clock call rest rfl c hc hid
  have hchange := (start.run P before).authority.change_exec (P := P) clock call
  rw [hc] at hchange
  exact hm.accepts hchange hafter.1 clock.wall active hid

lemma alice_wellFormed : fullmatch fingerprintPattern "GLFP-0000-0000-0000".toList := by
  decide

def alice : Fingerprint := ⟨"GLFP-0000-0000-0000", alice_wellFormed⟩

def plainMember (f : Fingerprint) (digit : Char) (role : GroupRole) (joined : ℕ)
    (h : role = .owner → joined = 1) (hpos : 1 ≤ joined) : GroupMember :=
  { fingerprint := f, handle := "GL-AAAA", displayName := "member", publicKeyHex := plainKey digit,
    role, joinedEpoch := joined, owner_first := h, joined_pos := hpos,
    named := by decide }

def joiner (f : Fingerprint) (digit : Char) : GroupMember :=
  plainMember f digit .member 2 (by rintro ⟨⟩) (by decide)

def aliceRecord : LocalGroupRecord where
  groupId := nightWatch
  ownerFingerprint := alice
  ownerPublicKeyHex := plainKey '0'
  myFingerprint := alice
  epoch := 2
  members := (Dict.empty.set alice (plainMember alice '0' .owner 1 (fun _ => rfl) le_rfl)).set bob
    (joiner bob '1')
  state := .active
  updatedAt := noon.wall
  epochLeapAt := none
  events := []
  suspect := false

def bobJoined : List (Clock × Call) := opened ++ attested "s1" "op1" ++ signed "s0" "op1"

def bobLeaves : List (Clock × Call) :=
  [(noon, .requestLeave nightWatch.val "s1" "op2"),
    (noon, .requestRemove nightWatch.val "s0" bob.val "op3")] ++ signed "s1" "op2"

def bobGone : Mirror :=
  ⟨(GroupAuthority.run plainPrimitives (init 60 60 60) bobJoined).authority, aliceRecord⟩

lemma bobGone_inSync : bobGone.InSync := by
  have hfacts : (bobGone.authority.groups.get? nightWatch).map (fun g => decide
      (g.groupId = nightWatch ∧ g.ownerFingerprint = alice ∧ g.epoch = 2 ∧
        g.members.entries = [(alice, 0), (bob, 1)] ∧ (g.objects 0).status = .active ∧
        (g.objects 1).status = .active)) = some true := by decide +kernel
  obtain ⟨g, hg, hfacts⟩ := map_eq_some_iff.mp hfacts
  obtain ⟨hid, howner, hepoch, hmembers, hzero, hone⟩ := of_decide_eq_true hfacts
  refine ⟨rfl, g, hg, hid.symm, howner.symm, hepoch.symm, ?_⟩
  intro f
  have hroster : bobGone.record.members.contains f ↔ f = bob ∨ f = alice := by
    simp only [bobGone, aliceRecord, contains_set]
    simp [Dict.contains]
  have hactive : g.Active f ↔ f = bob ∨ f = alice := by
    simp only [Group.Active, get?_eq_some_iff, hmembers, mem_cons, Prod.mk.injEq,
      not_mem_nil, or_false]
    constructor
    · rintro ⟨r, ⟨rfl, _⟩ | ⟨rfl, _⟩, _⟩
      · exact .inr rfl
      · exact .inl rfl
    · rintro (rfl | rfl)
      · exact ⟨1, .inr ⟨rfl, rfl⟩, hone⟩
      · exact ⟨0, .inl ⟨rfl, rfl⟩, hzero⟩
  rw [hroster, hactive]

theorem roster_agreement_leave :
    bobGone.InSync ∧ FairRun plainPrimitives bobGone bobLeaves ∧
      (Mirror.run plainPrimitives bobGone bobLeaves).record.epoch = 3 ∧
      (Mirror.run plainPrimitives bobGone bobLeaves).InSync := by
  have hrun : FairRun plainPrimitives bobGone bobLeaves ∧
      (Mirror.run plainPrimitives bobGone bobLeaves).record.state = .active ∧
      (Mirror.run plainPrimitives bobGone bobLeaves).record.epoch = 3 := by decide +kernel
  obtain ⟨hfair, hactive, hepoch⟩ := hrun
  have hsync := roster_agreement plainPrimitives 60 60 60 bobJoined bobLeaves bobGone rfl
    bobGone_inSync hfair bobLeaves [] (append_nil _).symm _ rfl hactive
  exact ⟨bobGone_inSync, hfair, hepoch, hsync.1⟩

/-- Bob's leave commits first; the removal queued behind it commits too, and the record that
followed every event refuses it. -/
theorem removal_after_leave_refused :
    bobGone.InSync ∧
      let m := Mirror.run plainPrimitives bobGone
        (bobLeaves ++ [(noon, Call.nextSignTask nightWatch.val)])
      m.record.state = .active ∧
      ∃ c, (m.authority.exec plainPrimitives noon
          (.submitSignature nightWatch.val "s0" "op3" "")).2 = some c ∧
        c.event.kind = .removed ∧ c.event.groupId = m.record.groupId ∧
        (m.record.receive c noon.wall).2 = .error ⟨.state,
          "GLFP-0000-0100-0000 is not on the roster.",
          "The roster is inconsistent — re-sync with the relay."⟩ := by
  refine ⟨bobGone_inSync, ?_⟩
  intro m
  have hfacts : m.record.state = .active ∧ ((m.authority.exec plainPrimitives noon
      (.submitSignature nightWatch.val "s0" "op3" "")).2.map fun c =>
        (c.event.kind, decide (c.event.groupId = m.record.groupId),
          match (m.record.receive c noon.wall).2 with
          | .ok _ => none
          | .error e => some e)) = some (.removed, true, some ⟨.state,
          "GLFP-0000-0100-0000 is not on the roster.",
          "The roster is inconsistent — re-sync with the relay."⟩) := by
    decide +kernel
  obtain ⟨hactive, hfacts⟩ := hfacts
  obtain ⟨c, hc, hfacts⟩ := map_eq_some_iff.mp hfacts
  simp only [Prod.mk.injEq, decide_eq_true_eq] at hfacts
  obtain ⟨hkind, hid, hrefused⟩ := hfacts
  refine ⟨hactive, c, hc, hkind, hid, ?_⟩
  split at hrefused
  · cases hrefused
  · rename_i e he
    rw [he, Option.some.inj hrefused]

end Mirror
end Ghostlink.Groups
