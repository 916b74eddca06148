import Ghostlink.Base.Runs
import Ghostlink.Groups.AuthorityInvariants

/-! Candidates and the operations that admit them. Every candidate is the record its queued
admission will activate, as long as no attestation seats a second record for one identity
or seats one the queue refuses, and no removal commits against a candidate. -/

namespace Ghostlink.Groups
open Collections Text Runs List Dict

lemma Op.kind_eq_join {op : Op} : op.kind = .join ↔ ∃ c, op.action = .join c := by
  unfold Op.kind
  cases op.action <;> simp [OpAction.kind]

namespace Group
variable {P : Primitives} {g g' : Group} {l : Label} {log : List CommittedOp}

def joinsFor (g : Group) (f : Fingerprint) : List Op :=
  g.ops.filter fun op => op.kind = .join ∧ op.subjectFingerprint = f

def Paired (g : Group) : Prop :=
  ∀ f, (g.Candidate f ↔ (g.joinsFor f).length = 1) ∧
    ∀ r, g.members.get? f = some r → (g.objects r).status = .candidate →
      ∀ op ∈ g.joinsFor f, op.action = .join r

def Distinct (ops : List Op) : Prop := (ops.map fun op => (op.kind, op.subjectFingerprint)).Nodup

variable {op : Op}

lemma Accepts.distinct (h : g.Accepts op) (hd : Distinct g.ops) : Distinct (g.ops ++ [op]) := by
  unfold Distinct
  rw [map_append]
  refine hd.append (nodup_singleton _) ?_
  simp only [map_cons, map_nil, disjoint_singleton, mem_map, Prod.mk.injEq,
    not_exists, not_and]
  exact h.2

lemma Distinct.step (h : Distinct g.ops) (hs : Step P g l g') : Distinct g'.ops := by
  cases hs with
  | enrol op session key handle display _ _ accepts => exact accepts.distinct h
  | enqueue op _ accepts => exact accepts.distinct h
  | promote clock queue =>
    rwa [queue] at h
  | abandon queue | drop queue =>
    rw [queue] at h
    exact (nodup_cons.mp h).2
  | settle =>
    rw [settled_ops]
    exact h.sublist ((tail_sublist _).map _)
  | _ => exact h

lemma Lived.distinct (h : Lived P log g) : Distinct g.ops := by
  induction h with
  | new h =>
    obtain ⟨session, name, key, handle, display, suite, wall, heq⟩ := h
    rw [heq]
    exact nodup_nil
  | step _ hs ih => exact ih.step hs

structure Admissions (g : Group) : Prop where
  queued : ∀ f r, g.members.get? f = some r → (g.objects r).status = .candidate →
    ∃ op ∈ g.ops, op.action = .join r
  seated : ∀ op ∈ g.ops, ∀ c, op.action = .join c →
    g.members.get? op.subjectFingerprint = some c ∧ (g.objects c).status = .candidate

lemma Admissions.candidate (h : g.Admissions) (hop : op ∈ g.ops)
    (hk : op.kind = .join) : g.Candidate op.subjectFingerprint := by
  obtain ⟨c, hc⟩ := Op.kind_eq_join.mp hk
  exact ⟨c, h.seated op hop c hc⟩

lemma mem_joinsFor {f} :
    op ∈ g.joinsFor f ↔ op ∈ g.ops ∧ op.kind = .join ∧ op.subjectFingerprint = f := by
  simp [joinsFor]

lemma Distinct.joinsFor_length (h : Distinct g.ops) (f) : (g.joinsFor f).length ≤ 1 := by
  have hnodup : (g.joinsFor f).Nodup := h.of_map.filter _
  match hj : g.joinsFor f with
  | [] => simp
  | [_] => simp
  | o :: o' :: rest =>
    obtain ⟨ho, hk, hs⟩ := mem_joinsFor.mp (by simp [hj] : o ∈ g.joinsFor f)
    obtain ⟨ho', hk', hs'⟩ := mem_joinsFor.mp (by simp [hj] : o' ∈ g.joinsFor f)
    have heq := inj_on_of_nodup_map h ho ho' (by rw [hk, hs, hk', hs'])
    simp [hj, heq] at hnodup

lemma Roster.subject_of_join (h : g.Roster) (hop : op ∈ g.ops) {c}
    (hc : op.action = .join c) : (g.objects c).fingerprint = op.subjectFingerprint := by
  have hcon := h.queued op hop
  rw [Concerns, hc] at hcon
  exact hcon.1.2.1

lemma Admissions.paired (h : g.Admissions) (hr : g.Roster) (hd : Distinct g.ops) : g.Paired := by
  intro f
  refine ⟨⟨?_, ?_⟩, ?_⟩
  · rintro ⟨r, hseat, hcand⟩
    obtain ⟨op, hop, hact⟩ := h.queued f r hseat hcand
    have hsubject : op.subjectFingerprint = f :=
      (hr.subject_of_join hop hact).symm.trans (hr.filed f r hseat).2
    have hmem : op ∈ g.joinsFor f := mem_joinsFor.mpr ⟨hop, Op.kind_eq_join.mpr ⟨r, hact⟩, hsubject⟩
    exact le_antisymm (hd.joinsFor_length f) (length_pos_of_mem hmem)
  · intro hlen
    obtain ⟨op, hmem⟩ := exists_mem_of_length_pos (hlen ▸ Nat.one_pos)
    obtain ⟨hop, hk, rfl⟩ := mem_joinsFor.mp hmem
    exact h.candidate hop hk
  · intro r hseat _ op hmem
    obtain ⟨hop, hk, rfl⟩ := mem_joinsFor.mp hmem
    obtain ⟨c, hc⟩ := Op.kind_eq_join.mp hk
    rw [hc, Option.some.inj ((h.seated op hop c hc).1.symm.trans hseat)]

structure Orderly (g : Group) (l : Label) : Prop where
  seated : ∀ f, l = .seated f → g.ops.length < groupMaxPendingOps ∧ ¬ g.Candidate f
  removed : ∀ c op, l = .committed c → g.ops.head? = some op → op.kind = .removed →
    ¬ g.Candidate op.subjectFingerprint

section
variable (h : g.Admissions)
include h

lemma Admissions.enrol (hr : g.Roster)
    (session key handle display) (action : op.action = .join g.nextRef)
    (fresh : ¬ g.Candidate op.subjectFingerprint) :
    Admissions { g.seatCandidate op.subjectFingerprint session key handle display with
      ops := g.ops ++ [op] } := by
  have old (r : Ref) (hlt : r < g.nextRef) :
      (g.seatCandidate op.subjectFingerprint session key handle display).objects r =
        g.objects r := Function.update_of_ne (Nat.ne_of_lt hlt) _ _
  refine ⟨?_, ?_⟩
  · intro f r hseat hcand
    rcases get?_of_set hseat with ⟨rfl, rfl⟩ | ⟨-, hseat⟩
    · exact ⟨op, by simp, action⟩
    · simp only [old r (hr.filed f r hseat).1] at hcand
      obtain ⟨o, ho, hact⟩ := h.queued f r hseat hcand
      exact ⟨o, mem_append_left _ ho, hact⟩
  · intro o ho c hc
    obtain ho | ho := mem_append.mp ho
    · obtain ⟨hseat, hcand⟩ := h.seated o ho c hc
      have hne : o.subjectFingerprint ≠ op.subjectFingerprint :=
        fun heq => fresh (heq ▸ ⟨c, hseat, hcand⟩)
      simp only [old c (hr.filed _ c hseat).1]
      exact ⟨(get?_set_ne _ _ hne).trans hseat, hcand⟩
    · cases mem_singleton.mp ho
      cases OpAction.join.inj (action.symm.trans hc)
      exact ⟨get?_set_self _ _ _, (seatCandidate_objects_new ..).2.1⟩

lemma Admissions.congr (members : g'.members = g.members)
    (status : ∀ r, (g'.objects r).status = (g.objects r).status)
    (queued : ∀ c op, op ∈ g.ops → op.action = .join c → ∃ o ∈ g'.ops, o.action = .join c)
    (seated : ∀ c op, op ∈ g'.ops → op.action = .join c →
      ∃ o ∈ g.ops, o.action = .join c ∧ o.subjectFingerprint = op.subjectFingerprint) :
    g'.Admissions := by
  refine ⟨?_, ?_⟩
  · intro f r hseat hcand
    rw [members] at hseat
    rw [status] at hcand
    obtain ⟨op, hop, hact⟩ := h.queued f r hseat hcand
    exact queued r op hop hact
  · intro op hop c hc
    obtain ⟨o, ho, hact, hsub⟩ := seated c op hop hc
    rw [members, status, ← hsub]
    exact h.seated o ho c hact

lemma Admissions.popJoin (hr : g.Roster) (hd : Distinct g.ops)
    {rest c} (queue : g.ops = op :: rest) (action : op.action = .join c) (ops : g'.ops = rest)
    (seats : ∀ f r, g'.members.get? f = some r → g.members.get? f = some r)
    (others : ∀ f r, f ≠ op.subjectFingerprint → g.members.get? f = some r →
      g'.members.get? f = some r)
    (status : ∀ r, r ≠ c → (g'.objects r).status = (g.objects r).status)
    (gone : g'.members.get? op.subjectFingerprint = some c → (g'.objects c).status ≠ .candidate) :
    g'.Admissions := by
  have hop : op ∈ g.ops := by simp [queue]
  have hfp := hr.subject_of_join hop action
  refine ⟨?_, ?_⟩
  · intro f r hseat hcand
    have hold := seats f r hseat
    have hne : r ≠ c := by
      rintro rfl
      have hf : op.subjectFingerprint = f := hfp.symm.trans (hr.filed f r hold).2
      exact gone (hf ▸ hseat) hcand
    rw [status r hne] at hcand
    obtain ⟨o, ho, hact⟩ := h.queued f r hold hcand
    rw [queue] at ho
    obtain rfl | ho := mem_cons.mp ho
    · exact absurd (OpAction.join.inj (hact.symm.trans action)) hne
    · exact ⟨o, ops ▸ ho, hact⟩
  · intro o ho c' hc'
    rw [ops] at ho
    have hmem : o ∈ g.ops := by simp [queue, ho]
    obtain ⟨hseat, hcand⟩ := h.seated o hmem c' hc'
    have hsub : o.subjectFingerprint ≠ op.subjectFingerprint := by
      intro heq
      rw [queue] at hd
      refine (nodup_cons.mp hd).1 (mem_map.mpr ⟨o, ho, ?_⟩)
      have hkind := (Op.kind_eq_join.mpr ⟨c', hc'⟩).trans (Op.kind_eq_join.mpr ⟨c, action⟩).symm
      exact Prod.ext hkind heq
    have hne : c' ≠ c := by
      rintro rfl
      exact hsub ((hr.filed _ _ hseat).2.symm.trans hfp)
    exact ⟨others _ _ hsub hseat, by rw [status c' hne, hcand]⟩

lemma Admissions.popDeparture {rest}
    (queue : g.ops = op :: rest) (action : ∀ c, op.action ≠ .join c)
    (notCandidate : ¬ g.Candidate op.subjectFingerprint) (ops : g'.ops = rest)
    (members : g'.members = g.members.erase op.subjectFingerprint)
    (objects : g'.objects = g.objects) : g'.Admissions := by
  refine ⟨?_, ?_⟩
  · intro f r hseat hcand
    rw [members] at hseat
    rw [objects] at hcand
    obtain ⟨o, ho, hact⟩ := h.queued f r (get?_of_erase hseat) hcand
    rw [queue] at ho
    obtain rfl | ho := mem_cons.mp ho
    · exact absurd hact (action r)
    · exact ⟨o, ops ▸ ho, hact⟩
  · intro o ho c hc
    rw [ops] at ho
    obtain ⟨hseat, hcand⟩ := h.seated o (by simp [queue, ho]) c hc
    have hne : o.subjectFingerprint ≠ op.subjectFingerprint :=
      fun heq => notCandidate (heq ▸ ⟨c, hseat, hcand⟩)
    rw [members, objects]
    exact ⟨(get?_erase_ne _ hne).trans hseat, hcand⟩

lemma Admissions.settle (hr : g.Roster) (hd : Distinct g.ops)
    {signer signature} (clock) (hset : Settles P g op signer signature)
    (removed : op.kind = .removed → ¬ g.Candidate op.subjectFingerprint) :
    (g.settled op signature clock).Admissions := by
  obtain ⟨rest, queue⟩ := head?_eq_some_iff.mp hset.head
  have hops : (g.settled op signature clock).ops = rest := by rw [settled_ops, queue, tail_cons]
  have departure (action : ∀ c, op.action ≠ .join c)
      (kind : op.kind = .left ∨ op.kind = .removed)
      (notCandidate : ¬ g.Candidate op.subjectFingerprint) :
      (g.settled op signature clock).Admissions :=
    h.popDeparture queue action notCandidate hops (by rw [settled_members, if_pos kind])
      (funext fun r => by rw [settled_objects, if_neg (action r)])
  cases hact : op.action with
  | join c =>
    have hkind : op.kind = .join := Op.kind_eq_join.mpr ⟨c, hact⟩
    have hmem : (g.settled op signature clock).members = g.members := by
      simp [settled_members, hkind]
    refine h.popJoin hr hd queue hact hops (fun f r hs => hmem ▸ hs)
      (fun f r _ hs => hmem.symm ▸ hs) ?_ ?_
    · intro r hne
      rw [settled_objects, if_neg (by simpa [hact] using hne.symm)]
    · intro _
      rw [settled_objects, if_pos hact]
      simp
  | left =>
    have hkind : op.kind = .left := by rw [Op.kind, hact]; rfl
    refine departure (by simp [hact]) (.inl hkind) ?_
    -- the leaver signs, so the leaver is active
    rintro ⟨r, hseat, hcand⟩
    have hcon := hr.queued op (mem_of_head? hset.head)
    rw [Concerns, hact] at hcon
    have hsigner := hset.signer_eq
    rw [member?, hcon.1, hseat, Option.map_some, Option.some.injEq] at hsigner
    have hactive := hset.signer_active
    rw [← hsigner, hcand] at hactive
    cases hactive
  | removed =>
    have hkind : op.kind = .removed := by rw [Op.kind, hact]; rfl
    exact departure (by simp [hact]) (.inr hkind) (removed hkind)
  | dissolved =>
    have hkind : op.kind = .dissolved := by rw [Op.kind, hact]; rfl
    refine h.congr (by simp [settled_members, hkind]) (by simp [settled_objects, hact]) ?_ ?_
    · intro c o ho hc
      rw [queue] at ho
      obtain rfl | ho := mem_cons.mp ho
      · simp [hact] at hc
      · exact ⟨o, hops ▸ ho, hc⟩
    · intro c o ho hc
      exact ⟨o, by rw [queue, mem_cons]; exact .inr (hops ▸ ho), hc, rfl⟩

lemma Admissions.step (hr : g.Roster) (hd : Distinct g.ops)
    (ho : g.Orderly l) (hs : Step P g l g') : g'.Admissions := by
  have same (c : Ref) (op : Op) (hop : op ∈ g.ops) (hc : op.action = .join c) :
      ∃ o ∈ g.ops, o.action = .join c ∧ o.subjectFingerprint = op.subjectFingerprint :=
    ⟨op, hop, hc, rfl⟩
  cases hs with
  | seat f session key handle display _ _ unqueued =>
    obtain ⟨room, fresh⟩ := ho.seated f rfl
    obtain full | ⟨o, hmem, hk, rfl⟩ := unqueued
    · exact absurd room (Nat.not_lt.mpr full)
    · exact absurd (h.candidate hmem hk) fresh
  | enrol op session key handle display _ _ _ action _ _ =>
    exact h.enrol hr session key handle display action (ho.seated _ rfl).2
  | enqueue op requested _ =>
    refine h.congr rfl (fun _ => rfl) (fun c o hmem hc => ⟨o, mem_append_left _ hmem, hc⟩) ?_
    intro c o hmem hc
    obtain hmem | hmem := mem_append.mp hmem
    · exact same c o hmem hc
    · cases mem_singleton.mp hmem
      exact absurd hc (requested.2.1 c)
  | @promote head rest clock queue _ =>
    refine h.congr rfl (fun _ => rfl) ?_ ?_
    · intro c o hmem hc
      rw [queue] at hmem
      obtain rfl | hmem := mem_cons.mp hmem
      · exact ⟨g.pinned o clock, by simp, hc⟩
      · exact ⟨o, by simp [hmem], hc⟩
    · intro c o hmem hc
      obtain rfl | hmem := mem_cons.mp hmem
      · exact ⟨head, by simp [queue], hc, rfl⟩
      · exact ⟨o, by simp [queue, hmem], hc, rfl⟩
  | @abandon op rest c queue action =>
    have hfp := hr.subject_of_join (by simp [queue]) action
    refine h.popJoin hr hd queue action rfl (fun _ _ => get?_of_erase) ?_
      (fun _ _ => rfl) ?_
    · intro f r hne hseat
      exact (get?_erase_ne _ (hfp ▸ hne)).trans hseat
    · simp [hfp]
  | @drop op rest queue action =>
    refine h.congr rfl (fun _ => rfl) ?_ (fun c o hmem hc => ⟨o, by simp [queue, hmem], hc, rfl⟩)
    intro c o hmem hc
    rw [queue] at hmem
    obtain rfl | hmem := mem_cons.mp hmem
    · exact absurd hc (action c)
    · exact ⟨o, hmem, hc⟩
  | @settle op signer signature clock hset =>
    exact h.settle hr hd clock hset (ho.removed _ op rfl hset.head)
  | rebind r₀ =>
    refine h.congr rfl ?_ (fun c o hmem hc => ⟨o, hmem, hc⟩) same
    intro r
    by_cases hr : r = r₀ <;> simp [Group.rebind, updateObject, hr]
  | unbind =>
    refine h.congr rfl ?_ (fun c o hmem hc => ⟨o, hmem, hc⟩) same
    intro r
    simp only [disbindSession]
    split_ifs <;> rfl
  | reserve | release => exact h.congr rfl (fun _ => rfl) (fun c o hmem hc => ⟨o, hmem, hc⟩) same

end

end Group

namespace Group
variable {P : Primitives} {g g' : Group} {log : List CommittedOp}

lemma Admissions.quiet (h : g.Admissions) (lived : Lived P log g) (hq : Quiet P g g') :
    g'.Admissions := by
  induction hq with
  | refl => exact h
  | tail hq hs ih =>
    have past := lived.quiet hq
    exact ih.step past.roster past.distinct ⟨by simp, by simp⟩ hs

lemma IsNew.admissions (h : g.IsNew) : g.Admissions := by
  obtain ⟨session, name, key, handle, display, suite, wall, heq⟩ := h
  rw [heq]
  exact ⟨fun f r _ hc => by simp [GroupAuthority.newGroup] at hc,
    fun op hop => by simp [GroupAuthority.newGroup] at hop⟩

end Group

namespace GroupAuthority
variable {P : Primitives}

/-- An attestation that admits finds room in the queue and no candidate of that identity; a
signature submitted for a removal finds its subject to be no candidate. -/
def orderly (P : Primitives) (a : GroupAuthority) : Call → Bool
  | .attest session groupId key sig nonce handle _ _ =>
    match a.require groupId, attestedIdentity P groupId key sig nonce handle with
    | .ok g, .ok f =>
      decide (¬ g.Active f ∧ (g.admissionCheck f session (a.dissolved.contains g.groupId)).isOk →
        g.ops.length < groupMaxPendingOps ∧ ¬ g.Candidate f)
    | _, _ => true
  | .submitSignature groupId _ _ _ =>
    match a.require groupId with
    | .ok g => g.ops.head?.all fun op =>
        decide (op.kind = .removed → ¬ g.Candidate op.subjectFingerprint)
    | .error _ => true
  | _ => true

variable {a : GroupAuthority} {call : Call} {g : Group}

lemma orderly_admits (h : a.orderly P call) {f}
    (admits : a.Admits P call g f) : g.ops.length < groupMaxPendingOps ∧ ¬ g.Candidate f := by
  cases call with
  | attest =>
    obtain ⟨hg, hf, hactive, hc⟩ := admits
    simp only [orderly, hg, hf, hc, decide_eq_true_eq] at h
    exact h ⟨hactive, rfl⟩
  | _ => exact admits.elim

lemma orderly_submits (h : a.orderly P call) (submits : a.SubmitsTo call g) {op : Op}
    (head : g.ops.head? = some op) (hk : op.kind = .removed) :
    ¬ g.Candidate op.subjectFingerprint := by
  cases call with
  | submitSignature groupId =>
    have hg : a.require groupId = .ok g := submits
    simp only [orderly, hg, head, Option.all_some, decide_eq_true_eq] at h
    exact h hk
  | _ => exact submits.elim

structure History.Admitting (P : Primitives) (h : History) : Prop where
  sound : h.Sound P
  live : ∀ gid g, h.authority.groups.get? gid = some g → g.Admissions
  gone : ∀ gid g, h.authority.dissolved.get? gid = some g → g.Admissions

lemma History.Admitting.settled {h : History} (ha : h.Admitting P) {gid} {g' : Group}
    {op c} (ho : h.authority.orderly P call) (live : h.authority.groups.get? gid = some g)
    (hs : Settled P h.authority call g g' op c) : g'.Admissions := by
  obtain ⟨submits, signer, signature, clock, hset, rfl, _⟩ := hs
  obtain ⟨_, _, _, _, lived⟩ := ha.sound.live gid g live
  exact (ha.live gid g live).settle lived.roster lived.distinct clock hset
    (orderly_submits ho submits hset.head)

variable {h : History}

lemma History.Admitting.exec (ha : h.Admitting P) (clock)
    (ho : h.authority.orderly P call) : (h.exec P clock call).Admitting P := by
  have hchange := h.authority.change_exec (P := P) clock call
  refine ⟨ha.sound.change hchange, ?_, ?_⟩
  · intro gid g' hg
    cases hchange.live_origin ha.sound.keyed hg with
    | fresh hf => exact hf.2.2.admissions
    | quiet live hq _ =>
      obtain ⟨_, _, _, _, lived⟩ := ha.sound.live _ _ live
      exact (ha.live _ _ live).quiet lived hq
    | @seated g f live admits hstep _ =>
      obtain ⟨_, _, _, _, lived⟩ := ha.sound.live _ _ live
      refine (ha.live _ _ live).step lived.roster lived.distinct ⟨?_, by simp⟩ hstep
      rintro f' ⟨⟩
      exact orderly_admits ho admits
    | settled live _ hs => exact ha.settled ho live hs
  · intro gid g' hg
    obtain ⟨hg, _⟩ | ⟨g, op, live, _, hs⟩ := hchange.gone_cases ha.sound.keyed hg
    · exact ha.gone _ _ hg
    · exact ha.settled ho live hs

def OrderlyRun (P : Primitives) (a : GroupAuthority) (calls : List (Clock × Call)) : Prop :=
  Along (fun (h : History) c => h.exec P c.1 c.2) (fun h c => h.authority.orderly P c.2)
    ⟨a, []⟩ calls

instance (P : Primitives) (a : GroupAuthority) (calls : List (Clock × Call)) :
    Decidable (OrderlyRun P a calls) := inferInstanceAs (Decidable (Along _ _ _ _))

lemma admitting_run {joinPending signTimeout retention} {calls : List (Clock × Call)}
    (h : OrderlyRun P (init joinPending signTimeout retention) calls) :
    (run P (init joinPending signTimeout retention) calls).Admitting P := by
  refine h.invariant (?_ : History.Admitting P _) ?_
  · exact ⟨sound_run P _ _ _ [], fun _ _ hg => by simp [init] at hg,
      fun _ _ hg => by simp [init] at hg⟩
  · intro h c ha ho
    exact ha.exec c.1 ho

lemma History.Admitting.join_active (ha : h.Admitting P) {clock}
    {c : CommittedOp} (hc : (h.authority.exec P clock call).2 = some c)
    (hk : c.event.kind = .join) :
    ∃ g, (h.authority.exec P clock call).1.groups.get? c.event.groupId = some g ∧
      g.Active c.event.subjectFingerprint := by
  have hchange := h.authority.change_exec (P := P) clock call
  rw [hc] at hchange
  generalize (h.authority.exec P clock call).1 = a' at hchange
  cases hchange with
  | @settled gid g op signer signature clock' live _ hset _ =>
    have hkind : op.kind = .join := hk
    have hid := (Group.Step.settle clock' hset).identity.1
    obtain ⟨r, hr⟩ := Op.kind_eq_join.mp hkind
    have hseat := (ha.live gid g live).seated op (mem_of_head? hset.head) r hr
    refine ⟨g.settled op signature clock', ?_, r, ?_, ?_⟩
    · rw [put, hid]
      exact get?_set_self _ _ _
    · rw [Group.settled_members, hkind, if_neg (by simp)]
      exact hseat.1
    · simp [Group.settled_objects, hr]
  | @buried gid g op signer signature clock' live _ hset kind =>
    have hkind : op.kind = .join := hk
    rw [hkind] at kind
    cases kind

/-- In a run of orderly calls, every state pairs candidates with their admissions and every
committed admission leaves an active member. -/
theorem candidates_paired_with_admissions (P : Primitives)
    (joinPending signTimeout retention : Seconds) (calls : List (Clock × Call))
    (orderly : OrderlyRun P (init joinPending signTimeout retention) calls) :
    ∀ before after, calls = before ++ after →
      let a := (run P (init joinPending signTimeout retention) before).authority
      (∀ gid g, a.groups.get? gid = some g ∨ a.dissolved.get? gid = some g → g.Paired) ∧
      ∀ clock call rest, after = (clock, call) :: rest → ∀ c, (a.exec P clock call).2 = some c →
        c.event.kind = .join → ∃ g, (a.exec P clock call).1.groups.get? c.event.groupId = some g ∧
          g.Active c.event.subjectFingerprint := by
  rintro before after rfl
  have ha := admitting_run ((along_append before after).mp orderly).1
  refine ⟨?_, ?_⟩
  · intro gid g hg
    have hadm : g.Admissions := hg.elim (ha.live gid g) (ha.gone gid g)
    obtain ⟨_, _, _, _, lived⟩ := hg.elim (ha.sound.live gid g) (ha.sound.gone gid g)
    exact hadm.paired lived.roster lived.distinct
  · intro clock call rest _ c hc hk
    exact ha.join_active hc hk

theorem candidates_paired_one_admission :
    OrderlyRun plainPrimitives (init 60 60 60)
        (opened ++ attested "s1" "op1" ++ signed "s0" "op1") ∧
      ∃ g, (run plainPrimitives (init 60 60 60)
        (opened ++ attested "s1" "op1" ++ signed "s0" "op1")).authority.groups.get? nightWatch =
          some g ∧ g.Active bob ∧ g.Paired := by
  have horderly : OrderlyRun plainPrimitives (init 60 60 60)
      (opened ++ attested "s1" "op1" ++ signed "s0" "op1") := by decide
  have hactive : ((run plainPrimitives (init 60 60 60)
      (opened ++ attested "s1" "op1" ++ signed "s0" "op1")).authority.groups.get?
        nightWatch).map (fun g => decide (g.Active bob)) = some true := by decide +kernel
  obtain ⟨g, hg, hbob⟩ := Option.map_eq_some_iff.mp hactive
  have hpaired := (candidates_paired_with_admissions plainPrimitives 60 60 60 _ horderly _ []
    (append_nil _).symm).1 nightWatch g (.inl hg)
  exact ⟨horderly, g, hg, of_decide_eq_true hbob, hpaired⟩

/-- Bob attests from two sessions: his second record takes the seat, the queued admission
keeps the first. -/
theorem second_attestation_strands_candidate :
    ∃ g, (run plainPrimitives (init 60 60 60)
        (opened ++ attested "s1" "op1" ++ attested "s2" "op2")).authority.groups.get? nightWatch =
        some g ∧ ¬ g.Paired := by
  have hfacts : ((run plainPrimitives (init 60 60 60)
      (opened ++ attested "s1" "op1" ++ attested "s2" "op2")).authority.groups.get?
        nightWatch).map (fun g => (g.members.get? bob, (g.objects 2).status,
          (g.joinsFor bob).map Op.action)) = some (some 2, .candidate, [.join 1]) := by decide
  obtain ⟨g, hg, hfacts⟩ := Option.map_eq_some_iff.mp hfacts
  simp only [Prod.mk.injEq] at hfacts
  obtain ⟨hseat, hcand, hjoins⟩ := hfacts
  refine ⟨g, hg, fun hp => ?_⟩
  obtain ⟨op, hop, hact⟩ := mem_map.mp (hjoins ▸ mem_singleton_self (OpAction.join 1))
  have := (hp bob).2 2 hseat hcand op hop
  simp [hact] at this

end GroupAuthority
end Ghostlink.Groups
