import Ghostlink.Base.Checks
import Ghostlink.Groups.AuthorityRegistry
import Mathlib.Logic.Relation

/-! What the calls of the authority can do to one group: a short list of labelled steps,
each with the facts its checks establish. Every invariant of a run is an invariant of
these steps. -/

namespace Ghostlink.Groups
open Collections Text Checks List

namespace Group

def Active (g : Group) (f : Fingerprint) : Prop :=
  ∃ r, g.members.get? f = some r ∧ (g.objects r).status = .active

def Candidate (g : Group) (f : Fingerprint) : Prop :=
  ∃ r, g.members.get? f = some r ∧ (g.objects r).status = .candidate

lemma seat_any_iff (g : Group) (f p) :
    (g.members.get? f).any (fun r => (g.objects r).status = p) ↔
      ∃ r, g.members.get? f = some r ∧ (g.objects r).status = p := by
  simp [Option.any_eq_true]

instance (g : Group) (f : Fingerprint) : Decidable (g.Active f) :=
  decidable_of_iff _ (g.seat_any_iff f .active)

instance (g : Group) (f : Fingerprint) : Decidable (g.Candidate f) :=
  decidable_of_iff _ (g.seat_any_iff f .candidate)

structure Settles (P : Primitives) (g : Group) (op : Op) (signer : Member) (signature : Bytes) :
    Prop where
  head : g.ops.head? = some op
  awaiting : op.awaitingSince.isSome
  signer_eq : g.member? op.signerFingerprint = some signer
  signer_active : signer.status = .active
  verified : verifySignature P ((fromHex signer.publicKeyHex).getD []) signature op.canonical

def settled (g : Group) (op : Op) (signature : Bytes) (clock : Clock) : Group :=
  { g with ops := g.ops.tail }.commit op signature clock

def settledReply (g : Group) (op : Op) (signature : Bytes) (clock : Clock) : CommittedOp :=
  (g.settled op signature clock).routingFor op
    (g.sessionForFingerprint op.subjectFingerprint) (g.committedEvent op signature clock)

inductive Label
  | quiet | seated (f : Fingerprint) | committed (c : CommittedOp)

def Label.commits : Label → List CommittedOp
  | .committed c => [c]
  | _ => []

def Concerns (g : Group) (op : Op) : Prop :=
  match op.action with
  | .join c => (c < g.nextRef ∧ (g.objects c).fingerprint = op.subjectFingerprint ∧
      (g.objects c).role = .member) ∧
      op.signerFingerprint = g.ownerFingerprint ∧ op.subjectFingerprint ≠ g.ownerFingerprint
  | .left => op.signerFingerprint = op.subjectFingerprint ∧
      op.subjectFingerprint ≠ g.ownerFingerprint
  | .removed => op.signerFingerprint = g.ownerFingerprint ∧
      op.subjectFingerprint ≠ g.ownerFingerprint
  | .dissolved => op.signerFingerprint = g.ownerFingerprint ∧
      op.subjectFingerprint = g.ownerFingerprint

def Requested (g : Group) (op : Op) : Prop :=
  op.awaitingSince = none ∧ (∀ c, op.action ≠ .join c) ∧ g.Concerns op

def Accepts (g : Group) (op : Op) : Prop :=
  g.ops.length < groupMaxPendingOps ∧
    ∀ o ∈ g.ops, o.kind = op.kind → o.subjectFingerprint ≠ op.subjectFingerprint

def pinned (g : Group) (op : Op) (clock : Clock) : Op :=
  { op with
    epoch := g.epoch + 1, wallTs := some clock.wall,
    canonical := canonicalEventForm g.groupId (g.epoch + 1) op.kind op.subjectFingerprint clock.wall,
    awaitingSince := some clock.mono }

inductive Step (P : Primitives) (g : Group) : Label → Group → Prop
  | reserve (session inviteId : String) (now : Seconds)
      (fresh : g.pendingJoins.get? session = none) (room : g.reservedCount < maxGroupMembers) :
      Step P g .quiet
        { g with pendingJoins := g.pendingJoins.set session ⟨session, inviteId, now⟩ }
  | release (joins : Dict String PendingJoin)
      (kept : joins.entries.Sublist g.pendingJoins.entries) :
      Step P g .quiet { g with pendingJoins := joins }
  | rebind (r : Ref) (session handle display : String) :
      Step P g .quiet (g.rebind r session handle display)
  | unbind (session : String) :
      Step P g .quiet { g.disbindSession session with pendingJoins := g.pendingJoins }
  -- a candidate whose admission the queue refused or already holds
  | seat (f : Fingerprint) (session key handle display : String)
      (notActive : ¬ g.Active f) (pending : g.pendingJoins.contains session)
      (unqueued : groupMaxPendingOps ≤ g.ops.length ∨
        ∃ o ∈ g.ops, o.kind = .join ∧ o.subjectFingerprint = f) :
      Step P g (.seated f) (g.seatCandidate f session key handle display)
  | enrol (op : Op) (session key handle display : String)
      (notActive : ¬ g.Active op.subjectFingerprint)
      (pending : g.pendingJoins.contains session) (accepts : g.Accepts op)
      (action : op.action = .join g.nextRef) (signer : op.signerFingerprint = g.ownerFingerprint)
      (unpromoted : op.awaitingSince = none) :
      Step P g (.seated op.subjectFingerprint)
        { g.seatCandidate op.subjectFingerprint session key handle display with
          ops := g.ops ++ [op] }
  | enqueue (op : Op) (requested : g.Requested op) (accepts : g.Accepts op) :
      Step P g .quiet { g with ops := g.ops ++ [op] }
  | promote {head : Op} {rest : List Op} (clock : Clock) (queue : g.ops = head :: rest)
      (waiting : head.awaitingSince = none) :
      Step P g .quiet { g with ops := g.pinned head clock :: rest }
  | abandon {op : Op} {rest : List Op} {c : Ref} (queue : g.ops = op :: rest)
      (action : op.action = .join c) :
      Step P g .quiet
        { g with ops := rest, members := g.members.erase (g.objects c).fingerprint }
  | drop {op : Op} {rest : List Op} (queue : g.ops = op :: rest)
      (action : ∀ c, op.action ≠ .join c) : Step P g .quiet { g with ops := rest }
  | settle {op : Op} {signer : Member} {signature : Bytes} (clock : Clock)
      (h : Settles P g op signer signature) :
      Step P g (.committed (g.settledReply op signature clock)) (g.settled op signature clock)

def Quiet (P : Primitives) : Group → Group → Prop :=
  Relation.ReflTransGen fun g g' => Step P g .quiet g'

lemma Quiet.single {P g g'} (h : Step P g .quiet g') : Quiet P g g' :=
  Relation.ReflTransGen.single h

lemma Quiet.refl (P g) : Quiet P g g := Relation.ReflTransGen.refl

lemma enqueueOp_cases (g : Group) (action : OpAction) (subject signer opId now) :
    (g.enqueueOp action subject signer opId now).1 = g ∧
      (groupMaxPendingOps ≤ g.ops.length ∨
        ∃ o ∈ g.ops, o.kind = action.kind ∧ o.subjectFingerprint = subject) ∨
    (g.enqueueOp action subject signer opId now).1 =
        { g with ops := g.ops ++ [{ opId, action, subjectFingerprint := subject,
                                    signerFingerprint := signer, requestedMonotonic := now }] } ∧
      g.ops.length < groupMaxPendingOps ∧
        ∀ o ∈ g.ops, o.kind = action.kind → o.subjectFingerprint ≠ subject := by
  unfold enqueueOp
  split_ifs with hfull
  · exact .inl ⟨rfl, .inl hfull⟩
  · split
    · rename_i o ho
      have hp := find?_some ho
      simp only [Bool.decide_and, Bool.and_eq_true, decide_eq_true_eq] at hp
      exact .inl ⟨rfl, .inr ⟨o, mem_of_find?_eq_some ho, hp⟩⟩
    · rename_i hnone
      have hall := find?_eq_none.mp hnone
      simp only [Bool.decide_and, Bool.and_eq_true, decide_eq_true_eq, not_and] at hall
      exact .inr ⟨rfl, Nat.lt_of_not_le hfull, hall⟩

lemma settled_ops (g : Group) (op signature clock) :
    (g.settled op signature clock).ops = g.ops.tail := by
  unfold settled commit applyAction
  split <;> rfl

lemma Step.identity {P} {g g' : Group} {l} (h : Step P g l g') :
    g'.groupId = g.groupId ∧ g'.ownerFingerprint = g.ownerFingerprint ∧
      g'.ownerPublicKeyHex = g.ownerPublicKeyHex := by
  cases h with
  | @settle op _ signature clock h =>
    unfold settled commit applyAction
    split <;> exact ⟨rfl, rfl, rfl⟩
  | _ => exact ⟨rfl, rfl, rfl⟩

lemma checked_fst {α β : Type} {g : Group} {check}
    {k : β → Group × Except GroupError α} {motive : Group → Prop}
    (refused : motive g) (passed : ∀ b, check = .ok b → motive (k b).1) :
    motive (g.checked check k).1 := by
  cases h : check with
  | error => exact refused
  | ok b => exact passed b h

variable {session : String} {f : Fingerprint}

lemma joinCheck_ok {g : Group} (h : g.joinCheck session = .ok ()) :
    g.pendingJoins.get? session = none ∧ g.reservedCount < maxGroupMembers := by
  simp only [joinCheck, bind_eq_ok, refuse_eq_ok, throw_if_eq_ok] at h
  obtain ⟨_, _, fresh, room⟩ := h
  exact ⟨by simpa [Dict.contains] using fresh, Nat.lt_of_not_le room⟩

lemma admissionCheck_ok {g : Group} {tombstoned}
    (h : g.admissionCheck f session tombstoned = .ok ()) :
    g.pendingJoins.contains session := by
  simp only [admissionCheck, bind_eq_ok, refuse_eq_ok, throw_if_eq_ok] at h
  obtain ⟨_, _, _, pending⟩ := h
  exact not_not.mp pending

lemma leaveCheck_ok {g : Group} {m : Member}
    (h : g.leaveCheck session = .ok m) : m.fingerprint ≠ g.ownerFingerprint := by
  simp only [leaveCheck, bind_eq_ok, refuse_eq_ok, pure_eq_ok] at h
  obtain ⟨_, _, m', _, ho, rfl⟩ := h
  exact ho

lemma removeCheck_ok {P} {g : Group} {subject} {m : Member}
    (h : g.removeCheck P session subject = .ok m) : m.fingerprint ≠ g.ownerFingerprint := by
  simp only [removeCheck, bind_eq_ok, refuse_eq_ok] at h
  obtain ⟨_, _, _, _, _, h⟩ := h
  split at h
  · exact absurd h throw_ne_ok
  · simp only [refuse_eq_ok, pure_eq_ok] at h
    obtain ⟨_, ho, rfl⟩ := h
    exact ho

lemma sessionForFingerprint_some {g : Group} (h : g.sessionForFingerprint f = some session) :
    ∃ m, g.member? f = some m ∧ m.status = .active ∧ m.sessionId = some session := by
  unfold sessionForFingerprint at h
  split at h
  · rename_i m hm
    split_ifs at h with ha
    exact ⟨m, hm, ha, h⟩
  · cases h

lemma settleCheck_ok {P} {g : Group} {opId sig} {op : Op} {signer : Member} {signature}
    (h : g.settleCheck P session opId sig = .ok (op, signer, signature)) :
    g.ops.head? = some op ∧ op.awaitingSince.isSome ∧
      g.member? op.signerFingerprint = some signer ∧ signer.status = .active := by
  unfold settleCheck at h
  split at h
  · cases h
  · rename_i head rest hops
    simp only [refuse_eq_ok, ne_eq, not_not] at h
    obtain ⟨_, hawait, hsession, h⟩ := h
    obtain ⟨m, hm, hactive, _⟩ := sessionForFingerprint_some hsession
    simp only [hm, bind_eq_ok, pure_eq_ok, Prod.mk.injEq] at h
    obtain ⟨_, _, rfl, rfl, rfl⟩ := h
    exact ⟨by rw [hops, head?_cons], Option.isSome_iff_ne_none.mpr hawait, hm, hactive⟩

variable {P : Primitives} (g : Group)

lemma quiet_beginJoinRedemption (session inviteId now) :
    Quiet P g (g.beginJoinRedemption session inviteId now).1 := by
  apply checked_fst (Quiet.refl P g)
  intro _ hc
  obtain ⟨fresh, room⟩ := joinCheck_ok hc
  exact Quiet.single (.reserve session inviteId now fresh room)

lemma quiet_cancelPendingJoin (session) : Quiet P g (g.cancelPendingJoin session) :=
  Quiet.single (.release _ filter_sublist)

lemma quiet_enqueueOp (action subject signer opId now) (requested : g.Requested
      { opId, action, subjectFingerprint := subject,
        signerFingerprint := signer, requestedMonotonic := now }) :
    Quiet P g (g.enqueueOp action subject signer opId now).1 := by
  obtain ⟨heq, _⟩ | ⟨heq, accepts⟩ := g.enqueueOp_cases action subject signer opId now
  · rw [heq]
    exact Quiet.refl P g
  · rw [heq]
    exact Quiet.single (.enqueue _ requested accepts)

lemma quiet_promote (clock) : Quiet P g (g.promote clock) := by
  unfold promote
  split
  · exact Quiet.refl P g
  · rename_i head rest queue
    split_ifs with hw
    · exact Quiet.refl P g
    · exact Quiet.single (.promote clock queue (by simpa using hw))

lemma quiet_abortHeadOp : Quiet P g g.abortHeadOp := by
  unfold abortHeadOp
  split
  · exact Quiet.refl P g
  · rename_i op rest queue
    split
    · rename_i c action
      exact Quiet.single (.abandon queue action)
    · rename_i action
      exact Quiet.single (.drop queue action)

lemma seated_enqueueOp (session key handle display opId now) (notActive : ¬ g.Active f)
    (pending : g.pendingJoins.contains session) :
    Step P g (.seated f) ((g.seatCandidate f session key handle display).enqueueOp
      (.join g.nextRef) f g.ownerFingerprint opId now).1 := by
  obtain ⟨heq, unqueued⟩ | ⟨heq, accepts⟩ :=
    (g.seatCandidate f session key handle display).enqueueOp_cases (.join g.nextRef) f
      g.ownerFingerprint opId now
  · rw [heq]
    exact .seat f session key handle display notActive pending unqueued
  · rw [heq]
    refine .enrol { opId, action := .join g.nextRef, subjectFingerprint := f,
                    signerFingerprint := g.ownerFingerprint, requestedMonotonic := now }
      session key handle display notActive pending accepts rfl rfl rfl

lemma attestAs_cases (f session key handle display tombstoned opId now) :
    Quiet P g (g.attestAs f session key handle display tombstoned opId now).1 ∨
    (¬ g.Active f ∧ g.admissionCheck f session tombstoned = .ok ()) ∧
      Step P g (.seated f) (g.attestAs f session key handle display tombstoned opId now).1 := by
  unfold attestAs
  split
  · rename_i r _
    left
    apply checked_fst (Quiet.refl P g)
    intro _ _
    exact Quiet.single (.rebind r session handle display)
  · rename_i hr
    have notActive : ¬ g.Active f := by
      rintro ⟨r, hseat, hactive⟩
      simp [hseat, hactive] at hr
    cases hc : g.admissionCheck f session tombstoned with
    | error => exact .inl (Quiet.refl P g)
    | ok => exact .inr ⟨⟨notActive, rfl⟩, g.seated_enqueueOp session key handle display opId now
        notActive (admissionCheck_ok hc)⟩

lemma quiet_requestLeave (session opId now) : Quiet P g (g.requestLeave session opId now).1 := by
  apply checked_fst (Quiet.refl P g)
  intro m hc
  exact g.quiet_enqueueOp _ _ _ opId now ⟨rfl, by rintro c ⟨⟩, rfl, leaveCheck_ok hc⟩

lemma quiet_requestRemove (session subject opId now) :
    Quiet P g (g.requestRemove P session subject opId now).1 := by
  apply checked_fst (Quiet.refl P g)
  intro m hc
  exact g.quiet_enqueueOp _ _ _ opId now ⟨rfl, by rintro c ⟨⟩, rfl, removeCheck_ok hc⟩

lemma quiet_requestDissolve (session opId now) :
    Quiet P g (g.requestDissolve session opId now).1 := by
  apply checked_fst (Quiet.refl P g)
  intro _ _
  exact g.quiet_enqueueOp _ _ _ opId now ⟨rfl, by rintro c ⟨⟩, rfl, rfl⟩

lemma submitSignature_cases (session opId sig clock) :
    (∃ op signer signature, Settles P g op signer signature ∧
      g.submitSignature P session opId sig clock =
        (g.settled op signature clock, .ok (g.settledReply op signature clock))) ∨
    ∃ g' e, Quiet P g g' ∧ g.submitSignature P session opId sig clock = (g', .error e) := by
  unfold submitSignature checked
  cases hc : g.settleCheck P session opId sig with
  | error e => exact .inr ⟨g, e, Quiet.refl P g, rfl⟩
  | ok t =>
    obtain ⟨op, signer, signature⟩ := t
    obtain ⟨head, awaiting, hsigner, hactive⟩ := settleCheck_ok hc
    simp only
    split_ifs with hv
    · exact .inl ⟨op, signer, signature, ⟨head, awaiting, hsigner, hactive, hv⟩, rfl⟩
    · exact .inr ⟨_, _, g.quiet_abortHeadOp, rfl⟩

lemma quiet_sweep (joinPending signTimeout now) :
    Quiet P g (g.sweep joinPending signTimeout now).1 := by
  have hjoins : Quiet P g (g.expireJoins joinPending now).1 :=
    Quiet.single (.release _ filter_sublist)
  refine hjoins.trans ?_
  simp only [sweep, expireHead]
  split_ifs
  · exact quiet_abortHeadOp _
  · exact Quiet.refl P _

lemma disbindSession_pendingJoins (session) :
    (g.disbindSession session).pendingJoins.entries.Sublist g.pendingJoins.entries := by
  apply Dict.foldl_sublist
  intro d p
  split_ifs
  · exact filter_sublist
  · exact List.Sublist.refl _

lemma quiet_disbindSession (session) : Quiet P g (g.disbindSession session) :=
  (Quiet.single (.unbind session)).trans
    (Quiet.single (.release _ (g.disbindSession_pendingJoins session)))

end Group
end Ghostlink.Groups
