import Ghostlink.Groups.AuthorityRuns
import Mathlib.Data.List.Induction

/-! Invariants of one group, each kept by every step: the roster and whom the queue
concerns, the seats and the length of the queue, and the pinned head with the kept events. -/

namespace Ghostlink.Groups
open Collections Text List Dict GroupAuthority Nat

namespace Group
variable {P : Primitives} {g g' : Group} {l : Label} {log : List CommittedOp}

section
variable (g)

lemma settled_epoch (op signature clock) :
    (g.settled op signature clock).epoch = g.epoch + 1 := rfl

lemma settled_pendingJoins (op signature clock) :
    (g.settled op signature clock).pendingJoins = g.pendingJoins := by
  unfold settled commit applyAction
  split <;> rfl

lemma settled_nextRef (op signature clock) :
    (g.settled op signature clock).nextRef = g.nextRef := by
  unfold settled commit applyAction
  split <;> rfl

lemma settled_members (op : Op) (signature clock) :
    (g.settled op signature clock).members =
      if op.kind = .left ∨ op.kind = .removed then g.members.erase op.subjectFingerprint
      else g.members := by
  unfold settled commit applyAction Op.kind
  split <;> rename_i h <;> simp [h, OpAction.kind, updateObject]

lemma settled_objects (op : Op) (signature clock r) :
    (g.settled op signature clock).objects r =
      if op.action = .join r then
        { g.objects r with status := .active, joinedEpoch := g.epoch + 1 }
      else g.objects r := by
  unfold settled commit applyAction
  split
  · rename_i c hc
    by_cases h : r = c
    · subst h
      simp [hc, updateObject]
    · simp [hc, updateObject, h, Ne.symm h]
  all_goals rename_i h; simp [h]

end

structure Evolves (g g' : Group) : Prop where
  next : g.nextRef ≤ g'.nextRef
  fingerprint : ∀ r < g.nextRef, (g'.objects r).fingerprint = (g.objects r).fingerprint
  key : ∀ r < g.nextRef, (g'.objects r).publicKeyHex = (g.objects r).publicKeyHex
  role : ∀ r < g.nextRef, (g'.objects r).role = (g.objects r).role
  active : ∀ r < g.nextRef, (g.objects r).status = .active → (g'.objects r).status = .active

lemma evolves_of_objects (h : g'.objects = g.objects) (hn : g'.nextRef = g.nextRef) :
    Evolves g g' :=
  ⟨hn.ge, fun r _ => by rw [h], fun r _ => by rw [h], fun r _ => by rw [h],
    fun r _ ha => by rwa [h]⟩

lemma evolves_seatCandidate (g : Group) (f session key handle display) :
    Evolves g (g.seatCandidate f session key handle display) := by
  have old (r : Ref) (hr : r < g.nextRef) :
      (g.seatCandidate f session key handle display).objects r = g.objects r :=
    Function.update_of_ne (Nat.ne_of_lt hr) _ _
  exact ⟨le_succ _, fun r hr => by rw [old r hr], fun r hr => by rw [old r hr],
    fun r hr => by rw [old r hr], fun r hr ha => by rwa [old r hr]⟩

lemma Step.evolves (h : Step P g l g') : Evolves g g' := by
  cases h with
  | rebind r₀ =>
    refine ⟨le_rfl, ?_, ?_, ?_, ?_⟩ <;> intro r _ <;> by_cases h : r = r₀ <;>
      simp [Group.rebind, updateObject, h]
  | unbind =>
    refine ⟨le_rfl, ?_, ?_, ?_, ?_⟩ <;> intro r _ <;> simp only [disbindSession] <;> split_ifs <;> simp
  | seat => exact g.evolves_seatCandidate _ _ _ _ _
  | enrol op session key handle display =>
    obtain ⟨next, fp, key, role, active⟩ :=
      g.evolves_seatCandidate op.subjectFingerprint session key handle display
    exact ⟨next, fp, key, role, active⟩
  | settle =>
    refine ⟨(settled_nextRef ..).ge, ?_, ?_, ?_, ?_⟩ <;> intro r _ <;> rw [settled_objects] <;>
      split_ifs <;> simp
  | _ => exact evolves_of_objects rfl rfl

structure Roster (g : Group) : Prop where
  filed : ∀ f r, g.members.get? f = some r → r < g.nextRef ∧ (g.objects r).fingerprint = f
  owner : ∃ r, g.members.get? g.ownerFingerprint = some r ∧ (g.objects r).status = .active ∧
    (g.objects r).publicKeyHex = g.ownerPublicKeyHex
  queued : ∀ op ∈ g.ops, g.Concerns op

variable {op : Op} {f : Fingerprint} {α : Type}

lemma Concerns.evolves (he : Evolves g g')
    (ho : g'.ownerFingerprint = g.ownerFingerprint) (h : g.Concerns op) : g'.Concerns op := by
  unfold Concerns at h ⊢
  cases hact : op.action with
  | join c =>
    rw [hact] at h
    simp only at h ⊢
    obtain ⟨⟨hlt, hfp, hrole⟩, hrest⟩ := h
    exact ⟨⟨hlt.trans_le he.next, (he.fingerprint c hlt).trans hfp, (he.role c hlt).trans hrole⟩,
      by rwa [ho]⟩
  | _ =>
    rw [hact] at h
    simpa only [ho] using h

lemma Roster.active_owner (h : g.Roster) : g.Active g.ownerFingerprint := by
  obtain ⟨r, hr, ha, _⟩ := h.owner
  exact ⟨r, hr, ha⟩

lemma Concerns.subject_ne (h : g.Concerns op) (hk : op.kind ≠ .dissolved) :
    op.subjectFingerprint ≠ g.ownerFingerprint := by
  unfold Concerns at h
  unfold Op.kind at hk
  cases hact : op.action with
  | join => rw [hact] at h; exact h.2.2
  | left | removed => rw [hact] at h; exact h.2
  | dissolved => rw [hact] at hk; exact absurd rfl hk

lemma Roster.of_step (h : g.Roster) (hs : Step P g l g')
    (seats : ∀ f r, g'.members.get? f = some r →
      g.members.get? f = some r ∨ r < g'.nextRef ∧ (g'.objects r).fingerprint = f)
    (owner : g'.members.get? g.ownerFingerprint = g.members.get? g.ownerFingerprint)
    (queue : ∀ op ∈ g'.ops, g.Concerns op ∨ g'.Concerns op) : g'.Roster := by
  have he := hs.evolves
  obtain ⟨_, hid, hkey⟩ := hs.identity
  refine ⟨?_, ?_, ?_⟩
  · intro f r hr
    obtain hold | hnew := seats f r hr
    · obtain ⟨hlt, hfp⟩ := h.filed f r hold
      exact ⟨hlt.trans_le he.next, (he.fingerprint r hlt).trans hfp⟩
    · exact hnew
  · obtain ⟨r, hr, ha, hk⟩ := h.owner
    have hlt := (h.filed _ _ hr).1
    exact ⟨r, by rw [hid, owner, hr], he.active r hlt ha, by rw [he.key r hlt, hk, hkey]⟩
  · intro op hop
    obtain hold | hnew := queue op hop
    · exact hold.evolves he hid
    · exact hnew

lemma seatCandidate_objects_new (g : Group) (f session key handle display) :
    ((g.seatCandidate f session key handle display).objects g.nextRef).fingerprint = f ∧
      ((g.seatCandidate f session key handle display).objects g.nextRef).status = .candidate ∧
      ((g.seatCandidate f session key handle display).objects g.nextRef).role = .member := by
  simp [seatCandidate]

lemma Roster.seat (h : g.Roster) (session key handle display) (notActive : ¬ g.Active f) :
    (∀ f' r, (g.seatCandidate f session key handle display).members.get? f' = some r →
      g.members.get? f' = some r ∨ r < g.nextRef + 1 ∧
        ((g.seatCandidate f session key handle display).objects r).fingerprint = f') ∧
    (g.seatCandidate f session key handle display).members.get? g.ownerFingerprint =
      g.members.get? g.ownerFingerprint := by
  have hne : f ≠ g.ownerFingerprint := fun hf => notActive (hf ▸ h.active_owner)
  constructor
  · exact forall_of_set (.inr ⟨lt_succ_self _, (seatCandidate_objects_new ..).1⟩) fun _ _ => .inl
  · simp [seatCandidate, get?_set_ne _ _ hne.symm]

lemma Roster.step (h : g.Roster) (hs : Step P g l g') : g'.Roster := by
  have keep := h.of_step hs
  cases hs with
  | seat f session key handle display notActive =>
    obtain ⟨seats, owner⟩ := h.seat session key handle display notActive
    exact keep seats owner fun op hop => .inl (h.queued op hop)
  | enrol op session key handle display notActive pending accepts action signer =>
    obtain ⟨seats, owner⟩ := h.seat session key handle display notActive
    refine keep seats owner ?_
    intro o ho
    obtain ho | ho := mem_append.mp ho
    · exact .inl (h.queued o ho)
    · cases mem_singleton.mp ho
      right
      unfold Concerns
      rw [action]
      exact ⟨⟨lt_succ_self _, (seatCandidate_objects_new ..).1,
        (seatCandidate_objects_new ..).2.2⟩, signer, fun hf => notActive (hf ▸ h.active_owner)⟩
  | enqueue op requested =>
    refine keep (fun _ _ hr => .inl hr) rfl ?_
    intro o ho
    obtain ho | ho := mem_append.mp ho
    · exact .inl (h.queued o ho)
    · cases mem_singleton.mp ho
      exact .inl requested.2.2
  | @promote head rest clock queue waiting =>
    refine keep (fun _ _ hr => .inl hr) rfl ?_
    intro o ho
    obtain rfl | ho := mem_cons.mp ho
    · exact .inl (h.queued head (by simp [queue]))
    · exact .inl (h.queued o (by simp [queue, ho]))
  | @abandon op rest c queue action =>
    have hop := h.queued op (by simp [queue])
    have hne : (g.objects c).fingerprint ≠ g.ownerFingerprint := by
      rw [Concerns, action] at hop
      exact hop.1.2.1 ▸ hop.2.2
    exact keep (fun _ _ hr => .inl (get?_of_erase hr))
      (get?_erase_ne _ hne.symm) fun o ho => .inl (h.queued o (by simp [queue, ho]))
  | drop queue =>
    exact keep (fun _ _ hr => .inl hr) rfl fun o ho => .inl (h.queued o (by simp [queue, ho]))
  | @settle op signer signature clock hset =>
    refine keep ?_ ?_ ?_
    · intro f r hr
      rw [settled_members] at hr
      split_ifs at hr
      · exact .inl (get?_of_erase hr)
      · exact .inl hr
    · rw [settled_members]
      split_ifs with hk
      · have hne := (h.queued op (mem_of_head? hset.head)).subject_ne (by
          rintro hd
          simp [hd] at hk)
        exact get?_erase_ne _ hne.symm
      · rfl
    · intro o ho
      rw [settled_ops] at ho
      exact .inl (h.queued o (mem_of_mem_tail ho))
  | _ => exact keep (fun _ _ hr => .inl hr) rfl fun o ho => .inl (h.queued o ho)

lemma IsNew.roster (h : g.IsNew) : g.Roster := by
  obtain ⟨session, name, key, handle, display, suite, wall, heq⟩ := h
  rw [heq]
  refine ⟨?_, ⟨0, by simp [newGroup]⟩, by simp [newGroup]⟩
  intro f r hr
  simp only [newGroup, get?_set, get?_empty] at hr ⊢
  split_ifs at hr with hf
  cases hr
  exact ⟨zero_lt_one, hf.symm⟩

lemma Lived.roster (h : Lived P log g) : g.Roster := by
  induction h with
  | new h => exact h.roster
  | step _ hs ih => exact ih.step hs

structure Capacity (g : Group) : Prop where
  seats : g.members.size + g.pendingJoins.size ≤ maxGroupMembers
  queue : g.ops.length ≤ groupMaxPendingOps

lemma reservedCount_eq (g : Group) : g.reservedCount = g.members.size + g.pendingJoins.size := by
  have hsplit := length_eq_countP_add_countP (fun m : Member => m.status = .active)
    (l := g.memberValues)
  have hrest : g.memberValues.countP (fun m => m.status = .candidate) =
      g.memberValues.countP (fun m => ¬ decide (m.status = .active)) := by
    apply countP_congr
    intro m _
    cases m.status <;> simp
  have hlen : g.memberValues.length = g.members.size := by
    simp [memberValues, Dict.values, Dict.size]
  rw [reservedCount, hrest]
  omega

lemma size_seatCandidate (g : Group) (f session key handle display)
    (pending : g.pendingJoins.contains session) :
    (g.seatCandidate f session key handle display).members.size +
      (g.seatCandidate f session key handle display).pendingJoins.size ≤
        g.members.size + g.pendingJoins.size := by
  obtain ⟨p, hp⟩ := Option.isSome_iff_exists.mp pending
  have hjoins := size_erase_of_some _ hp
  have hmembers := g.members.size_set_le f g.nextRef
  simp only [seatCandidate]
  omega

lemma Capacity.step (h : g.Capacity) (hs : Step P g l g') : g'.Capacity := by
  obtain ⟨seats, queue⟩ := h
  cases hs with
  | reserve session inviteId now fresh room =>
    rw [reservedCount_eq] at room
    refine ⟨?_, queue⟩
    simp only [size_set_of_none _ _ fresh]
    omega
  | release joins kept =>
    have hlen : joins.size ≤ g.pendingJoins.size := kept.length_le
    exact ⟨by simp only; omega, queue⟩
  | seat f session key handle display _ pending =>
    exact ⟨(g.size_seatCandidate f session key handle display pending).trans seats, queue⟩
  | enrol op session key handle display _ pending accepts _ _ _ =>
    refine ⟨(g.size_seatCandidate _ session key handle display pending).trans seats, ?_⟩
    rw [length_append]
    exact accepts.1
  | enqueue op _ accepts =>
    refine ⟨seats, ?_⟩
    rw [length_append]
    exact accepts.1
  | promote clock hq => exact ⟨seats, by simpa [hq] using queue⟩
  | @abandon op rest c hq _ =>
    have hlen := g.members.size_erase_le (g.objects c).fingerprint
    refine ⟨by simp only; omega, ?_⟩
    simp only [hq, length_cons] at queue
    exact le_of_succ_le queue
  | drop hq _ =>
    refine ⟨seats, ?_⟩
    simp only [hq, length_cons] at queue
    exact le_of_succ_le queue
  | @settle op signer signature clock hset =>
    have hlen := g.members.size_erase_le op.subjectFingerprint
    refine ⟨?_, ?_⟩
    · rw [settled_members, settled_pendingJoins]
      split_ifs <;> omega
    · rw [settled_ops, length_tail]
      omega
  | rebind | unbind => exact ⟨seats, queue⟩

lemma IsNew.capacity (h : g.IsNew) : g.Capacity := by
  obtain ⟨session, name, key, handle, display, suite, wall, heq⟩ := h
  rw [heq]
  have hone := (Dict.empty : Dict Fingerprint Ref).size_set_le g.ownerFingerprint 0
  exact ⟨hone.trans (by decide), zero_le _⟩

lemma Lived.capacity (h : Lived P log g) : g.Capacity := by
  induction h with
  | new h => exact h.capacity
  | step _ hs ih => exact ih.step hs

structure Pinned (g : Group) : Prop where
  tail : ∀ op ∈ g.ops.tail, op.awaitingSince = none
  head : ∀ op, g.ops.head? = some op → op.awaitingSince.isSome → op.epoch = g.epoch + 1 ∧
    ∃ wall, op.wallTs = some wall ∧ op.canonical =
      canonicalEventForm g.groupId (g.epoch + 1) op.kind op.subjectFingerprint wall

lemma pinned_append {ops : List Op} (unpromoted : op.awaitingSince = none)
    (tail : ∀ o ∈ ops.tail, o.awaitingSince = none) :
    (∀ o ∈ (ops ++ [op]).tail, o.awaitingSince = none) ∧
      ∀ o, (ops ++ [op]).head? = some o → o.awaitingSince.isSome → ops.head? = some o := by
  cases ops with
  | nil => simp [unpromoted]
  | cons =>
    refine ⟨?_, fun o' ho' _ => ho'⟩
    intro o' ho'
    obtain ho' | ho' := mem_append.mp ho'
    · exact tail o' ho'
    · rw [mem_singleton.mp ho', unpromoted]

lemma Pinned.of_tail (h : g.Pinned) (hops : g'.ops = g.ops.tail) : g'.Pinned := by
  have hnone (op : Op) (hop : op ∈ g'.ops) : op.awaitingSince = none := h.tail op (hops ▸ hop)
  refine ⟨fun op hop => hnone op (mem_of_mem_tail hop), ?_⟩
  intro op hop hw
  simp [hnone op (mem_of_head? hop)] at hw

lemma Pinned.step (h : g.Pinned) (hs : Step P g l g') : g'.Pinned := by
  cases hs with
  | enrol op session key handle display _ _ _ _ _ unpromoted =>
    obtain ⟨htail, hhead⟩ := pinned_append unpromoted h.tail
    exact ⟨htail, fun o ho hw => h.head o (hhead o ho hw) hw⟩
  | enqueue op requested =>
    obtain ⟨htail, hhead⟩ := pinned_append requested.1 h.tail
    exact ⟨htail, fun o ho hw => h.head o (hhead o ho hw) hw⟩
  | @promote head rest clock queue _ =>
    refine ⟨fun o ho => h.tail o (by simpa [queue] using ho), ?_⟩
    rintro o ⟨⟩ _
    exact ⟨rfl, clock.wall, rfl, rfl⟩
  | abandon queue | drop queue => exact h.of_tail (by simp [queue])
  | settle => exact h.of_tail (settled_ops ..)
  | reserve | release | rebind | unbind | seat => exact ⟨h.tail, h.head⟩

lemma Lived.pinned (h : Lived P log g) : g.Pinned := by
  induction h with
  | new h =>
    obtain ⟨session, name, key, handle, display, suite, wall, heq⟩ := h
    rw [heq]
    exact ⟨by simp [newGroup], by simp [newGroup]⟩
  | step _ hs ih => exact ih.step hs

lemma keepLast_append_keepLast (n xs) (x : α) :
    keepLast n (keepLast n xs ++ [x]) = keepLast n (xs ++ [x]) := by
  unfold keepLast
  rw [← drop_append_of_le_length (sub_le _ _), drop_drop]
  congr 1
  simp only [length_drop, length_append, length_singleton]
  omega

lemma keepLast_append {n} (past xs : List α) (h : n ≤ xs.length) :
    keepLast n (past ++ xs) = keepLast n xs := by
  unfold keepLast
  rw [length_append, Nat.add_sub_assoc h, drop_append]
  simp

lemma keepLast_min (n) (xs : List α) : keepLast (min n xs.length) xs = keepLast n xs := by
  unfold keepLast
  congr 1
  omega

structure Logged (log : List CommittedOp) (g : Group) : Prop where
  epoch : g.epoch = log.length + 1
  events : g.events = keepLast groupEventsKept (log.map CommittedOp.event)
  numbered : log.map (fun c => c.event.epoch) = List.range' 2 log.length

lemma Step.unlogged (h : Step P g l g') (hl : l.commits = []) :
    g'.epoch = g.epoch ∧ g'.events = g.events := by
  cases h with
  | settle => cases hl
  | _ => exact ⟨rfl, rfl⟩

lemma Logged.step (h : g.Logged log) (hs : Step P g l g') : g'.Logged (log ++ l.commits) := by
  cases hl : l.commits with
  | nil =>
    obtain ⟨hepoch, hevents⟩ := hs.unlogged hl
    rw [append_nil]
    exact ⟨hepoch.trans h.epoch, hevents.trans h.events, h.numbered⟩
  | cons c rest =>
    cases hs with
    | @settle op signer signature clock hset =>
      obtain ⟨rfl, rfl⟩ : g.settledReply op signature clock = c ∧ [] = rest := by
        simpa [Label.commits] using hl
      refine ⟨?_, ?_, ?_⟩
      · rw [settled_epoch, h.epoch, length_append, length_singleton]
      · rw [map_append, map_singleton, ← keepLast_append_keepLast, ← h.events]
        rfl
      · have hnew : (g.settledReply op signature clock).event.epoch = 2 + log.length := by
          change g.epoch + 1 = 2 + log.length
          rw [h.epoch]
          omega
        rw [map_append, h.numbered, map_singleton, hnew, length_append,
          length_singleton, List.range'_1_concat]
    | _ => cases hl

lemma Lived.logged (h : Lived P log g) : g.Logged log := by
  induction h with
  | new h =>
    obtain ⟨session, name, key, handle, display, suite, wall, heq⟩ := h
    rw [heq]
    exact ⟨rfl, rfl, rfl⟩
  | step _ hs ih => exact ih.step hs

lemma Logged.kept_epochs (h : g.Logged log) : g.events.map GroupEvent.epoch =
      List.range' (g.epoch + 1 - min groupEventsKept (g.epoch - 1))
        (min groupEventsKept (g.epoch - 1)) := by
  have hmap : (log.map CommittedOp.event).map GroupEvent.epoch = List.range' 2 log.length := by
    rw [map_map]
    exact h.numbered
  rw [h.events, keepLast, map_drop, hmap, length_map, drop_range', h.epoch]
  congr 1 <;> omega

end Group

namespace GroupAuthority
variable {P : Primitives}

lemma run_concat (P a) (calls : List (Clock × Call)) (clock call) :
    run P a (calls ++ [(clock, call)]) = (run P a calls).exec P clock call := by
  simp [run]

lemma mem_log_run {a} {calls : List (Clock × Call)} {c} (h : c ∈ (run P a calls).log) :
    ∃ before clock call after, calls = before ++ (clock, call) :: after ∧
      ((run P a before).authority.exec P clock call).2 = some c := by
  induction calls using List.reverseRecOn with
  | nil => cases h
  | append_singleton calls last ih =>
    obtain ⟨clock, call⟩ := last
    rw [run_concat] at h
    obtain h | h := mem_append.mp h
    · obtain ⟨before, clock', call', after, rfl, hc⟩ := ih h
      exact ⟨before, clock', call', after ++ [(clock, call)], by simp, hc⟩
    · exact ⟨calls, clock, call, [], rfl, Option.mem_toList.mp h⟩

/-- `c` carries a signature over its own canonical bytes, valid under the key that `a`'s roster
holds for its signer: the leaver for a leave, the owner for everything else. -/
def SignedBy (P : Primitives) (a : GroupAuthority) (c : CommittedOp) : Prop :=
  ∃ g signer, a.groups.get? c.event.groupId = some g ∧
    g.member? c.event.signerFingerprint = some signer ∧ signer.status = .active ∧
    verifySignature P ((fromHex signer.publicKeyHex).getD []) c.event.signature
      c.event.canonical ∧
    c.event.signerFingerprint =
      if c.event.kind = .left then c.event.subjectFingerprint else g.ownerFingerprint

end GroupAuthority

namespace Group
variable {P : Primitives} {g : Group} {op : Op}

lemma Pinned.canonical (h : g.Pinned) (head : g.ops.head? = some op)
    (awaiting : op.awaitingSince.isSome) (signature clock) :
    op.canonical = (g.committedEvent op signature clock).canonical := by
  obtain ⟨_, wall, hwall, hcanonical⟩ := h.head op head awaiting
  simp [hcanonical, GroupEvent.canonical, committedEvent, hwall]

lemma Concerns.signer (h : g.Concerns op) : op.signerFingerprint =
      if op.kind = .left then op.subjectFingerprint else g.ownerFingerprint := by
  unfold Concerns at h
  unfold Op.kind
  cases hact : op.action <;> rw [hact] at h <;> simp_all [OpAction.kind]

end Group

namespace GroupAuthority
variable {P : Primitives}

lemma History.Sound.signedBy {h : History} (hs : h.Sound P) {clock call c}
    (hc : (h.authority.exec P clock call).2 = some c) :
    h.authority.SignedBy P c := by
  have committed {gid : GroupId} {g : Group} {op : Op} {signer : Member} {signature : Bytes}
      (clock : Clock) (live : h.authority.groups.get? gid = some g)
      (hset : Group.Settles P g op signer signature) :
      h.authority.SignedBy P (g.settledReply op signature clock) := by
    obtain ⟨hid, _, _, _, lived⟩ := hs.live gid g live
    have hcan := lived.pinned.canonical hset.head hset.awaiting signature clock
    have hop := lived.roster.queued op (mem_of_head? hset.head)
    refine ⟨g, signer, ?_, hset.signer_eq, hset.signer_active, ?_, hop.signer⟩
    · exact (congrArg h.authority.groups.get? hid).trans live
    · exact hcan ▸ hset.verified
  have hchange := h.authority.change_exec (P := P) clock call
  rw [hc] at hchange
  generalize (h.authority.exec P clock call).1 = a' at hchange
  cases hchange with
  | settled clock' live _ hset => exact committed clock' live hset
  | buried clock' live _ hset => exact committed clock' live hset

theorem signed_epoch_eq_committed_epoch (P : Primitives)
    (joinPending signTimeout retention : Seconds) (calls : List (Clock × Call)) :
    let start := init joinPending signTimeout retention
    let h := run P start calls
    (∀ gid g, h.authority.groups.get? gid = some g ∨ h.authority.dissolved.get? gid = some g →
      (∀ op ∈ g.ops.tail, op.awaitingSince = none) ∧
      (∀ op, g.ops.head? = some op → op.awaitingSince.isSome →
        op.epoch = g.epoch + 1 ∧ ∀ signature clock, op.canonical =
          ({ g with ops := g.ops.tail }.committedEvent op signature clock).canonical) ∧
      (∃ past since, h.ofGroup gid = past ++ since ∧
        since.map (fun c => c.event.epoch) = List.range' 2 (g.epoch - 1)) ∧
      g.events = Group.keepLast (min groupEventsKept (g.epoch - 1))
        ((h.ofGroup gid).map CommittedOp.event) ∧
      g.events.map GroupEvent.epoch =
        List.range' (g.epoch + 1 - min groupEventsKept (g.epoch - 1))
          (min groupEventsKept (g.epoch - 1))) ∧
    ∀ c ∈ h.log, ∃ before clock call after, calls = before ++ (clock, call) :: after ∧
      ((run P start before).authority.exec P clock call).2 = some c ∧
      (run P start before).authority.SignedBy P c := by
  intro start h
  have hsound := sound_run P joinPending signTimeout retention calls
  refine ⟨?_, ?_⟩
  · intro gid g hg
    obtain ⟨_, past, log, hlog, lived⟩ : h.Tells P gid g := hg.elim (hsound.live _ _) (hsound.gone _ _)
    have hpinned := lived.pinned
    have hlogged := lived.logged
    have hlen : g.epoch - 1 = log.length := by rw [hlogged.epoch, Nat.add_sub_cancel]
    refine ⟨hpinned.tail, ?_, ⟨past, log, hlog, hlen ▸ hlogged.numbered⟩, ?_, hlogged.kept_epochs⟩
    · intro op head awaiting
      exact ⟨(hpinned.head op head awaiting).1, hpinned.canonical head awaiting⟩
    · rw [hlog, map_append, hlen, ← length_map (f := CommittedOp.event),
        Group.keepLast_append _ _ (min_le_right _ _), Group.keepLast_min, hlogged.events]
  · intro c hc
    obtain ⟨before, clock, call, after, hcalls, hexec⟩ := mem_log_run hc
    exact ⟨before, clock, call, after, hcalls, hexec,
      (sound_run P joinPending signTimeout retention before).signedBy hexec⟩

def plainPrimitives : Primitives where
  upper := id
  int numeral :=
    if numeral.toList.all Char.isDigit then some (ofDigitChars 10 numeral.toList 0) else none
  sha256 key := Vector.ofFn fun i => key.getD i 0
  ed25519Verify _ _ _ := true
  b64encode _ := ""
  b64decode _ := some (List.replicate 64 0)

def plainKey (digit : Char) : String :=
  String.ofList (List.replicate 5 '0' ++ [digit] ++ List.replicate 58 '0')

def noon : Clock := ⟨0, ⟨2025, 1, 1, 12, 0, 0, 0⟩⟩

def nightWatch : GroupId := ⟨"gl-group-AAAA-AAAA-AAAA", by decide⟩

def bob : Fingerprint := ⟨"GLFP-0000-0100-0000", by decide⟩

def opened : List (Clock × Call) :=
  [(noon, .createGroup "s0" "NightWatch" (plainKey '0') "" "" "GL-AAAA" "owner" "mesh-v1"
    [nightWatch])]

def attested (session opId : String) : List (Clock × Call) :=
  [(noon, .beginJoinRedemption nightWatch.val session "invite"),
    (noon, .attest session nightWatch.val (plainKey '1') "" "" "GL-AAAB" "bob" opId)]

def signed (session opId : String) : List (Clock × Call) :=
  [(noon, .nextSignTask nightWatch.val), (noon, .submitSignature nightWatch.val session opId "")]

theorem capacity_and_owner (P : Primitives) (joinPending signTimeout retention : Seconds)
    (calls : List (Clock × Call)) :
    ∀ gid g, (run P (init joinPending signTimeout retention) calls).authority.groups.get? gid =
        some g →
      g.reservedCount ≤ maxGroupMembers ∧ g.ops.length ≤ groupMaxPendingOps ∧
        ∃ owner, g.member? g.ownerFingerprint = some owner ∧ owner.status = .active ∧
          owner.publicKeyHex = g.ownerPublicKeyHex := by
  intro gid g hg
  obtain ⟨_, _, _, _, lived⟩ := (sound_run P joinPending signTimeout retention calls).live gid g hg
  obtain ⟨r, hr, hactive, hkey⟩ := lived.roster.owner
  refine ⟨?_, lived.capacity.queue, g.objects r, ?_, hactive, hkey⟩
  · rw [Group.reservedCount_eq]
    exact lived.capacity.seats
  · rw [Group.member?, hr, Option.map_some]

/-- Bob is a candidate, another join is pending, and the end of the group waits in the queue. -/
def crowded : List (Clock × Call) :=
  opened ++ attested "s1" "op1" ++ [(noon, .beginJoinRedemption nightWatch.val "s2" "invite"),
    (noon, .requestDissolve nightWatch.val "s0" "op2")]

theorem capacity_and_owner_crowded :
    ∃ g, (run plainPrimitives (init 60 60 60) crowded).authority.groups.get? nightWatch = some g ∧
      g.reservedCount = 3 ∧ g.ops.length = 2 ∧
      g.reservedCount ≤ maxGroupMembers ∧ g.ops.length ≤ groupMaxPendingOps ∧
        ∃ owner, g.member? g.ownerFingerprint = some owner ∧ owner.status = .active ∧
          owner.publicKeyHex = g.ownerPublicKeyHex := by
  have full : ((run plainPrimitives (init 60 60 60) crowded).authority.groups.get? nightWatch).map
      (fun g => (g.reservedCount, g.ops.length)) = some (3, 2) := by decide +kernel
  obtain ⟨g, hg, counts⟩ := Option.map_eq_some_iff.mp full
  obtain ⟨seats, queue⟩ := Prod.mk.inj counts
  exact ⟨g, hg, seats, queue, capacity_and_owner plainPrimitives 60 60 60 crowded nightWatch g hg⟩

end GroupAuthority
end Ghostlink.Groups
