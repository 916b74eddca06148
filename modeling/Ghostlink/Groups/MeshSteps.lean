import Ghostlink.Base.DictKeys
import Ghostlink.Base.Runs
import Ghostlink.Groups.MeshCustody

/-! What the operations of the link manager do to its maps. Except for a pairing that completes and
an epoch that is observed, links are only taken away. The guard on the number of links stands where
a handshake begins. -/

namespace Ghostlink.Groups.GroupMeshManager
open Collections Messaging Runs Dict

variable {S : SessionPrimitives} {lower : String → String} {m m' m'' : GroupMeshManager}
  {key : PeerKey} {groupId peer peerHex ownHex : String} {epoch : ℤ}

structure Shrinks (m m' : GroupMeshManager) : Prop where
  links : ∀ key ref, m'.links.get? key = some ref → m.links.get? key = some ref
  draining : ∀ key entry, m'.draining.get? key = some entry → m.draining.get? key = some entry
  epochs : ∀ ref, (m'.objects.get? ref).map PairwiseLink.epoch =
    (m.objects.get? ref).map PairwiseLink.epoch
  next : m'.next = m.next
  seconds : m'.drainSeconds = m.drainSeconds
  custody : Custody m → Custody m'

lemma Shrinks.refl (m) : Shrinks m m :=
  ⟨fun _ _ h => h, fun _ _ h => h, fun _ => rfl, rfl, rfl, id⟩

lemma Shrinks.of_eq (h : Shrinks m m') (links : m''.links = m'.links)
    (draining : m''.draining = m'.draining) (objects : m''.objects = m'.objects)
    (next : m''.next = m'.next) (seconds : m''.drainSeconds = m'.drainSeconds) : Shrinks m m'' where
  links := by rw [links]; exact h.links
  draining := by rw [draining]; exact h.draining
  epochs := by rw [objects]; exact h.epochs
  next := next.trans h.next
  seconds := seconds.trans h.seconds
  custody before := (h.custody before).of_eq links draining objects next

lemma Shrinks.trans (h : Shrinks m m') (h' : Shrinks m' m'') : Shrinks m m'' where
  links key ref found := h.links key ref (h'.links key ref found)
  draining key entry found := h.draining key entry (h'.draining key entry found)
  epochs ref := (h'.epochs ref).trans (h.epochs ref)
  next := h'.next.trans h.next
  seconds := h'.seconds.trans h.seconds
  custody before := h'.custody (h.custody before)

variable {k : PeerKey} {ν : Type}

section
variable (m)

lemma zeroize_epochs (ref r) :
    ((m.zeroize ref).objects.get? r).map PairwiseLink.epoch =
      (m.objects.get? r).map PairwiseLink.epoch := by
  unfold zeroize
  split
  · rfl
  · rename_i link found
    rw [get?_set]
    split_ifs with here
    · rw [here, found]
      rfl
    · rfl

lemma zeroize_seconds (ref) :
    (m.zeroize ref).drainSeconds = m.drainSeconds ∧ (m.zeroize ref).groupEpochs = m.groupEpochs ∧
      (m.zeroize ref).pending = m.pending := by
  unfold zeroize
  split <;> exact ⟨rfl, rfl, rfl⟩

lemma dropLive_spec (key) :
    Shrinks m (m.dropLive key).1 ∧ (m.dropLive key).1.links = m.links.erase key ∧
      (m.dropLive key).1.draining = m.draining ∧ (m.dropLive key).1.pending = m.pending ∧
      (m.dropLive key).1.groupEpochs = m.groupEpochs := by
  unfold dropLive
  cases found : m.links.get? key with
  | none => exact ⟨.refl m, ((erase_eq_self_iff ..).mpr found).symm, rfl, rfl, rfl⟩
  | some ref =>
    obtain ⟨seconds, observed, waiting⟩ := zeroize_seconds m ref
    refine ⟨⟨fun _ _ => get?_of_erase, fun k entry there => ?_, zeroize_epochs m ref,
      zeroize_next m ref, seconds, fun h => ?_⟩, rfl, zeroize_draining m ref, waiting, observed⟩
    · rwa [← zeroize_draining m ref]
    · have dropped := (h.dropLive key).1
      rwa [dropLive, found] at dropped

lemma dropDraining_spec (key) :
    Shrinks m (m.dropDraining key).1 ∧ (m.dropDraining key).1.links = m.links ∧
      (m.dropDraining key).1.draining = m.draining.erase key ∧
      (m.dropDraining key).1.pending = m.pending ∧
      (m.dropDraining key).1.groupEpochs = m.groupEpochs := by
  unfold dropDraining
  cases found : m.draining.get? key with
  | none => exact ⟨.refl m, rfl, ((erase_eq_self_iff ..).mpr found).symm, rfl, rfl⟩
  | some entry =>
    obtain ⟨seconds, observed, waiting⟩ := zeroize_seconds m entry.1
    refine ⟨⟨fun k r there => ?_, fun _ _ => get?_of_erase, zeroize_epochs m entry.1,
      zeroize_next m entry.1, seconds, fun h => ?_⟩, zeroize_links m entry.1, rfl, waiting, observed⟩
    · rwa [← zeroize_links m entry.1]
    · have dropped := (h.dropDraining key).1
      rwa [dropDraining, found] at dropped

lemma dropLink_spec (key) :
    Shrinks m (m.dropLink key).1 ∧ (m.dropLink key).1.links = m.links.erase key ∧
      (m.dropLink key).1.draining = m.draining.erase key ∧
      (m.dropLink key).1.pending = m.pending.erase key ∧
      (m.dropLink key).1.groupEpochs = m.groupEpochs := by
  obtain ⟨live, links, draining, pending, observed⟩ := dropLive_spec m key
  obtain ⟨drained, links', draining', pending', observed'⟩ := dropDraining_spec (m.dropLive key).1 key
  refine ⟨(live.trans drained).of_eq rfl rfl rfl rfl rfl, links'.trans links, draining'.trans (by rw [draining]), ?_,
    observed'.trans observed⟩
  exact congrArg (Dict.erase · key) (pending'.trans pending)

end

lemma dropEach_spec {drop} {G : GroupMeshManager → PeerKey → Prop}
    (shrinks : ∀ m key, Shrinks m (drop m key).1 ∧ (drop m key).1.groupEpochs = m.groupEpochs)
    (gone : ∀ m key, G (drop m key).1 key)
    (stays : ∀ m m' key, Shrinks m m' → G m key → G m' key) (keys) :
    Shrinks m (dropEach drop m keys).1 ∧ (dropEach drop m keys).1.groupEpochs = m.groupEpochs ∧
      ∀ key ∈ keys, G (dropEach drop m keys).1 key := by
  unfold dropEach
  generalize (0 : ℕ) = count
  induction keys generalizing m count with
  | nil => exact ⟨.refl m, rfl, fun _ mem => absurd mem List.not_mem_nil⟩
  | cons k keys ih =>
    obtain ⟨step, observed⟩ := shrinks m k
    obtain ⟨rest, observed', later⟩ := @ih (drop m k).1 (count + (drop m k).2.toNat)
    refine ⟨step.trans rest, observed'.trans observed, fun key mem => ?_⟩
    rcases List.mem_cons.mp mem with rfl | mem
    · exact stays _ _ _ rest (gone m key)
    · exact later key mem

lemma none_of_shrinks {d d' : Dict PeerKey ν}
    (less : ∀ k x, d'.get? k = some x → d.get? k = some x) (none : d.get? k = none) :
    d'.get? k = Option.none := by
  refine Option.eq_none_iff_forall_ne_some.mpr fun x found => ?_
  simp [less k x found] at none

lemma teardown_spec (m : GroupMeshManager) (keys : List PeerKey)
    (drains : GroupMeshManager → List PeerKey) :
    let m₁ := (dropEach dropLink m keys).1
    let m₂ := (dropEach dropDraining m₁ (drains m₁)).1
    Shrinks m m₂ ∧ m₂.groupEpochs = m.groupEpochs ∧ (∀ key ∈ keys, m₂.links.get? key = none) ∧
      ∀ key ∈ drains m₁, m₂.draining.get? key = none := by
  intro m₁ m₂
  obtain ⟨first, observed, noLive⟩ := dropEach_spec (G := fun m k => m.links.get? k = none)
    (fun m k => ⟨(dropLink_spec m k).1, (dropLink_spec m k).2.2.2.2⟩)
    (fun m k => by rw [(dropLink_spec m k).2.1, get?_erase_self])
    (fun _ _ _ less => none_of_shrinks less.links) keys
  obtain ⟨second, observed', noDrain⟩ := dropEach_spec
    (G := fun m k => m.draining.get? k = none)
    (fun m k => ⟨(dropDraining_spec m k).1, (dropDraining_spec m k).2.2.2.2⟩)
    (fun m k => by rw [(dropDraining_spec m k).2.2.1, get?_erase_self])
    (fun _ _ _ less => none_of_shrinks less.draining) (drains m₁)
  exact ⟨first.trans second, observed'.trans observed,
    fun k mem => none_of_shrinks second.links (noLive k mem), noDrain⟩

def liveCount (m : GroupMeshManager) (groupId : String) : ℕ :=
  (m.links.keys.filter fun key => key.1 = groupId).length

def Flooded (m : GroupMeshManager) : Prop := m.links.size + m.pending.size > strayKexEviction

instance (m : GroupMeshManager) : Decidable m.Flooded := inferInstanceAs (Decidable (_ > _))

def linkLimit : MeshError :=
  .message s!"The mesh already holds the maximum {maxLinks} links for this group."
    "Link capacity is bounded at members-1 by design."

def floodGuard : MeshError :=
  .message "Too many outstanding mesh handshakes." "KEX flood guard tripped — try again shortly."

lemma requireCapacity_eq (m : GroupMeshManager) (groupId now) : m.requireCapacity groupId now =
      if maxLinks ≤ m.liveCount groupId then (m, .error linkLimit)
      else if m.Flooded then (m.sweepPending now,
        if (m.sweepPending now).Flooded then .error floodGuard else .ok ())
      else (m, .ok ()) := by
  unfold requireCapacity
  dsimp only
  split_ifs <;> first | rfl | contradiction

lemma requireCapacity_spec (m : GroupMeshManager) (groupId now) :
    Shrinks m (m.requireCapacity groupId now).1 ∧
      (m.requireCapacity groupId now).1.links = m.links ∧
      (m.requireCapacity groupId now).1.groupEpochs = m.groupEpochs := by
  have swept : Shrinks m (m.sweepPending now) := (Shrinks.refl m).of_eq rfl rfl rfl rfl rfl
  rw [requireCapacity_eq]
  split_ifs
  · exact ⟨.refl m, rfl, rfl⟩
  · exact ⟨swept, rfl, rfl⟩
  · exact ⟨swept, rfl, rfl⟩
  · exact ⟨.refl m, rfl, rfl⟩

structure Pairing (m : GroupMeshManager) (key : PeerKey) (epoch : ℤ) (m₁ : GroupMeshManager)
    (link : PairwiseLink) (m' : GroupMeshManager) : Prop where
  shrinks : Shrinks m m₁
  observed : m₁.groupEpochs = m.groupEpochs
  links : m₁.links = m.links.erase key
  cleared : m₁.draining.get? key = none
  pinned : link.epoch = epoch
  placed : link.place = key
  filed : m' = m₁.filed key link

lemma pairing_installLink (shrinks : Shrinks m m') (observed : m'.groupEpochs = m.groupEpochs)
    (links : m'.links.erase key = m.links.erase key) (sessionKey hex initiator now) : ∃ m₁ link, Pairing m key epoch m₁ link
      (m'.installLink lower key sessionKey epoch hex initiator now).1 := by
  obtain ⟨dropped, links', draining', -, observed'⟩ := dropLink_spec m' key
  refine ⟨_, _, shrinks.trans dropped, observed'.trans observed, links'.trans links, ?_, rfl, rfl, rfl⟩
  rw [draining', get?_erase_self]

section
variable (S)

lemma handleHello_cases (lower) (m : GroupMeshManager)
    (groupId : String) (epoch : ℤ) (peer peerHex ownHex : String) (hello : KexPayload)
    (d : ResponderDraw) (swept installed : ℚ) :
    let r := m.handleHello S lower groupId epoch peer peerHex ownHex hello d swept installed
    r.2.isOk = false ∧ Shrinks m r.1 ∧ r.1.groupEpochs = m.groupEpochs ∨
      r.2.isOk ∧ m.liveCount groupId < maxLinks ∧
        ∃ m₁ link, Pairing m (groupId, peer) epoch m₁ link r.1 := by
  intro r
  have guard := requireCapacity_eq m groupId swept
  obtain ⟨guarded, links, observed⟩ := requireCapacity_spec m groupId swept
  simp only [r, handleHello]
  split
  · exact .inl ⟨rfl, .refl m, rfl⟩
  split
  · exact .inl ⟨rfl, .refl m, rfl⟩
  split
  · rename_i m₀ e refused
    rw [refused] at guarded observed
    exact .inl ⟨rfl, guarded, observed⟩
  · rename_i m₀ granted
    rw [granted] at guarded observed guard links
    have room : m.liveCount groupId < maxLinks := by
      by_contra full
      simp [if_pos (Nat.le_of_not_lt full)] at guard
    obtain ⟨dropped, links', -, -, observed'⟩ := dropLink_spec m₀ (groupId, peer)
    split
    · exact .inl ⟨rfl, guarded.trans dropped, observed'.trans observed⟩
    split
    · exact .inl ⟨rfl, guarded.trans dropped, observed'.trans observed⟩
    · refine .inr ⟨rfl, room, pairing_installLink (guarded.trans dropped) (observed'.trans observed) ?_
        _ _ _ _⟩
      rw [links', links, (erase_eq_self_iff ..).mpr (get?_erase_self ..)]

lemma handleReply_cases (lower) (m : GroupMeshManager)
    (groupId : String) (epoch : ℤ) (peer : String) (reply : KexPayload) (installed : ℚ) :
    let r := m.handleReply S lower groupId epoch peer reply installed
    r.2.isOk = false ∧ Shrinks m r.1 ∧ r.1.groupEpochs = m.groupEpochs ∨
      r.2.isOk ∧ ∃ m₁ link, Pairing m (groupId, peer) epoch m₁ link r.1 := by
  intro r
  have taken : Shrinks m { m with pending := m.pending.erase (groupId, peer) } :=
    (Shrinks.refl m).of_eq rfl rfl rfl rfl rfl
  simp only [r, handleReply]
  split
  · exact .inl ⟨rfl, .refl m, rfl⟩
  split
  · exact .inl ⟨rfl, .refl m, rfl⟩
  split
  · exact .inl ⟨rfl, .refl m, rfl⟩
  split
  · exact .inl ⟨rfl, taken, rfl⟩
  split
  · exact .inl ⟨rfl, taken, rfl⟩
  · exact .inr ⟨rfl, pairing_installLink taken rfl rfl _ _ _ _⟩

lemma helloFor_spec (lower) (m : GroupMeshManager)
    (groupId : String) (epoch : ℤ) (peer peerHex ownHex : String) (force : Bool) (d : HelloDraw) :
    let r := m.helloFor S lower groupId epoch peer peerHex ownHex force d
    Shrinks m r.1 ∧ r.1.groupEpochs = m.groupEpochs := by
  intro r
  simp only [r, helloFor]
  split
  · exact ⟨.refl m, rfl⟩
  split
  · exact ⟨.refl m, rfl⟩
  split
  · exact ⟨.refl m, rfl⟩
  generalize old : (ite (((m.links.get? (groupId, peer)).bind m.objects.get?).any fun link =>
    link.epoch = epoch) (m.dropLink (groupId, peer)).1 m) = m₀
  have kept : Shrinks m m₀ ∧ m₀.groupEpochs = m.groupEpochs := by
    obtain ⟨dropped, -, -, -, observed⟩ := dropLink_spec m (groupId, peer)
    rw [← old]
    split_ifs
    · exact ⟨dropped, observed⟩
    · exact ⟨.refl m, rfl⟩
  obtain ⟨guarded, -, observed⟩ := requireCapacity_spec m₀ groupId d.swept
  split
  · rename_i refused
    rw [refused] at guarded observed
    exact ⟨kept.1.trans guarded, observed.trans kept.2⟩
  · rename_i granted
    rw [granted] at guarded observed
    exact ⟨(kept.1.trans guarded).of_eq rfl rfl rfl rfl rfl, observed.trans kept.2⟩

end

def Harmless (lower : String → String) (m : GroupMeshManager) (groupId peer peerHex ownHex : String)
    (hello : KexPayload) (swept : ℚ) : Prop :=
  initiates lower ownHex peerHex ∨ presents lower hello (lower peerHex) = false ∨
    maxLinks ≤ m.liveCount groupId ∨
    (m.Flooded ∧ ∀ key p, m.pending.get? key = some p → swept < p.deadlineMono) ∨
    (¬ m.Flooded ∧ m.links.get? (groupId, peer) = none ∧ m.draining.get? (groupId, peer) = none ∧
      m.pending.get? (groupId, peer) = none)

lemma sweepPending_eq_iff (m : GroupMeshManager) (now) :
    (m.sweepPending now).pending = m.pending ↔
      ∀ key p, m.pending.get? key = some p → now < p.deadlineMono := by
  rw [sweepPending, filter_eq_self_iff]
  simp

lemma handleHello_refused {hello d swept installed}
    (refused : (m.handleHello S lower groupId epoch peer peerHex ownHex hello d swept
      installed).2.isOk = false) :
    let m' := (m.handleHello S lower groupId epoch peer peerHex ownHex hello d swept installed).1
    (initiates lower ownHex peerHex ∨ presents lower hello (lower peerHex) = false) ∧ m' = m ∨
      ¬ initiates lower ownHex peerHex ∧ presents lower hello (lower peerHex) ∧
        ((∃ e, m.requireCapacity groupId swept = (m', .error e)) ∨
          ∃ m₀, m.requireCapacity groupId swept = (m₀, .ok ()) ∧
            m' = (m₀.dropLink (groupId, peer)).1) := by
  intro m'
  simp only [m', handleHello] at refused ⊢
  split
  · rename_i role
    exact .inl ⟨.inl role, rfl⟩
  rename_i role
  rw [if_neg role] at refused
  split
  · rename_i shown
    exact .inl ⟨.inr (Bool.eq_false_iff.mpr shown), rfl⟩
  rename_i shown
  rw [if_neg shown] at refused
  refine .inr ⟨role, not_not.mp shown, ?_⟩
  split
  · rename_i m₀ e guarded
    exact .inl ⟨e, guarded⟩
  rename_i m₀ granted
  rw [granted] at refused
  refine .inr ⟨m₀, granted, ?_⟩
  split
  · rfl
  rename_i answered
  rw [answered] at refused
  dsimp only at refused
  split
  · rfl
  rename_i bound
  rw [if_neg bound] at refused
  cases refused

/-- A hello that is refused leaves the maps of the manager as they are exactly if it is harmless. -/
theorem refused_hello_intact_iff (S : SessionPrimitives) (lower : String → String)
    (m : GroupMeshManager) (groupId : String) (epoch : ℤ) (peer peerHex ownHex : String)
    (hello : KexPayload) (d : ResponderDraw) (swept installed : ℚ)
    (refused : (m.handleHello S lower groupId epoch peer peerHex ownHex hello d swept
      installed).2.isOk = false) :
    let m' := (m.handleHello S lower groupId epoch peer peerHex ownHex hello d swept installed).1
    (m'.links = m.links ∧ m'.draining = m.draining ∧ m'.pending = m.pending) ↔
      m.Harmless lower groupId peer peerHex ownHex hello swept := by
  have shape := handleHello_refused refused
  revert shape
  generalize (m.handleHello S lower groupId epoch peer peerHex ownHex hello d swept installed).1 = m'
  intro shape
  unfold Harmless
  obtain ⟨early, rfl⟩ | ⟨role, shown, ⟨e, guarded⟩ | ⟨m₀, granted, rfl⟩⟩ := shape
  · exact iff_of_true ⟨rfl, rfl, rfl⟩ (by rw [← or_assoc]; exact .inl early)
  · rw [requireCapacity_eq] at guarded
    simp only [role, shown, Bool.true_eq_false, Bool.false_eq_true, false_or]
    split_ifs at guarded with full flooded still
    · obtain ⟨rfl, -⟩ := Prod.mk.inj guarded
      exact iff_of_true ⟨rfl, rfl, rfl⟩ (.inl full)
    · -- the guard has swept before it refused
      obtain ⟨rfl, -⟩ := Prod.mk.inj guarded
      simp only [full, flooded, false_or, true_and, not_true_eq_false, false_and, or_false,
        ← sweepPending_eq_iff]
      exact ⟨fun h => h.2.2, fun h => ⟨rfl, rfl, h⟩⟩
    · exact absurd (Prod.mk.inj guarded).2 (by rintro ⟨⟩)
    · exact absurd (Prod.mk.inj guarded).2 (by rintro ⟨⟩)
  · obtain ⟨-, links, draining, pending, -⟩ := dropLink_spec m₀ (groupId, peer)
    simp only [links, draining, pending, role, shown, Bool.true_eq_false, Bool.false_eq_true, false_or]
    rw [requireCapacity_eq] at granted
    split_ifs at granted with full flooded still
    · exact absurd (Prod.mk.inj granted).2 (by rintro ⟨⟩)
    · exact absurd (Prod.mk.inj granted).2 (by rintro ⟨⟩)
    · -- a guard that lets the hello pass after all has swept something away
      obtain ⟨rfl, -⟩ := Prod.mk.inj granted
      have less : (m.sweepPending swept).pending.size < m.pending.size := by
        have before : m.links.size + m.pending.size > strayKexEviction := flooded
        have after : ¬ m.links.size + (m.sweepPending swept).pending.size > strayKexEviction := still
        omega
      have erased := size_erase_le (m.sweepPending swept).pending (groupId, peer)
      simp only [full, flooded, false_or, true_and, not_true_eq_false, false_and, or_false,
        ← sweepPending_eq_iff]
      refine iff_of_false (fun h => ?_) fun h => ?_
      · rw [h.2.2] at erased
        omega
      · rw [h] at less
        omega
    · obtain ⟨rfl, -⟩ := Prod.mk.inj granted
      simp [full, flooded, erase_eq_self_iff]

def pairs (S : SessionPrimitives) (lower : String → String) (m : GroupMeshManager) :
    Op → Option (PeerKey × ℤ)
  | .handleHello groupId epoch peer peerHex ownHex hello d swept installed =>
    if (m.handleHello S lower groupId epoch peer peerHex ownHex hello d swept installed).2.isOk
    then some ((groupId, peer), epoch) else none
  | .handleReply groupId epoch peer reply installed =>
    if (m.handleReply S lower groupId epoch peer reply installed).2.isOk
    then some ((groupId, peer), epoch) else none
  | _ => none

structure Forgets (gone : String → Prop) (m m' : GroupMeshManager) : Prop where
  shrinks : Shrinks m m'
  observed : ∀ g, ¬ gone g → m'.groupEpochs.get? g = m.groupEpochs.get? g
  links : ∀ key, gone key.1 → m'.links.get? key = none
  draining : ∀ key, gone key.1 → m'.draining.get? key = none

structure Observes (groupId : String) (epoch : ℤ) (now : ℚ) (m m' : GroupMeshManager) : Prop where
  newer : ∀ current, m.groupEpochs.get? groupId = some current → current < epoch
  observed : m'.groupEpochs = m.groupEpochs.set groupId epoch
  objects : m'.objects = m.objects
  seconds : m'.drainSeconds = m.drainSeconds
  links : ∀ key ref, m'.links.get? key = some ref → m.links.get? key = some ref ∧
    (key.1 = groupId → ∀ link, m.objects.get? ref = some link → epoch ≤ link.epoch)
  draining : ∀ key entry, m'.draining.get? key = some entry → m.draining.get? key = some entry ∨
    key.1 = groupId ∧ m.links.get? key = some entry.1 ∧ entry.2 = now + m.drainSeconds

lemma Shrinks.quiet (h : Shrinks m m') (observed : m'.groupEpochs = m.groupEpochs) :
    Forgets (fun _ => False) m m' :=
  ⟨h, fun _ _ => by rw [observed], fun _ never => never.elim, fun _ never => never.elim⟩

lemma foldl_drainOlder (groupId : String) (epoch : ℤ) (deadline : ℚ)
    (entries : List (PeerKey × ℕ)) (m : GroupMeshManager) :
    let m' := entries.foldl (drainOlder groupId epoch deadline) m
    m'.groupEpochs = m.groupEpochs ∧ m'.objects = m.objects ∧ m'.drainSeconds = m.drainSeconds ∧
      (∀ key ref, m'.links.get? key = some ref → m.links.get? key = some ref ∧
        ((key, ref) ∈ entries → key.1 = groupId →
          ∀ link, m.objects.get? ref = some link → epoch ≤ link.epoch)) ∧
      ∀ key entry, m'.draining.get? key = some entry → m.draining.get? key = some entry ∨
        key.1 = groupId ∧ (key, entry.1) ∈ entries ∧ entry.2 = deadline := by
  induction entries generalizing m with
  | nil =>
    exact ⟨rfl, rfl, rfl, fun _ _ h => ⟨h, fun mem => absurd mem List.not_mem_nil⟩,
      fun _ _ h => .inl h⟩
  | cons e entries ih =>
    obtain ⟨observed, objects, seconds, links, draining⟩ := ih (drainOlder groupId epoch deadline m e)
    rw [List.foldl_cons]
    generalize entries.foldl _ _ = m' at *
    unfold drainOlder at observed objects seconds links draining
    split_ifs at observed objects seconds links draining with older
    · refine ⟨observed, objects, seconds, fun key ref found => ?_, fun key entry found => ?_⟩
      · obtain ⟨there, pinned⟩ := links key ref found
        rw [get?_erase] at there
        split_ifs at there with other
        refine ⟨there, fun mem => ?_⟩
        rcases List.mem_cons.mp mem with rfl | mem
        · exact absurd rfl other
        · exact pinned mem
      · rcases draining key entry found with there | ⟨own, mem, late⟩
        · rcases get?_of_set there with ⟨rfl, rfl⟩ | ⟨-, old⟩
          · exact .inr ⟨older.1, List.mem_cons_self, rfl⟩
          · exact .inl old
        · exact .inr ⟨own, List.mem_cons_of_mem e mem, late⟩
    · refine ⟨observed, objects, seconds, fun key ref found => ?_, fun key entry found => ?_⟩
      · obtain ⟨there, pinned⟩ := links key ref found
        refine ⟨there, fun mem own link object => ?_⟩
        rcases List.mem_cons.mp mem with rfl | mem
        · by_contra late
          refine older ⟨own, ?_⟩
          rw [object, Option.any_some]
          exact decide_eq_true (not_le.mp late)
        · exact pinned mem own link object
      · exact (draining key entry found).imp id fun h => ⟨h.1, List.mem_cons_of_mem e h.2.1, h.2.2⟩

lemma observeEpoch_cases (m : GroupMeshManager) (groupId epoch now) :
    (m.observeEpoch groupId epoch now).1 = m ∨
      Observes groupId epoch now m (m.observeEpoch groupId epoch now).1 := by
  unfold observeEpoch
  split_ifs with old
  · exact .inl rfl
  · obtain ⟨observed, objects, seconds, links, draining⟩ := foldl_drainOlder groupId epoch
      (now + m.drainSeconds) m.links.entries { m with groupEpochs := m.groupEpochs.set groupId epoch }
    refine .inr ⟨fun current known => ?_, observed, objects, seconds, fun key ref found => ?_,
      fun key entry found => ?_⟩
    · rwa [known, Option.any_some, decide_eq_true_eq, not_le] at old
    · obtain ⟨there, pinned⟩ := links key ref found
      exact ⟨there, pinned ((get?_eq_some_iff ..).mp there)⟩
    · exact (draining key entry found).imp id fun h =>
        ⟨h.1, (get?_eq_some_iff ..).mpr h.2.1, h.2.2⟩

lemma forgets_teardown (m : GroupMeshManager) (own : PeerKey → Bool) (gone : String → Prop)
    (kind : ∀ key, gone key.1 → own key) :
    let m₁ := (dropEach dropLink m (m.links.keys.filter own)).1
    let m₂ := (dropEach dropDraining m₁ (m₁.draining.keys.filter own)).1
    ∀ m', m'.links = m₂.links → m'.draining = m₂.draining → m'.objects = m₂.objects →
      m'.next = m₂.next → m'.drainSeconds = m₂.drainSeconds →
      (∀ g, ¬ gone g → m'.groupEpochs.get? g = m₂.groupEpochs.get? g) → Forgets gone m m' := by
  intro m₁ m₂ m' links draining objects next seconds observed
  obtain ⟨shrinks, kept, noLive, noDrain⟩ := teardown_spec m (m.links.keys.filter own)
    fun m₁ => m₁.draining.keys.filter own
  have first := (teardown_spec m (m.links.keys.filter own) fun _ => []).1
  refine ⟨shrinks.of_eq links draining objects next seconds,
    fun g other => (observed g other).trans (by rw [kept]), fun key away => ?_, fun key away => ?_⟩
  · rw [links]
    by_cases there : key ∈ m.links.keys
    · exact noLive key (List.mem_filter.mpr ⟨there, kind key away⟩)
    · exact none_of_shrinks shrinks.links ((get?_eq_none_iff ..).mpr there)
  · rw [draining]
    by_cases there : key ∈ m₁.draining.keys
    · exact noDrain key (List.mem_filter.mpr ⟨there, kind key away⟩)
    · exact none_of_shrinks (dropEach_spec
        (fun m k => ⟨(dropDraining_spec m k).1, (dropDraining_spec m k).2.2.2.2⟩)
        (fun _ _ => trivial) (fun _ _ _ _ _ => trivial) _).1.draining
        ((get?_eq_none_iff ..).mpr there)

lemma exec_cases (S) (lower : String → String) (m : GroupMeshManager) (op) :
    m.pairs S lower op = none ∧ (∃ gone, Forgets gone m (m.exec S lower op)) ∨
      (∃ key epoch m₁ link, m.pairs S lower op = some (key, epoch) ∧
        Pairing m key epoch m₁ link (m.exec S lower op)) ∨
      m.pairs S lower op = none ∧ ∃ groupId epoch now, op = .observeEpoch groupId epoch now ∧
        Observes groupId epoch now m (m.exec S lower op) := by
  cases op with
  | observeEpoch groupId epoch now =>
    rcases observeEpoch_cases m groupId epoch now with same | new
    · refine .inl ⟨rfl, fun _ => False, ?_⟩
      rw [exec, same]
      exact (Shrinks.refl m).quiet rfl
    · exact .inr (.inr ⟨rfl, groupId, epoch, now, rfl, new⟩)
  | helloFor groupId epoch peer peerHex ownHex force d =>
    obtain ⟨shrinks, observed⟩ := helloFor_spec S lower m groupId epoch peer peerHex ownHex force d
    exact .inl ⟨rfl, _, shrinks.quiet observed⟩
  | handleHello groupId epoch peer peerHex ownHex hello d swept installed =>
    rcases handleHello_cases S lower m groupId epoch peer peerHex ownHex hello d swept installed with
      ⟨failed, shrinks, observed⟩ | ⟨done, -, m₁, link, pairing⟩
    · exact .inl ⟨by simp only [pairs, failed, Bool.false_eq_true, if_false], _, shrinks.quiet observed⟩
    · exact .inr (.inl ⟨_, _, m₁, link, by simp [pairs, done], pairing⟩)
  | handleReply groupId epoch peer reply installed =>
    rcases handleReply_cases S lower m groupId epoch peer reply installed with
      ⟨failed, shrinks, observed⟩ | ⟨done, m₁, link, pairing⟩
    · exact .inl ⟨by simp only [pairs, failed, Bool.false_eq_true, if_false], _, shrinks.quiet observed⟩
    · exact .inr (.inl ⟨_, _, m₁, link, by simp [pairs, done], pairing⟩)
  | teardownLink groupId peer =>
    obtain ⟨shrinks, -, -, -, observed⟩ := dropLink_spec m (groupId, peer)
    exact .inl ⟨rfl, _, shrinks.quiet observed⟩
  | teardownGroup groupId =>
    refine .inl ⟨rfl, (· = groupId), forgets_teardown m (fun key => key.1 = groupId) _
      (fun key own => decide_eq_true own) _ rfl rfl rfl rfl rfl fun g other => ?_⟩
    exact get?_erase_ne _ other
  | teardownAll =>
    have all (keys : List PeerKey) : keys.filter (fun _ => true) = keys := List.filter_true keys
    have forgets := forgets_teardown m (fun _ => true) (fun _ => True) (fun _ _ => rfl)
    simp only [all] at forgets
    exact .inl ⟨rfl, _, forgets _ rfl rfl rfl rfl rfl fun _ away => absurd trivial away⟩
  | expire now =>
    obtain ⟨shrinks, observed, -⟩ := teardown_spec m []
      fun m₁ => (m₁.draining.filter fun _ entry => now ≥ entry.2).keys
    have expired : Shrinks m (m.expire now).1 := shrinks.of_eq rfl rfl rfl rfl rfl
    exact .inl ⟨rfl, _, expired.quiet observed⟩
  | sweepPending now =>
    have swept : Shrinks m (m.sweepPending now) := (Shrinks.refl m).of_eq rfl rfl rfl rfl rfl
    exact .inl ⟨rfl, _, swept.quiet rfl⟩

lemma Custody.exec (h : Custody m) (S lower op) :
    Custody (m.exec S lower op) := by
  rcases exec_cases S lower m op with ⟨-, gone, forgets⟩ | ⟨key, epoch, m₁, link, -, pairing⟩ |
    ⟨-, groupId, epoch, now, rfl, -⟩
  · exact forgets.shrinks.custody h
  · rw [pairing.filed]
    refine (pairing.shrinks.custody h).filed_of_cleared ?_ pairing.cleared pairing.placed
    rw [pairing.links, get?_erase_self]
  · exact h.observeEpoch groupId epoch now

lemma custody_run (S lower drainSeconds kexTimeout ops) :
    Custody (run S lower drainSeconds kexTimeout ops) := by
  induction ops using List.reverseRecOn with
  | nil => exact custody_start drainSeconds kexTimeout
  | append_singleton ops op ih =>
    rw [run, List.foldl_append]
    exact ih.exec S lower op

/-- Whatever the manager is asked to do, no peer is in both maps, and a link that was ever
installed is in one entry of one map or its key has been overwritten. -/
theorem link_keys_held_or_zeroized (S : SessionPrimitives) (lower : String → String)
    (drainSeconds kexTimeout : ℚ) (ops : List Op) :
    let m := run S lower drainSeconds kexTimeout ops
    (∀ key, ¬ (m.links.contains key ∧ m.draining.contains key)) ∧
      ∀ ref link, m.objects.get? ref = some link →
        (∃! holder, m.heldBy holder = some ref) ∨ link.key = zeroKey := by
  intro m
  have h : Custody m := custody_run S lower drainSeconds kexTimeout ops
  refine ⟨?_, ?_⟩
  · rintro key ⟨live, draining⟩
    obtain ⟨ref, found⟩ := Option.isSome_iff_exists.mp live
    simp [Dict.contains, h.apart key ref found] at draining
  · intro ref link found
    by_cases zero : link.key = zeroKey
    · exact .inr zero
    · refine .inl ?_
      rcases h.guarded ref link found zero with held | held
      · exact ⟨_, held, fun other held' => h.holder_unique held' held⟩
      · exact ⟨_, held, fun other held' => h.holder_unique held' held⟩

lemma liveCount_le (less : ∀ key ref, m'.links.get? key = some ref → m.links.get? key = some ref)
    (groupId) : m'.liveCount groupId ≤ m.liveCount groupId := by
  refine count_keys_le _ fun key there => ?_
  obtain ⟨ref, found⟩ := Option.isSome_iff_exists.mp there
  exact Option.isSome_iff_exists.mpr ⟨ref, less key ref found⟩

lemma Pairing.liveCount {m₁ link} (h : Pairing m key epoch m₁ link m') (groupId) :
    (m.links.get? key ≠ none → m'.liveCount groupId ≤ m.liveCount groupId) ∧
      (m.links.get? key = none →
        m'.liveCount groupId = m.liveCount groupId + if key.1 = groupId then 1 else 0) := by
  have links : m'.links = (m.links.erase key).set key m₁.next := by
    rw [h.filed, GroupMeshManager.filed, h.links]
  constructor
  · intro live
    refine count_keys_le _ fun k there => ?_
    rw [links, contains_set, contains_erase] at there
    rcases there with rfl | there
    · exact Option.isSome_iff_ne_none.mpr live
    · exact there.2
  · intro none
    rw [GroupMeshManager.liveCount, links, (erase_eq_self_iff ..).mpr none,
      keys_set_of_none _ none, List.filter_append, List.length_append]
    split_ifs with own <;> simp [GroupMeshManager.liveCount, own]

def Fits (S : SessionPrimitives) (lower : String → String) (m : GroupMeshManager) (op : Op) : Prop :=
  ∀ key epoch, m.pairs S lower op = some (key, epoch) → m.links.get? key = none →
    m.liveCount key.1 < maxLinks

lemma bounded_exec_iff (S lower op) (bounded : ∀ g, m.liveCount g ≤ maxLinks) :
    (∀ g, (m.exec S lower op).liveCount g ≤ maxLinks) ↔ m.Fits S lower op := by
  have idle (none : m.pairs S lower op = none) : m.Fits S lower op := by
    intro key epoch some
    simp [none] at some
  rcases exec_cases S lower m op with ⟨none, gone, forgets⟩ |
    ⟨key, epoch, m₁, link, pairs, pairing⟩ | ⟨none, groupId, epoch, now, -, observes⟩
  · exact iff_of_true (fun g => (liveCount_le forgets.shrinks.links g).trans (bounded g)) (idle none)
  · constructor
    · intro after key' epoch' pairs' fresh
      cases pairs.symm.trans pairs'
      have more := (pairing.liveCount key.1).2 fresh
      rw [if_pos rfl] at more
      have within := after key.1
      omega
    · intro fits g
      by_cases live : m.links.get? key = none
      · rw [(pairing.liveCount g).2 live]
        split_ifs with own
        · rw [← own]
          exact fits key epoch pairs live
        · exact bounded g
      · exact ((pairing.liveCount g).1 live).trans (bounded g)
  · exact iff_of_true (fun g => (liveCount_le (fun k r found => (observes.links k r found).1) g).trans
      (bounded g)) (idle none)

def GuardRefuses (S : SessionPrimitives) (lower : String → String) (m : GroupMeshManager) :
    Op → Prop
  | .helloFor groupId epoch peer peerHex ownHex force d =>
    (m.helloFor S lower groupId epoch peer peerHex ownHex force d).2 ∈
      [.error linkLimit, .error floodGuard]
  | .handleHello groupId epoch peer peerHex ownHex hello d swept installed =>
    (m.handleHello S lower groupId epoch peer peerHex ownHex hello d swept installed).2 ∈
      [.error linkLimit, .error floodGuard]
  | _ => False

/-- The group has its links, or there is a flood that no sweep ends. -/
def Full (m : GroupMeshManager) (groupId : String) (now : ℚ) : Prop :=
  maxLinks ≤ m.liveCount groupId ∨ m.Flooded ∧ (m.sweepPending now).Flooded

def repairs (m : GroupMeshManager) (groupId peer : String) (epoch : ℤ) : Bool :=
  ((m.links.get? (groupId, peer)).bind m.objects.get?).any fun link => link.epoch = epoch

/-- The handshake comes to the guard and finds the mesh full. By then `hello_for` has dropped the
link that it renews; `handle_hello` drops what it replaces only afterwards. -/
def Stopped (lower : String → String) (m : GroupMeshManager) : Op → Prop
  | .helloFor groupId epoch peer peerHex ownHex force d =>
    initiates lower ownHex peerHex ∧
      ¬ ((m.pending.get? (groupId, peer)).any fun p => d.checked < p.deadlineMono) ∧
      (m.repairs groupId peer epoch → force) ∧
      (if m.repairs groupId peer epoch then (m.dropLink (groupId, peer)).1 else m).Full groupId
        d.swept
  | .handleHello groupId _ _ peerHex ownHex hello _ swept _ =>
    ¬ initiates lower ownHex peerHex ∧ presents lower hello (lower peerHex) ∧ m.Full groupId swept
  | _ => False

def Roomy (m : GroupMeshManager) : Op → Prop
  | .helloFor groupId _ _ _ _ _ _ | .handleHello groupId _ _ _ _ _ _ _ _ =>
    m.liveCount groupId < maxLinks ∧ ¬ m.Flooded
  | _ => True

lemma requireCapacity_cases (m : GroupMeshManager) (groupId now) :
    (m.Full groupId now ∧ ∃ m', ∃ e ∈ [linkLimit, floodGuard],
        m.requireCapacity groupId now = (m', .error e)) ∨
      (¬ m.Full groupId now ∧ ∃ m', m.requireCapacity groupId now = (m', .ok ())) := by
  rw [requireCapacity_eq, Full]
  split_ifs with many flood still
  · exact .inl ⟨.inl many, _, linkLimit, by simp, rfl⟩
  · exact .inl ⟨.inr ⟨flood, still⟩, _, floodGuard, by simp, rfl⟩
  · exact .inr ⟨by simp [many, still], _, rfl⟩
  · exact .inr ⟨by simp [many, flood], _, rfl⟩

lemma guardRefuses_iff (S lower op) :
    m.GuardRefuses S lower op ↔ m.Stopped lower op := by
  cases op with
  | helloFor groupId epoch peer peerHex ownHex force d =>
    unfold GuardRefuses Stopped helloFor repairs
    dsimp only
    split
    next other => simp [linkLimit, floodGuard, other]
    next own =>
      split
      next waits => simp [waits]
      next idle =>
        split
        next kept => simp [kept]
        next renewed =>
          generalize (ite (((m.links.get? (groupId, peer)).bind m.objects.get?).any fun link =>
            link.epoch = epoch) (m.dropLink (groupId, peer)).1 m) = m₀
          rcases requireCapacity_cases m₀ groupId d.swept with
            ⟨full, m', e, listed, refused⟩ | ⟨room, m', granted⟩
          · rw [refused]
            exact iff_of_true (by simpa using listed) ⟨not_not.mp own, idle, by simpa using renewed, full⟩
          · rw [granted]
            exact iff_of_false (by simp) fun stopped => room stopped.2.2.2
  | handleHello groupId epoch peer peerHex ownHex hello d swept installed =>
    simp only [GuardRefuses, Stopped, handleHello]
    split
    next own => simp [linkLimit, floodGuard, own]
    next other =>
      split
      next wrong => simp [substituted, linkLimit, floodGuard, wrong]
      next right =>
        rw [not_not] at right
        rcases requireCapacity_cases m groupId swept with
          ⟨full, m', e, listed, refused⟩ | ⟨room, m', granted⟩
        · rw [refused]
          exact iff_of_true (by simpa using listed) ⟨other, right, full⟩
        · rw [granted]
          refine iff_of_false ?_ fun stopped => room stopped.2.2
          dsimp only
          split
          · simp [linkLimit, floodGuard]
          split
          · simp [unbound, linkLimit, floodGuard]
          · simp
  | _ => exact Iff.rfl

lemma Roomy.not_stopped {op} (roomy : m.Roomy op) : ¬ m.Stopped lower op := by
  have spare {m' : GroupMeshManager} {groupId : String} (now : ℚ)
      (room : m'.liveCount groupId < maxLinks) (calm : ¬ m'.Flooded) : ¬ m'.Full groupId now :=
    not_or.mpr ⟨Nat.not_le.mpr room, fun flood => calm flood.1⟩
  cases op with
  | helloFor groupId epoch peer peerHex ownHex force d =>
    obtain ⟨room, calm⟩ := roomy
    rintro ⟨-, -, -, full⟩
    split_ifs at full
    · -- what is left after an explicit new pairing is no more than before
      obtain ⟨shrinks, links, -, pending, -⟩ := dropLink_spec m (groupId, peer)
      refine spare _ ((liveCount_le shrinks.links groupId).trans_lt room) (fun flood => calm ?_) full
      have before : (m.dropLink (groupId, peer)).1.links.size +
        (m.dropLink (groupId, peer)).1.pending.size > strayKexEviction := flood
      rw [links, pending] at before
      exact before.trans_le (Nat.add_le_add (size_erase_le ..) (size_erase_le ..))
    · exact spare _ room calm full
  | handleHello groupId epoch peer peerHex ownHex hello d swept installed =>
    exact fun stopped => spare swept roomy.1 roomy.2 stopped.2.2
  | _ => exact id

/-- Along a run every group keeps to the limit exactly as long as each pairing with a new peer
finds room. The guard refuses exactly the handshakes that are stopped, and none that begins in a
group with room and without a flood, whether or not it replaces a link. -/
theorem mesh_capacity_iff (S : SessionPrimitives) (lower : String → String)
    (drainSeconds kexTimeout : ℚ) (ops : List Op) :
    ((∀ js, js <+: ops → ∀ g, (run S lower drainSeconds kexTimeout js).liveCount g ≤ maxLinks) ↔
      Along (exec S lower) (Fits S lower) (start drainSeconds kexTimeout) ops) ∧
    ∀ js op, js ++ [op] <+: ops →
      let m := run S lower drainSeconds kexTimeout js
      (m.GuardRefuses S lower op ↔ m.Stopped lower op) ∧
        (m.Roomy op → ¬ m.GuardRefuses S lower op) := by
  refine ⟨?_, fun _ op _ => ⟨guardRefuses_iff S lower op, fun roomy => ?_⟩⟩
  · refine (along_iff_forall_moment (J := fun _ => True)
      (P := fun m : GroupMeshManager => ∀ g, m.liveCount g ≤ maxLinks) trivial (fun g => ?_)
      (fun _ _ _ _ _ _ => trivial) fun m op _ _ bounded => bounded_exec_iff S lower op bounded).symm
    exact Nat.zero_le _
  · rw [guardRefuses_iff]
    exact roomy.not_stopped

def openSession : SessionPrimitives where
  publicKey key := key
  exchange _ key := some key
  hkdf key _ _ := key
  sha256 _ := Vector.replicate 32 0
  encrypt _ _ plaintext _ := plaintext
  decrypt _ _ sealed _ := some sealed

def keyHex (digit : Char) : String := String.ofList (List.replicate 64 digit)

def helloOf (digit : Char) : KexPayload :=
  { pub := .text (keyHex digit), nonce := .text "", proof := .absent, name := .absent
    idpub := .text (keyHex digit) }

def answerDraw : ResponderDraw :=
  { privateKey := Vector.replicate 32 0, nonce := Vector.replicate 16 0
    proofNonce := Vector.replicate 12 0 }

def greeted (epoch : ℤ) (peer : String) : Op :=
  .handleHello "g" epoch peer (keyHex '0') (keyHex 'f') (helloOf '0') answerDraw 0 0

def asked (epoch : ℤ) (peer : String) : Op :=
  .helloFor "g" epoch peer (keyHex 'f') (keyHex '0') false
    { privateKey := Vector.replicate 32 0, nonce := Vector.replicate 16 0, checked := 0, swept := 0
      started := 0 }

def replied (epoch : ℤ) (peer : String) : Op :=
  .handleReply "g" epoch peer
    { helloOf 'f' with proof := .text (String.ofList
        (Base64.encode (List.replicate 12 0 ++ confirmPrefix ++ List.replicate 32 0))) } 0

def ran (ops : List Op) : GroupMeshManager := run openSession id 30 20 ops

def eightPeers : List String := ["0", "1", "2", "3", "4", "5", "6", "7"]

/-- Eight handshakes that begin before the first one ends give eight links; and at seven links
the hello of a peer that has one is refused. -/
theorem capacity_overrun_and_refusal :
    (ran (eightPeers.map (asked 1) ++ eightPeers.map (replied 1))).liveCount "g" = 8 ∧
      let m := ran ((eightPeers.take 7).map (greeted 1))
      m.links.get? ("g", "0") ≠ none ∧ (m.handleHello openSession id "g" 1 "0" (keyHex '0')
        (keyHex 'f') (helloOf '0') answerDraw 0 0).2 = .error linkLimit := by
  decide +kernel

/-- A hello without a public key is refused after the link of its sender has been dropped. -/
theorem malformed_hello_drops_link :
    let m := ran [greeted 1 "0"]
    let r := m.handleHello openSession id "g" 1 "0" (keyHex '0') (keyHex 'f')
      { helloOf '0' with pub := .absent } answerDraw 0 0
    m.links.get? ("g", "0") = some 0 ∧ r.2.isOk = false ∧ r.1.links.get? ("g", "0") = none := by
  decide +kernel

/-- The same hello of a peer without a link changes nothing. -/
theorem malformed_hello_of_stranger :
    let m := ran [greeted 1 "0"]
    let r := m.handleHello openSession id "g" 1 "1" (keyHex '0') (keyHex 'f')
      { helloOf '0' with pub := .absent } answerDraw 0 0
    r.1.links = m.links ∧ r.1.draining = m.draining ∧ r.1.pending = m.pending := by
  intro m r
  refine (refused_hello_intact_iff openSession id m "g" 1 "1" (keyHex '0') (keyHex 'f') _ answerDraw
    0 0 (by decide +kernel)).mpr (.inr (.inr (.inr (.inr ?_))))
  decide +kernel

end Ghostlink.Groups.GroupMeshManager
