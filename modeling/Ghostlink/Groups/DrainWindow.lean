import Ghostlink.Groups.MeshSteps

/-! How long a link outlives its epoch. As long as handshakes are run at the observed epoch, a
live link is of that epoch, and a draining one was cut off by the observation that left its own. -/

namespace Ghostlink.Groups.GroupMeshManager
open Collections Messaging Runs Option Dict

variable {S : SessionPrimitives} {lower : String → String} {drainSeconds kexTimeout : ℚ}
  {hist : List Op → GroupMeshManager} {ops : List Op} {op : Op} {g : String} {e : ℤ} {T : ℚ}

def AtObserved (m : GroupMeshManager) : Op → Prop
  | .helloFor groupId epoch .. => m.groupEpochs.get? groupId = some epoch
  | .handleHello groupId epoch .. => m.groupEpochs.get? groupId = some epoch
  | .handleReply groupId epoch .. => m.groupEpochs.get? groupId = some epoch
  | _ => True

instance (m : GroupMeshManager) (op : Op) : Decidable (m.AtObserved op) := by
  cases op <;> unfold AtObserved <;> infer_instance

/-- The group left the epoch by the observation at the time `T`, and has been at later ones since. -/
def LeftAt (hist : List Op → GroupMeshManager) (ops : List Op) (g : String) (e : ℤ) (T : ℚ) : Prop :=
  ∃ js e' ks, ops = js ++ .observeEpoch g e' T :: ks ∧
    (hist js).groupEpochs.get? g = some e ∧ ∀ ls, ls <+: ks →
      ∃ c, (hist (js ++ .observeEpoch g e' T :: ls)).groupEpochs.get? g = some c ∧ e < c

lemma LeftAt.later (h : LeftAt hist ops g e T) :
    ∃ c, (hist ops).groupEpochs.get? g = some c ∧ e < c := by
  obtain ⟨js, e', ks, rfl, -, since⟩ := h
  exact since ks (List.prefix_refl ks)

lemma LeftAt.concat (h : LeftAt hist ops g e T)
    (later : ∃ c, (hist (ops ++ [op])).groupEpochs.get? g = some c ∧ e < c) :
    LeftAt hist (ops ++ [op]) g e T := by
  obtain ⟨js, e', ks, rfl, left, since⟩ := h
  refine ⟨js, e', ks ++ [op], by simp, left, fun ls before => ?_⟩
  rcases List.prefix_concat_iff.mp before with rfl | before
  · simpa using later
  · exact since ls before

def epochOf (m : GroupMeshManager) (ref : ℕ) : Option ℤ :=
  (m.objects.get? ref).map PairwiseLink.epoch

structure Window (hist : List Op → GroupMeshManager) (drainSeconds : ℚ) (ops : List Op)
    (m : GroupMeshManager) : Prop where
  seconds : m.drainSeconds = drainSeconds
  live : ∀ key ref e, m.links.get? key = some ref → m.epochOf ref = some e →
    m.groupEpochs.get? key.1 = some e
  draining : ∀ key entry e, m.draining.get? key = some entry → m.epochOf entry.1 = some e →
    ∃ T, LeftAt hist ops key.1 e T ∧ entry.2 = T + drainSeconds

variable {m m₁ : GroupMeshManager} {link : PairwiseLink}

lemma observed_of_pairs {key} (at_ : m.AtObserved op)
    (paired : m.pairs S lower op = some (key, e)) : m.groupEpochs.get? key.1 = some e := by
  cases op with
  | handleHello | handleReply =>
    simp only [pairs] at paired
    split_ifs at paired
    cases paired
    exact at_
  | _ => cases paired

lemma Pairing.epochOf_held {m' : GroupMeshManager} {key}
    (h : Pairing m key e m₁ link m') (custody : Custody m) (holder) {ref}
    (held : m.heldBy holder = some ref) : m'.epochOf ref = m.epochOf ref := by
  obtain ⟨old, object, -⟩ := custody.filed holder ref held
  have fresh : ref ≠ m₁.next := by
    rintro rfl
    simp [custody.allocated _ h.shrinks.next.ge] at object
  rw [h.filed]
  exact (congrArg (Option.map PairwiseLink.epoch) (get?_set_ne _ _ fresh)).trans
    (h.shrinks.epochs ref)

section
variable (h : Window hist drainSeconds ops (hist ops))
include h

lemma Window.forgets {gone : String → Prop} (step : Forgets gone (hist ops) (hist (ops ++ [op]))) :
    Window hist drainSeconds (ops ++ [op]) (hist (ops ++ [op])) where
  seconds := step.shrinks.seconds.trans h.seconds
  live key ref e found object := by
    by_cases away : gone key.1
    · simp [step.links key away] at found
    · rw [step.observed _ away]
      exact h.live key ref e (step.shrinks.links _ _ found) ((step.shrinks.epochs ref).symm.trans object)
  draining key entry e found object := by
    by_cases away : gone key.1
    · simp [step.draining key away] at found
    · obtain ⟨T, left, cut⟩ := h.draining key entry e (step.shrinks.draining _ _ found)
        ((step.shrinks.epochs entry.1).symm.trans object)
      exact ⟨T, left.concat (by rw [step.observed _ away]; exact left.later), cut⟩

lemma Window.pairing {key} (custody : Custody (hist ops))
    (observed : (hist ops).groupEpochs.get? key.1 = some e)
    (step : Pairing (hist ops) key e m₁ link (hist (ops ++ [op]))) :
    Window hist drainSeconds (ops ++ [op]) (hist (ops ++ [op])) := by
  have same : (hist (ops ++ [op])).groupEpochs = (hist ops).groupEpochs := by
    rw [step.filed]
    exact step.observed
  refine ⟨?_, fun k ref e' found object => ?_, fun k entry e' found object => ?_⟩
  · rw [step.filed]
    exact step.shrinks.seconds.trans h.seconds
  · rw [same]
    by_cases own : k = key
    · rw [step.filed] at found object
      simp only [filed, own, get?_set_self, Option.some.injEq] at found
      simp only [epochOf, filed, ← found, get?_set_self, map_some, step.pinned,
        Option.some.injEq] at object
      rw [own, observed, object]
    · rw [step.filed] at found
      have before := step.shrinks.links k ref (by simpa only [filed, get?_set_ne _ _ own] using found)
      exact h.live k ref e' before ((step.epochOf_held custody (.live k) before).symm.trans object)
  · rw [step.filed] at found
    have before := step.shrinks.draining k entry found
    obtain ⟨T, left, cut⟩ := h.draining k entry e' before ((step.epochOf_held custody
      (.draining k) (congrArg (Option.map Prod.fst) before)).symm.trans object)
    exact ⟨T, left.concat (by rw [same]; exact left.later), cut⟩

lemma Window.observes {epoch now}
    (step : Observes g epoch now (hist ops) (hist (ops ++ [.observeEpoch g epoch now]))) :
    Window hist drainSeconds (ops ++ [.observeEpoch g epoch now])
      (hist (ops ++ [.observeEpoch g epoch now])) := by
  have same (ref : ℕ) : (hist (ops ++ [.observeEpoch g epoch now])).epochOf ref =
      (hist ops).epochOf ref := by
    rw [epochOf, step.objects, epochOf]
  -- the observed epochs only grow
  have grows {k : String} {e : ℤ} (later : ∃ c, (hist ops).groupEpochs.get? k = some c ∧ e < c) :
      ∃ c, (hist (ops ++ [.observeEpoch g epoch now])).groupEpochs.get? k = some c ∧ e < c := by
    obtain ⟨c, known, less⟩ := later
    rw [step.observed, get?_set]
    split_ifs with own
    · exact ⟨epoch, rfl, less.trans (step.newer c (own ▸ known))⟩
    · exact ⟨c, known, less⟩
  refine ⟨step.seconds.trans h.seconds, fun key ref e found object => ?_, fun key entry e found object => ?_⟩
  · rw [same] at object
    obtain ⟨before, kept⟩ := step.links key ref found
    have known := h.live key ref e before object
    obtain ⟨link, there, rfl⟩ := map_eq_some_iff.mp object
    rw [step.observed, get?_set]
    split_ifs with own
    · exact absurd (step.newer _ (own ▸ known)) (kept own link there).not_gt
    · exact known
  · rw [same] at object
    rcases step.draining key entry found with before | ⟨own, before, cut⟩
    · obtain ⟨T, left, cut⟩ := h.draining key entry e before object
      exact ⟨T, left.concat (grows left.later), cut⟩
    · have known := h.live key entry.1 e before object
      refine ⟨now, ⟨ops, epoch, [], by rw [own], known, fun ls before => ?_⟩, cut.trans (by rw [h.seconds])⟩
      rw [List.prefix_nil.mp before, own, step.observed, get?_set_self]
      exact ⟨epoch, rfl, step.newer e (own ▸ known)⟩

end

lemma run_concat (ops op) : run S lower drainSeconds kexTimeout (ops ++ [op]) =
    (run S lower drainSeconds kexTimeout ops).exec S lower op := by
  rw [run, List.foldl_concat, run]

lemma window_run (pinned : Along (exec S lower) AtObserved (start drainSeconds kexTimeout) ops) :
    Window (run S lower drainSeconds kexTimeout) drainSeconds ops
      (run S lower drainSeconds kexTimeout ops) := by
  induction ops using List.reverseRecOn with
  | nil =>
    refine ⟨rfl, fun _ _ _ found => ?_, fun _ _ _ found => ?_⟩
    · cases found
    · cases found
  | append_singleton ops op ih =>
    obtain ⟨before, now⟩ := (along_append ops [op]).mp pinned
    have h := ih before
    have custody := custody_run S lower drainSeconds kexTimeout ops
    have step := exec_cases S lower (run S lower drainSeconds kexTimeout ops) op
    rw [← run_concat] at step
    rcases step with ⟨-, gone, forgets⟩ | ⟨key, epoch, m₁, link, paired, pairing⟩ |
      ⟨-, groupId, epoch, time, rfl, observes⟩
    · exact h.forgets forgets
    · exact h.pairing custody (observed_of_pairs now.1 paired) pairing
    · exact h.observes observes

/-- A link that accepts frames of an epoch is pinned to it; the epoch is the observed one or the one
before, and then the window opened by the observation that left it is not over yet. -/
theorem accepting_link_window (S : SessionPrimitives) (lower : String → String)
    (drainSeconds kexTimeout : ℚ) (ops : List Op) (groupId sender : String) (e c : ℤ) (now : ℚ)
    (ref : ℕ) (pinned : Along (exec S lower) AtObserved (start drainSeconds kexTimeout) ops)
    (observed : (run S lower drainSeconds kexTimeout ops).groupEpochs.get? groupId = some c)
    (accepted : (run S lower drainSeconds kexTimeout ops).acceptingLink groupId e sender now =
      some ref) :
    (run S lower drainSeconds kexTimeout ops).epochOf ref = some e ∧ (e = c ∨ e = c - 1) ∧
      (e = c - 1 → ∃ T, LeftAt (run S lower drainSeconds kexTimeout) ops groupId e T ∧
        now < T + drainSeconds) := by
  have window := window_run pinned
  generalize run S lower drainSeconds kexTimeout ops = m at *
  unfold acceptingLink at accepted
  rw [observed, any_some] at accepted
  split_ifs at accepted with far
  have near : e = c ∨ e = c - 1 := by
    simp only [gt_iff_lt, Bool.decide_or, Bool.or_eq_true, decide_eq_true_eq, not_or, not_lt] at far
    omega
  have of_pinned {ref : ℕ} (h : (m.objects.get? ref).any (fun link => link.epoch = e)) :
      m.epochOf ref = some e := by
    obtain ⟨link, object, same⟩ := (any_eq_true _ _).mp h
    exact map_eq_some_iff.mpr ⟨link, object, of_decide_eq_true same⟩
  dsimp only at accepted
  split at accepted
  next found =>
    cases accepted
    obtain ⟨live, mine⟩ := filter_eq_some_iff.mp found
    refine ⟨of_pinned mine, near, fun before => ?_⟩
    have known := window.live _ ref e live (of_pinned mine)
    rw [observed, Option.some.injEq] at known
    omega
  next =>
    obtain ⟨entry, found, rfl⟩ := map_eq_some_iff.mp accepted
    obtain ⟨waits, mine⟩ := filter_eq_some_iff.mp found
    rw [Bool.and_eq_true, decide_eq_true_eq] at mine
    obtain ⟨T, left, cut⟩ := window.draining _ entry e waits (of_pinned mine.1)
    exact ⟨of_pinned mine.1, near, fun _ => ⟨T, left, cut ▸ mine.2⟩⟩

/-- One second after the epoch of its link was left, a frame of that epoch is still accepted. -/
theorem accepted_while_draining :
    let ops := [.observeEpoch "g" 1 0, greeted 1 "0", .observeEpoch "g" 2 10]
    ∃ T, LeftAt (run openSession id 30 20) ops "g" 1 T ∧ 11 < T + 30 :=
  (accepting_link_window openSession id 30 20 _ "g" "0" 1 2 11 0 (by decide +kernel)
    (by decide +kernel) (by decide +kernel)).2.2 rfl

end Ghostlink.Groups.GroupMeshManager
