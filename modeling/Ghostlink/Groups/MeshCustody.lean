import Ghostlink.Groups.Mesh

/-! Who holds the key of a link. Every operation of the manager is made of a few moves: a link is
dropped with its key overwritten, a live link starts to drain, a new link takes a place that was
cleared before. Each move keeps the two maps apart and leaves no key behind. -/

namespace Ghostlink.Groups.GroupMeshManager
open Collections Messaging List Dict

variable {m : GroupMeshManager} {key : PeerKey} {ref : ℕ}

inductive Holder
  | live (key : PeerKey)
  | draining (key : PeerKey)
  deriving DecidableEq

def heldBy (m : GroupMeshManager) : Holder → Option ℕ
  | .live key => m.links.get? key
  | .draining key => (m.draining.get? key).map Prod.fst

structure Custody (m : GroupMeshManager) : Prop where
  apart : ∀ key ref, m.links.get? key = some ref → m.draining.get? key = none
  filed : ∀ holder ref, m.heldBy holder = some ref → ∃ link, m.objects.get? ref = some link ∧
    (holder = .live link.place ∨ holder = .draining link.place)
  guarded : ∀ ref link, m.objects.get? ref = some link → link.key ≠ zeroKey →
    m.heldBy (.live link.place) = some ref ∨ m.heldBy (.draining link.place) = some ref
  allocated : ∀ ref, m.next ≤ ref → m.objects.get? ref = none

lemma custody_start (drainSeconds kexTimeout) : Custody (start drainSeconds kexTimeout) where
  apart := nofun
  filed := by rintro (key | key) ref held <;> exact nomatch held
  guarded := nofun
  allocated := fun _ _ => rfl

variable {m' : GroupMeshManager}

lemma Custody.of_eq (h : Custody m) (links : m'.links = m.links)
    (draining : m'.draining = m.draining) (objects : m'.objects = m.objects)
    (next : m'.next = m.next) : Custody m' := by
  have held : ∀ holder, m'.heldBy holder = m.heldBy holder := by
    rintro (key | key)
    · exact congrArg (Dict.get? · key) links
    · exact congrArg (fun d => (Dict.get? d key).map Prod.fst) draining
  refine ⟨?_, ?_, ?_, ?_⟩
  · rw [links, draining]
    exact h.apart
  · intro holder ref
    rw [held, objects]
    exact h.filed holder ref
  · intro ref link
    rw [held, held, objects]
    exact h.guarded ref link
  · rw [next, objects]
    exact h.allocated

lemma Custody.holder_unique (h : Custody m) {p q} (hp : m.heldBy p = some ref)
    (hq : m.heldBy q = some ref) : p = q := by
  obtain ⟨link, found, atP⟩ := h.filed p ref hp
  obtain ⟨link', found', atQ⟩ := h.filed q ref hq
  obtain rfl : link' = link := Option.some.inj (found'.symm.trans found)
  have clash : m.heldBy (.live link'.place) = some ref →
      m.heldBy (.draining link'.place) = some ref → False := by
    intro live draining
    rw [heldBy, h.apart _ _ live] at draining
    exact nomatch draining
  rcases atP with rfl | rfl <;> rcases atQ with rfl | rfl
  · rfl
  · exact (clash hp hq).elim
  · exact (clash hq hp).elim
  · rfl

lemma zeroize_objects (found : ∃ link, m.objects.get? ref = some link) (ref') :
    (m.zeroize ref).objects.get? ref' =
      if ref' = ref then (m.objects.get? ref).map PairwiseLink.zeroize
      else m.objects.get? ref' := by
  obtain ⟨link, found⟩ := found
  rw [zeroize, found]
  exact get?_set ..

section
variable (m)

lemma zeroize_links (ref) : (m.zeroize ref).links = m.links := by
  unfold zeroize
  split <;> rfl

lemma zeroize_draining (ref) : (m.zeroize ref).draining = m.draining := by
  unfold zeroize
  split <;> rfl

lemma zeroize_next (ref) : (m.zeroize ref).next = m.next := by
  unfold zeroize
  split <;> rfl

end

lemma Custody.release (h : Custody m) {gone} (held : m.heldBy gone = some ref)
    (objects : m'.objects = (m.zeroize ref).objects)
    (next : m'.next = m.next) (fewer : ∀ holder, m'.heldBy holder =
      if holder = gone then none else m.heldBy holder)
    (apart : ∀ key ref, m'.links.get? key = some ref → m'.draining.get? key = none) :
    Custody m' := by
  obtain ⟨link, found, -⟩ := h.filed gone ref held
  have object : ∀ ref', m'.objects.get? ref' =
      if ref' = ref then some link.zeroize else m.objects.get? ref' := by
    intro ref'
    simp [objects, zeroize_objects ⟨link, found⟩, found]
  refine ⟨apart, ?_, ?_, ?_⟩
  · intro holder ref' held'
    rw [fewer] at held'
    split_ifs at held' with other
    -- another entry holds another link
    have differ : ref' ≠ ref := by
      rintro rfl
      exact other (h.holder_unique held' held)
    rw [object, if_neg differ]
    exact h.filed holder ref' held'
  · intro ref' link' found' secret
    rw [object] at found'
    split_ifs at found' with same
    · cases found'
      exact absurd rfl secret
    · have differ : ∀ holder, m.heldBy holder = some ref' → m'.heldBy holder = some ref' := by
        intro holder held'
        rw [fewer, if_neg, held']
        rintro rfl
        exact same (Option.some.inj (held'.symm.trans held))
      exact (h.guarded ref' link' found' secret).imp (differ _) (differ _)
  · intro ref' fresh
    rw [object, if_neg]
    · exact h.allocated ref' (next ▸ fresh)
    · rintro rfl
      rw [h.allocated ref' (next ▸ fresh)] at found
      exact nomatch found

lemma Custody.dropLive (h : Custody m) (key) :
    Custody (m.dropLive key).1 ∧ (m.dropLive key).1.links.get? key = none := by
  unfold GroupMeshManager.dropLive
  cases found : m.links.get? key with
  | none => exact ⟨h, found⟩
  | some ref =>
    have held : m.heldBy (.live key) = some ref := found
    refine ⟨h.release held rfl (zeroize_next m ref) ?_ ?_, get?_erase_self _ _⟩
    · rintro (key' | key')
      · show (m.links.erase key).get? key' = _
        rw [get?_erase]
        simp [Holder.live.injEq, heldBy]
      · rw [if_neg nofun, heldBy, heldBy, zeroize_draining]
    · intro key' ref' inside
      rw [zeroize_draining]
      exact h.apart key' ref' (get?_of_erase inside)

lemma Custody.dropDraining (h : Custody m) (key) :
    Custody (m.dropDraining key).1 ∧ (m.dropDraining key).1.draining.get? key = none ∧
      (m.dropDraining key).1.links = m.links := by
  unfold GroupMeshManager.dropDraining
  cases found : m.draining.get? key with
  | none => exact ⟨h, found, rfl⟩
  | some entry =>
    have held : m.heldBy (.draining key) = some entry.1 := congrArg (Option.map Prod.fst) found
    refine ⟨h.release held rfl (zeroize_next m entry.1) ?_ ?_, get?_erase_self _ _,
      zeroize_links m entry.1⟩
    · rintro (key' | key')
      · rw [if_neg nofun, heldBy, heldBy, zeroize_links]
      · show ((m.draining.erase key).get? key').map Prod.fst = _
        rw [get?_erase]
        simp only [Holder.draining.injEq, heldBy]
        split_ifs <;> rfl
    · intro key' ref' inside
      rw [zeroize_links] at inside
      rw [get?_erase, h.apart key' ref' inside, ite_self]

lemma Custody.drain (h : Custody m) (live : m.links.get? key = some ref) (deadline : ℚ) :
    Custody { m with draining := m.draining.set key (ref, deadline), links := m.links.erase key } := by
  set m' : GroupMeshManager :=
    { m with draining := m.draining.set key (ref, deadline), links := m.links.erase key } with hm'
  obtain ⟨link, found, place⟩ := h.filed (.live key) ref live
  obtain rfl : key = link.place := by
    rcases place with place | place
    · exact Holder.live.inj place
    · exact nomatch place
  have liveNow : ∀ key', m'.heldBy (.live key') =
      if key' = link.place then none else m.heldBy (.live key') :=
    fun key' => get?_erase ..
  have drainNow : ∀ key', m'.heldBy (.draining key') =
      if key' = link.place then some ref else m.heldBy (.draining key') := by
    intro key'
    show ((m.draining.set _ (ref, deadline)).get? key').map Prod.fst = _
    rw [get?_set]
    split_ifs <;> rfl
  refine ⟨?_, ?_, ?_, h.allocated⟩
  · intro key' ref' inside
    have inside' : m'.heldBy (.live key') = some ref' := inside
    rw [liveNow] at inside'
    split_ifs at inside' with other
    rw [get?_set, if_neg other]
    exact h.apart key' ref' inside'
  · rintro (key' | key') ref' held
    · rw [liveNow] at held
      split_ifs at held
      exact h.filed _ ref' held
    · rw [drainNow] at held
      split_ifs at held with here
      · cases held
        exact ⟨link, found, .inr (by rw [here])⟩
      · exact h.filed _ ref' held
  · intro ref' link' found' secret
    rw [liveNow, drainNow]
    by_cases here : link'.place = link.place
    · rw [if_pos here, if_pos here]
      rcases h.guarded ref' link' found' secret with old | old
      · rw [here] at old
        exact .inr (live.symm.trans old)
      · rw [here, heldBy, h.apart _ _ live] at old
        exact nomatch old
    · rw [if_neg here, if_neg here]
      exact h.guarded ref' link' found' secret

def filed (m : GroupMeshManager) (key : PeerKey) (link : PairwiseLink) : GroupMeshManager :=
  { m with objects := m.objects.set m.next link, links := m.links.set key m.next,
           next := m.next + 1 }

lemma Custody.filed_of_cleared (cleared : Custody m) (noLive : m.links.get? key = none)
    (noDrain : m.draining.get? key = none) {link : PairwiseLink} (place : link.place = key) :
    Custody (m.filed key link) := by
  have object : ∀ ref, (m.filed key link).objects.get? ref =
      if ref = m.next then some link else m.objects.get? ref := fun ref => get?_set ..
  have liveNow : ∀ key', (m.filed key link).links.get? key' =
      if key' = key then some m.next else m.links.get? key' := fun key' => get?_set ..
  refine ⟨?_, ?_, ?_, ?_⟩
  · intro key' ref' inside
    rw [liveNow] at inside
    split_ifs at inside with here
    · rwa [here]
    · exact cleared.apart key' ref' inside
  · have old : ∀ holder ref', m.heldBy holder = some ref' → ∃ link',
        (m.filed key link).objects.get? ref' = some link' ∧
          (holder = .live link'.place ∨ holder = .draining link'.place) := by
      intro holder ref' held
      obtain ⟨link', found', filed⟩ := cleared.filed holder ref' held
      refine ⟨link', ?_, filed⟩
      rw [object, if_neg, found']
      rintro rfl
      rw [cleared.allocated _ le_rfl] at found'
      exact nomatch found'
    rintro (key' | key') ref' held
    · have held' : (m.filed key link).links.get? key' = some ref' := held
      rw [liveNow] at held'
      split_ifs at held' with here
      · cases held'
        refine ⟨link, ?_, .inl (by rw [place, here])⟩
        rw [object, if_pos rfl]
      · exact old (.live key') ref' held'
    · exact old (.draining key') ref' held
  · intro ref' link' found' secret
    rw [object] at found'
    split_ifs at found' with new
    · cases found'
      refine .inl ?_
      show (m.filed key link).links.get? _ = _
      rw [liveNow, place, if_pos rfl, new]
    · refine (cleared.guarded ref' link' found' secret).imp_left fun held => ?_
      show (m.filed key link).links.get? _ = _
      rw [liveNow, if_neg]
      · exact held
      · intro here
        rw [heldBy, here, noLive] at held
        exact nomatch held
  · intro ref' fresh
    have past : m.next + 1 ≤ ref' := fresh
    rw [object, if_neg (by omega)]
    exact cleared.allocated ref' (by omega)

lemma Custody.observeEpoch (h : Custody m) (groupId epoch now) :
    Custody (m.observeEpoch groupId epoch now).1 := by
  have run : ∀ (deadline : ℚ) (entries : List (PeerKey × ℕ)) (m : GroupMeshManager),
      (entries.map Prod.fst).Nodup → (∀ e ∈ entries, m.links.get? e.1 = some e.2) → Custody m →
      Custody (entries.foldl (drainOlder groupId epoch deadline) m) := by
    intro deadline entries
    induction entries with
    | nil => exact fun _ _ _ h => h
    | cons e entries ih =>
      intro m distinct live h
      rw [map_cons, nodup_cons] at distinct
      rw [foldl_cons, drainOlder]
      split_ifs
      · refine ih _ distinct.2 ?_ (h.drain (live e mem_cons_self) deadline)
        intro e' later
        have other : e'.1 ≠ e.1 := by
          intro same
          exact distinct.1 (same ▸ mem_map_of_mem later)
        exact (get?_erase_ne _ other).trans (live e' (mem_cons_of_mem e later))
      · exact ih m distinct.2 (fun e' later => live e' (mem_cons_of_mem e later)) h
  unfold GroupMeshManager.observeEpoch
  split_ifs
  · exact h
  · have noted : Custody { m with groupEpochs := m.groupEpochs.set groupId epoch } :=
      h.of_eq rfl rfl rfl rfl
    refine (run (now + m.drainSeconds) m.links.entries _ m.links.nodup ?_ noted).of_eq
      rfl rfl rfl rfl
    exact fun e listed => (get?_eq_some_iff _ _ _).mpr listed

end Ghostlink.Groups.GroupMeshManager
