import Ghostlink.Base.Dict

/-! Maps that lose nothing, and how many of their keys are of a kind. -/

namespace Collections.Dict

universe u v
variable {κ : Type u} {ν : Type v} [DecidableEq κ]

variable (d : Dict κ ν)

lemma filter_eq_self_iff (p) :
    d.filter p = d ↔ ∀ k x, d.get? k = some x → p k x := by
  have same : d.filter p = d ↔ (d.filter p).entries = d.entries := by
    refine ⟨congrArg entries, fun h => ?_⟩
    cases d
    simpa only [filter, mk.injEq] using h
  rw [same]
  simp [filter, get?_eq_some_iff]

lemma erase_eq_self_iff (k : κ) : d.erase k = d ↔ d.get? k = none := by
  rw [erase, filter_eq_self_iff, Option.eq_none_iff_forall_ne_some]
  refine ⟨fun h x found => ?_, fun h k' x found => ?_⟩
  · simpa using h k x found
  · refine decide_eq_true fun same => h x ?_
    rwa [← same]

lemma mem_keys_erase (k k' : κ) : k' ∈ (d.erase k).keys ↔ k' ∈ d.keys ∧ k' ≠ k := by
  rw [← not_iff_not, ← get?_eq_none_iff, get?_erase]
  by_cases own : k' = k <;> simp [own, get?_eq_none_iff]

lemma keys_set_of_none {d : Dict κ ν} {k : κ} (x : ν) (h : d.get? k = none) :
    (d.set k x).keys = d.keys ++ [k] := by
  have absent : k ∉ d.entries.map Prod.fst := (get?_eq_none_iff d k).mp h
  simp [keys, set, absent]

omit [DecidableEq κ] in
lemma length_keys : d.keys.length = d.size := List.length_map ..

omit [DecidableEq κ] in
lemma keys_dropOldest (limit) :
    (d.dropOldest limit).keys = d.keys.drop (d.size - limit) := List.map_drop ..

lemma contains_iff_mem_keys {d : Dict κ ν} {k : κ} : d.contains k ↔ k ∈ d.keys := by
  rw [contains, Option.isSome_iff_ne_none, ne_eq, get?_eq_none_iff, not_not]

lemma count_keys_le {d d' : Dict κ ν} (p) (sub : ∀ k, d'.contains k → d.contains k) :
    (d'.keys.filter p).length ≤ (d.keys.filter p).length := by
  refine (List.subperm_of_subset (d'.nodup.filter p) fun k mem => ?_).length_le
  obtain ⟨there, counted⟩ := List.mem_filter.mp mem
  exact List.mem_filter.mpr
    ⟨contains_iff_mem_keys.mp (sub k (contains_iff_mem_keys.mpr there)), counted⟩

end Collections.Dict
