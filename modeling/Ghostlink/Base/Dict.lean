import Mathlib.Data.List.Nodup
import Mathlib.Data.List.Perm.Basic
import Mathlib.Tactic.Linarith

/-! Finite maps that remember insertion order: writing a present key keeps its
position, writing a new key appends. Every operation is characterised by the
entries it leaves, and lookups follow from that characterisation. -/

namespace Collections

universe u v

structure Dict (κ : Type u) (ν : Type v) where
  entries : List (κ × ν)
  nodup : (entries.map Prod.fst).Nodup

namespace Dict
variable {κ : Type u} {ν : Type v}

def empty : Dict κ ν := ⟨[], List.nodup_nil⟩

def keys (d : Dict κ ν) : List κ := d.entries.map Prod.fst

def values (d : Dict κ ν) : List ν := d.entries.map Prod.snd

def size (d : Dict κ ν) : ℕ := d.entries.length

def filter (d : Dict κ ν) (p : κ → ν → Bool) : Dict κ ν where
  entries := d.entries.filter fun e => p e.1 e.2
  nodup := d.nodup.sublist (List.filter_sublist.map Prod.fst)

def mapVals {ω : Type*} (d : Dict κ ν) (f : κ → ν → ω) : Dict κ ω where
  entries := d.entries.map fun e => (e.1, f e.1 e.2)
  nodup := by simpa only [List.map_map, Function.comp_def] using d.nodup

lemma mem_filter (d : Dict κ ν) (p) (k : κ) (x : ν) :
    (k, x) ∈ (d.filter p).entries ↔ (k, x) ∈ d.entries ∧ p k x := by
  simp [filter]

variable {k : κ} {d : Dict κ ν}

variable {x y : ν} {limit : ℕ} {k' : κ} {p : κ → ν → Bool}

lemma value_unique (d : Dict κ ν) (hx : (k, x) ∈ d.entries) (hy : (k, y) ∈ d.entries) : x = y := by
  have h := List.inj_on_of_nodup_map d.nodup hx hy rfl
  exact congrArg Prod.snd h

lemma size_filter_le (d : Dict κ ν) (p) : (d.filter p).size ≤ d.size :=
  List.length_filter_le _ _

lemma foldl_sublist {ι : Type*} (step)
    (h : ∀ d i, (step d i).entries.Sublist d.entries) (is : List ι) (d : Dict κ ν) :
    (is.foldl step d).entries.Sublist d.entries := by
  induction is generalizing d with
  | nil => exact List.Sublist.refl _
  | cons i is ih => exact (ih (step d i)).trans (h d i)

def dropOldest (d : Dict κ ν) (limit : ℕ) : Dict κ ν where
  entries := d.entries.drop (d.size - limit)
  nodup := d.nodup.sublist ((List.drop_sublist _ _).map Prod.fst)

lemma mem_of_mem_dropOldest {e : κ × ν}
    (h : e ∈ (d.dropOldest limit).entries) : e ∈ d.entries := List.mem_of_mem_drop h

lemma size_dropOldest_le (d : Dict κ ν) (limit) : (d.dropOldest limit).size ≤ limit := by
  have len : (d.dropOldest limit).size = d.size - (d.size - limit) := List.length_drop
  omega

variable [DecidableEq κ]

def get? (d : Dict κ ν) (k : κ) : Option ν := (d.entries.find? fun e => e.1 = k).map Prod.snd

def contains (d : Dict κ ν) (k : κ) : Bool := (d.get? k).isSome

def erase (d : Dict κ ν) (k : κ) : Dict κ ν := d.filter fun k' _ => k' ≠ k

private lemma overwrite_keys (es : List (κ × ν)) (k : κ) (x : ν) :
    (es.map fun e => if e.1 = k then (k, x) else e).map Prod.fst = es.map Prod.fst := by
  rw [List.map_map]
  apply List.map_congr_left
  intro e _
  by_cases h : e.1 = k <;> simp [h]

def set (d : Dict κ ν) (k : κ) (x : ν) : Dict κ ν :=
  if h : k ∈ d.entries.map Prod.fst then
    ⟨d.entries.map fun e => if e.1 = k then (k, x) else e, by
      rw [overwrite_keys]
      exact d.nodup⟩
  else
    ⟨d.entries ++ [(k, x)], by
      rw [List.map_append]
      exact d.nodup.append (List.nodup_singleton k) (by simpa using h)⟩

def moveToEnd (d : Dict κ ν) (k : κ) : Dict κ ν :=
  match d.get? k with
  | none => d
  | some x => (d.erase k).set k x

section
variable (d)

lemma get?_eq_some_iff (k : κ) (x : ν) :
    d.get? k = some x ↔ (k, x) ∈ d.entries := by
  constructor
  · intro h
    obtain ⟨⟨k', x'⟩, hf, rfl⟩ := Option.map_eq_some_iff.mp h
    have hk : k' = k := by simpa using List.find?_some hf
    exact hk ▸ List.mem_of_find?_eq_some hf
  · intro h
    cases hf : d.entries.find? (fun e => e.1 = k) with
    | none => simpa using List.find?_eq_none.mp hf _ h
    | some e =>
      obtain ⟨k', y⟩ := e
      have hk : k' = k := by simpa using List.find?_some hf
      subst hk
      have hy := d.value_unique (List.mem_of_find?_eq_some hf) h
      simp [get?, hf, hy]

lemma get?_eq_none_iff (k : κ) : d.get? k = none ↔ k ∉ d.keys := by
  rw [Option.eq_none_iff_forall_ne_some]
  simp [get?_eq_some_iff, keys]

lemma mem_set (k : κ) (x : ν) (k' : κ) (y : ν) :
    (k', y) ∈ (d.set k x).entries ↔ if k' = k then y = x else (k', y) ∈ d.entries := by
  unfold set
  split
  · rename_i hk
    obtain ⟨⟨k₀, x₀⟩, hmem, rfl⟩ := List.mem_map.mp hk
    simp only [List.mem_map]
    constructor
    · rintro ⟨e, he, heq⟩
      split_ifs at heq with h
      · obtain ⟨rfl, rfl⟩ := Prod.mk.inj heq
        simp
      · subst heq
        simpa [h] using he
    · intro h
      split_ifs at h with hk'
      · exact ⟨(k₀, x₀), hmem, by simp [hk', h]⟩
      · exact ⟨(k', y), h, by simp [hk']⟩
  · rename_i hk
    simp only [List.mem_append, List.mem_singleton, Prod.mk.injEq]
    by_cases h : k' = k
    · subst h
      have : (k', y) ∉ d.entries := fun hm => hk (List.mem_map_of_mem hm)
      simp [this]
    · simp [h]

@[simp] lemma get?_empty (k : κ) : (empty : Dict κ ν).get? k = none := rfl

lemma get?_set (k : κ) (x : ν) (k' : κ) :
    (d.set k x).get? k' = if k' = k then some x else d.get? k' := by
  apply Option.ext
  intro y
  rw [get?_eq_some_iff, mem_set]
  split_ifs
  · rw [Option.some.injEq, eq_comm]
  · rw [get?_eq_some_iff]

@[simp] lemma get?_set_self (k : κ) (x : ν) : (d.set k x).get? k = some x := by
  rw [get?_set, if_pos rfl]

lemma get?_set_ne (x : ν) (h : k' ≠ k) :
    (d.set k x).get? k' = d.get? k' := by rw [get?_set, if_neg h]

end

lemma get?_of_set (h : (d.set k x).get? k' = some y) :
    k' = k ∧ y = x ∨ k' ≠ k ∧ d.get? k' = some y := by
  rw [get?_set] at h
  split_ifs at h with own
  · exact .inl ⟨own, (Option.some.inj h).symm⟩
  · exact .inr ⟨own, h⟩

lemma forall_of_set {P : κ → ν → Prop} (new : P k x) (old : ∀ k y, d.get? k = some y → P k y) :
    ∀ k' y, (d.set k x).get? k' = some y → P k' y := by
  intro k' y found
  rcases get?_of_set found with ⟨rfl, rfl⟩ | ⟨-, kept⟩
  · exact new
  · exact old k' y kept

lemma get?_filter (d : Dict κ ν) (p) (k : κ) (x : ν) :
    (d.filter p).get? k = some x ↔ d.get? k = some x ∧ p k x := by
  rw [get?_eq_some_iff, get?_eq_some_iff, mem_filter]

lemma get?_of_filter (h : (d.filter p).get? k = some x) : d.get? k = some x :=
  ((get?_filter d p k x).mp h).1

lemma get?_filter_of (d : Dict κ ν) (h : ∀ x, p k x) : (d.filter p).get? k = d.get? k := by
  refine Option.ext fun x => ?_
  rw [get?_filter]
  exact and_iff_left (h x)

lemma get?_erase (d : Dict κ ν) (k k' : κ) :
    (d.erase k).get? k' = if k' = k then none else d.get? k' := by
  apply Option.ext
  intro y
  rw [erase, get?_filter]
  split_ifs with h <;> simp [h]

lemma get?_of_erase (h : (d.erase k').get? k = some x) : d.get? k = some x :=
  get?_of_filter h

section
variable (d)

@[simp] lemma get?_erase_self (k : κ) : (d.erase k).get? k = none := by
  rw [get?_erase, if_pos rfl]

lemma get?_erase_ne (h : k' ≠ k) :
    (d.erase k).get? k' = d.get? k' := by rw [get?_erase, if_neg h]

lemma contains_set (k : κ) (x : ν) (k' : κ) :
    (d.set k x).contains k' ↔ k' = k ∨ d.contains k' := by
  rw [contains, get?_set, contains]
  split_ifs with h <;> simp [h]

lemma contains_erase (k k' : κ) :
    (d.erase k).contains k' ↔ k' ≠ k ∧ d.contains k' := by
  rw [contains, get?_erase, contains]
  split_ifs with h <;> simp [h]

lemma get?_mapVals {ω : Type*} (f : κ → ν → ω) (k : κ) :
    (d.mapVals f).get? k = (d.get? k).map (f k) := by
  apply Option.ext
  intro y
  rw [get?_eq_some_iff, Option.map_eq_some_iff]
  simp only [mapVals, List.mem_map, Prod.mk.injEq, Prod.exists, get?_eq_some_iff]
  constructor
  · rintro ⟨a, b, hab, rfl, rfl⟩
    exact ⟨b, hab, rfl⟩
  · rintro ⟨b, hb, rfl⟩
    exact ⟨k, b, hb, rfl, rfl⟩

lemma mem_values (x : ν) : x ∈ d.values ↔ ∃ k, d.get? k = some x := by
  simp [values, get?_eq_some_iff]

lemma size_set_of_some (x : ν) (h : d.get? k = some y) :
    (d.set k x).size = d.size := by
  have hk : k ∈ d.entries.map Prod.fst := List.mem_map_of_mem ((get?_eq_some_iff d k y).mp h)
  simp [set, hk, size]

lemma size_set_of_none (x : ν) (h : d.get? k = none) :
    (d.set k x).size = d.size + 1 := by
  have hk : k ∉ d.entries.map Prod.fst := (get?_eq_none_iff d k).mp h
  simp [set, hk, size]

lemma size_set_le (k : κ) (x : ν) : (d.set k x).size ≤ d.size + 1 := by
  cases h : d.get? k with
  | none => rw [size_set_of_none d x h]
  | some => rw [size_set_of_some d x h]; exact Nat.le_succ _

lemma size_erase_le (k : κ) : (d.erase k).size ≤ d.size := size_filter_le d _

lemma size_erase_of_some (h : d.get? k = some x) :
    (d.erase k).size + 1 ≤ d.size := by
  have hm : (k, x) ∈ d.entries := (get?_eq_some_iff d k x).mp h
  refine List.length_filter_lt_length_iff_exists.mpr ⟨(k, x), hm, by simp⟩

lemma mem_moveToEnd (k : κ) (e : κ × ν) :
    e ∈ (d.moveToEnd k).entries ↔ e ∈ d.entries := by
  obtain ⟨k', y⟩ := e
  unfold moveToEnd
  cases h : d.get? k with
  | none => rfl
  | some x =>
    rw [mem_set]
    split_ifs with hk
    · subst hk
      have present := (get?_eq_some_iff d k' x).mp h
      exact ⟨fun hy => hy ▸ present, fun hy => d.value_unique hy present⟩
    · rw [erase, mem_filter]
      simp [hk]

end

lemma get?_dropOldest_moveToEnd_set
    (h : (((d.set k x).moveToEnd k).dropOldest limit).get? k' = some y) :
    k' = k ∧ y = x ∨ k' ≠ k ∧ d.get? k' = some y := by
  have mem := mem_of_mem_dropOldest ((get?_eq_some_iff _ _ _).mp h)
  rw [mem_moveToEnd, mem_set] at mem
  split_ifs at mem with same
  · exact .inl ⟨same, mem⟩
  · exact .inr ⟨same, (get?_eq_some_iff _ _ _).mpr mem⟩

lemma get?_dropOldest_moveToEnd_set_self (d : Dict κ ν) (k : κ) (x : ν)
    (room : 1 ≤ limit) : (((d.set k x).moveToEnd k).dropOldest limit).get? k = some x := by
  have erased : k ∉ ((d.set k x).erase k).entries.map Prod.fst :=
    (get?_eq_none_iff _ k).mp (get?_erase_self _ k)
  have moved : ((d.set k x).moveToEnd k).entries = ((d.set k x).erase k).entries ++ [(k, x)] := by
    unfold moveToEnd
    rw [get?_set_self]
    dsimp only
    rw [set, dif_neg erased]
  rw [get?_eq_some_iff]
  show (k, x) ∈ ((d.set k x).moveToEnd k).entries.drop _
  rw [moved, List.drop_append_of_le_length]
  · exact List.mem_append_right _ List.mem_cons_self
  · rw [size, moved, List.length_append, List.length_singleton]
    omega

lemma size_moveToEnd_le (d : Dict κ ν) (k : κ) : (d.moveToEnd k).size ≤ d.size := by
  unfold moveToEnd
  cases h : d.get? k with
  | none => exact Nat.le_refl _
  | some x =>
    have erased : (d.erase k).size + 1 ≤ d.size := size_erase_of_some d h
    have appended : ((d.erase k).set k x).size ≤ (d.erase k).size + 1 := size_set_le _ k x
    exact appended.trans erased

end Dict
end Collections
