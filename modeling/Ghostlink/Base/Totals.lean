import Ghostlink.Base.Dict
import Mathlib.Algebra.BigOperators.Group.Finset.Basic
import Mathlib.Algebra.Order.BigOperators.Group.Finset

/-! Totals of a quantity over the entries of a map. Two totals, also of different maps, are
compared key by key. -/

namespace Collections.Dict
open Finset
variable {κ ν ω : Type*} [DecidableEq κ]

def total (d : Dict κ ν) (f : κ → ν → ℕ) : ℕ := (d.entries.map fun e => f e.1 e.2).sum

def share (d : Dict κ ν) (f : κ → ν → ℕ) (k : κ) : ℕ :=
  match d.get? k with
  | some x => f k x
  | none => 0

lemma share_of_some {d : Dict κ ν} {k : κ} {x : ν} (h : d.get? k = some x) (f) :
    d.share f k = f k x := by
  rw [share, h]

lemma share_of_none {d : Dict κ ν} {k : κ} (h : d.get? k = none) (f) :
    d.share f k = 0 := by
  rw [share, h]

lemma total_eq_sum (d : Dict κ ν) (f) :
    d.total f = ∑ k ∈ d.keys.toFinset, d.share f k := by
  have nodup : d.keys.Nodup := d.nodup
  rw [List.sum_toFinset _ nodup, total, keys, List.map_map]
  refine congrArg List.sum (List.map_congr_left fun e mem => ?_)
  exact (share_of_some ((d.get?_eq_some_iff e.1 e.2).mpr mem) f).symm

lemma sum_share_le_total (d : Dict κ ν) (f s) :
    ∑ k ∈ s, d.share f k ≤ d.total f := by
  rw [total_eq_sum]
  refine sum_le_sum_of_ne_zero fun k _ positive => ?_
  by_contra absent
  rw [List.mem_toFinset, ← get?_eq_none_iff] at absent
  exact positive (share_of_none absent f)

section
variable {d : Dict κ ν} {d' : Dict κ ω} {f : κ → ν → ℕ} {g : κ → ω → ℕ}

lemma total_le_total (h : ∀ k, d.share f k ≤ d'.share g k) : d.total f ≤ d'.total g := by
  rw [total_eq_sum]
  calc ∑ k ∈ d.keys.toFinset, d.share f k
      ≤ ∑ k ∈ d.keys.toFinset, d'.share g k := sum_le_sum fun k _ => h k
    _ ≤ d'.total g := sum_share_le_total d' g _

lemma total_le_add_share (k₀ : κ) (h : ∀ k, k ≠ k₀ → d.share f k ≤ d'.share g k) :
    d.total f ≤ d'.total g + d.share f k₀ := by
  rw [total_eq_sum]
  calc ∑ k ∈ d.keys.toFinset, d.share f k
      ≤ ∑ k ∈ insert k₀ (d.keys.toFinset.erase k₀), d.share f k :=
        sum_le_sum_of_subset (insert_erase_subset k₀ _)
    _ = d.share f k₀ + ∑ k ∈ d.keys.toFinset.erase k₀, d.share f k :=
        sum_insert (notMem_erase k₀ _)
    _ ≤ d.share f k₀ + ∑ k ∈ d.keys.toFinset.erase k₀, d'.share g k :=
        Nat.add_le_add_left (sum_le_sum fun k mem => h k (ne_of_mem_erase mem)) _
    _ ≤ d.share f k₀ + d'.total g := Nat.add_le_add_left (sum_share_le_total d' g _) _
    _ = d'.total g + d.share f k₀ := Nat.add_comm _ _

lemma total_lt_total (k₀ : κ) (h : ∀ k, d.share f k ≤ d'.share g k)
    (more : d.share f k₀ < d'.share g k₀) : d.total f < d'.total g := by
  rw [total_eq_sum]
  calc ∑ k ∈ d.keys.toFinset, d.share f k
      ≤ ∑ k ∈ insert k₀ d.keys.toFinset, d.share f k :=
        sum_le_sum_of_subset (subset_insert k₀ _)
    _ < ∑ k ∈ insert k₀ d.keys.toFinset, d'.share g k :=
        sum_lt_sum (fun k _ => h k) ⟨k₀, mem_insert_self k₀ _, more⟩
    _ ≤ d'.total g := sum_share_le_total d' g _

end

end Collections.Dict
