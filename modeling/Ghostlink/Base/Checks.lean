import Mathlib.Data.List.Basic
import Mathlib.Logic.Basic

/-! Reading a chain of checks backwards: when a computation in `Except` succeeds, each
of its checks passed. -/

namespace Checks
open List
universe u v
variable {ε : Type u} {α β : Type v}

variable {b : β} {x : Except ε α}

lemma bind_eq_ok {f} : (x >>= f) = .ok b ↔ ∃ a, x = .ok a ∧ f a = .ok b := by
  cases x with
  | error => exact ⟨nofun, nofun⟩
  | ok a => exact ⟨fun h => ⟨a, rfl, h⟩, fun ⟨_, h, hf⟩ => by cases h; exact hf⟩

variable {c : Prop} {e : ε}

lemma refuse_eq_ok [Decidable c] {k rest} :
    (if c then (throw e : Except ε α) >>= k else rest) = .ok b ↔ ¬ c ∧ rest = .ok b := by
  by_cases h : c
  · simp only [h, if_true, not_true_eq_false, false_and, iff_false]
    exact nofun
  · simp [h]

lemma throw_if_eq_ok [Decidable c] {b} :
    (if c then (throw e : Except ε Unit) else pure ()) = .ok b ↔ ¬ c := by
  by_cases h : c
  · simp only [h, if_true, not_true_eq_false, iff_false]
    exact nofun
  · simp only [h, if_false, not_false_eq_true, iff_true]
    rfl

lemma throw_else_eq_ok [Decidable c] {rest} :
    (if c then (throw e : Except ε β) else rest) = .ok b ↔ ¬ c ∧ rest = .ok b := by
  by_cases h : c
  · simp only [h, if_true, not_true_eq_false, false_and, iff_false]
    exact nofun
  · simp [h]

lemma else_throw_eq_ok [Decidable c] {rest} :
    (if c then rest else (throw e : Except ε β)) = .ok b ↔ c ∧ rest = .ok b := by
  rw [← ite_not, throw_else_eq_ok, not_not]

lemma pure_eq_ok {a b : α} : (pure a : Except ε α) = .ok b ↔ a = b :=
  ⟨fun h => by cases h; rfl, fun h => h ▸ rfl⟩

lemma throw_ne_ok {b : α} : (throw e : Except ε α) ≠ .ok b := nofun

lemma exists_of_any {p} (h : x.toOption.any p) :
    ∃ a, x = .ok a ∧ p a := by
  cases x with
  | error => cases h
  | ok a => exact ⟨a, rfl, h⟩

lemma exists_mapM {ι : Type*} {f : ι → Except ε α} {xs : List ι}
    (each : ∀ x ∈ xs, ∃ y, f x = .ok y) :
    ∃ ys, xs.mapM f = .ok ys ∧ (∀ y ∈ ys, ∃ x ∈ xs, f x = .ok y) ∧
      ∀ x ∈ xs, ∃ y ∈ ys, f x = .ok y := by
  induction xs with
  | nil =>
    refine ⟨[], ?_, fun _ mem => absurd mem not_mem_nil,
      fun _ mem => absurd mem not_mem_nil⟩
    rw [mapM_nil]
    rfl
  | cons x xs ih =>
    obtain ⟨y, first⟩ := each x mem_cons_self
    obtain ⟨ys, others, fromXs, toYs⟩ := ih fun x mem => each x (mem_cons_of_mem _ mem)
    refine ⟨y :: ys, ?_, ?_, ?_⟩
    · rw [mapM_cons, first]
      exact bind_eq_ok.mpr ⟨y, rfl, bind_eq_ok.mpr ⟨ys, others, rfl⟩⟩
    · intro z mem
      rcases mem_cons.mp mem with rfl | mem
      · exact ⟨x, mem_cons_self, first⟩
      · obtain ⟨w, memW, found⟩ := fromXs z mem
        exact ⟨w, mem_cons_of_mem _ memW, found⟩
    · intro w mem
      rcases mem_cons.mp mem with rfl | mem
      · exact ⟨y, mem_cons_self, first⟩
      · obtain ⟨z, memZ, found⟩ := toYs w mem
        exact ⟨z, mem_cons_of_mem _ memZ, found⟩

end Checks
