import Mathlib.Data.List.Basic
import Mathlib.Tactic.Linarith

/-! A text cut into blocks of one length, and a file to which the blocks are written at their
places in any order. A write past the end of the file fills the gap. -/

namespace Blocks
open List Nat
variable {α : Type*}

def writeAt (blank : α) (file : List α) (offset : ℕ) (data : List α) : List α :=
  if data.isEmpty then file
  else (file ++ List.replicate (offset - file.length) blank).take offset ++ data ++
    file.drop (offset + data.length)

def block (c : ℕ) (text : List α) (k : ℕ) : List α := (text.drop (k * c)).take c

def blockCount (size c : ℕ) : ℕ := (size + c - 1) / c

lemma lt_blockCount_iff {size c k} (pos : 1 ≤ c) : k < blockCount size c ↔ k * c < size := by
  have shift : (k + 1) * c = k * c + c := succ_mul k c
  rw [blockCount, ← succ_le_iff, le_div_iff_mul_le pos, succ_eq_add_one, shift]
  omega

lemma length_block (c) (text : List α) (k) :
    (block c text k).length = min c (text.length - k * c) := by
  rw [block, length_take, length_drop]

lemma getElem?_block {c k i : ℕ} (text : List α) (h : i < c) :
    (block c text k)[i]? = text[k * c + i]? := by
  rw [block, getElem?_take, if_pos h, getElem?_drop]

section Write
variable {blank : α} {file data : List α} {offset i : ℕ}

lemma length_writeAt (some_data : data ≠ []) :
    (writeAt blank file offset data).length = max file.length (offset + data.length) := by
  have full : data.isEmpty = false := isEmpty_eq_false_iff.mpr some_data
  rw [writeAt, full, if_neg Bool.false_ne_true]
  simp only [length_append, length_take, length_replicate, length_drop]
  omega

lemma length_writeAt_le :
    (writeAt blank file offset data).length ≤ max file.length (offset + data.length) := by
  by_cases some_data : data = []
  · rw [some_data]
    exact le_max_left _ _
  · exact (length_writeAt some_data).le

private lemma length_front :
    ((file ++ List.replicate (offset - file.length) blank).take offset).length = offset := by
  rw [length_take, length_append, length_replicate]
  omega

lemma getElem?_writeAt_before (inside : i < file.length) (before : i < offset) :
    (writeAt blank file offset data)[i]? = file[i]? := by
  unfold writeAt
  split
  · rfl
  · rw [append_assoc, getElem?_append_left (by rw [length_front]; exact before),
      getElem?_take, if_pos before, getElem?_append_left inside]

lemma getElem?_writeAt_within (h : i < data.length) :
    (writeAt blank file offset data)[offset + i]? = data[i]? := by
  have full : data.isEmpty = false :=
    isEmpty_eq_false_iff.mpr (ne_nil_of_length_pos (zero_lt_of_lt h))
  rw [writeAt, full, if_neg Bool.false_ne_true, append_assoc,
    getElem?_append_right (by rw [length_front]; exact Nat.le_add_right ..), length_front,
    Nat.add_sub_cancel_left, getElem?_append_left h]

lemma getElem?_writeAt_after (after : offset + data.length ≤ i) :
    (writeAt blank file offset data)[i]? = file[i]? := by
  unfold writeAt
  split
  · rfl
  · have reach : ((file ++ List.replicate (offset - file.length) blank).take offset ++
        data).length = offset + data.length := by rw [length_append, length_front]
    rw [getElem?_append_right (by rw [reach]; exact after), reach, getElem?_drop,
      Nat.add_sub_cancel' after]

end Write

structure Carries (c : ℕ) (text file : List α) (written : ℕ → Prop) : Prop where
  short : file.length ≤ text.length
  agree : ∀ i < text.length, written (i / c) → file[i]? = text[i]?

namespace Carries
variable {c k : ℕ} {text file : List α} {written : ℕ → Prop} {blank : α}

lemma nil (c : ℕ) (text : List α) : Carries c text [] fun _ => False :=
  ⟨zero_le _, fun _ _ h => h.elim⟩

section
variable (h : Carries c text file written)
include h

lemma write (pos : 1 ≤ c) (inside : k * c < text.length) :
    Carries c text (writeAt blank file (k * c) (block c text k)) fun j => j = k ∨ written j := by
  have length := length_block c text k
  have some_data : block c text k ≠ [] := by
    apply ne_nil_of_length_pos
    omega
  refine ⟨?_, fun i hi covered => ?_⟩
  · rw [length_writeAt some_data]
    have short := h.short
    omega
  · -- a position lies in the block, or its own block was written before
    rcases eq_or_ne (i / c) k with rfl | other
    · have start : i / c * c + i % c = i := by
        rw [mul_comm]
        exact div_add_mod i c
      have small : i % c < c := mod_lt i pos
      have within : i % c < (block c text (i / c)).length := by omega
      calc (writeAt blank file (i / c * c) (block c text (i / c)))[i]?
          = (writeAt blank file (i / c * c) (block c text (i / c)))[i / c * c + i % c]? := by
            rw [start]
        _ = (block c text (i / c))[i % c]? := getElem?_writeAt_within within
        _ = text[i]? := by rw [getElem?_block text small, start]
    · have before := h.agree i hi (covered.resolve_left other)
      have reached : i < file.length := by
        rw [getElem?_eq_getElem hi] at before
        exact (List.getElem?_eq_some_iff.mp before).1
      rcases lt_or_gt_of_ne other with less | more
      · have low : i < k * c := (div_lt_iff_lt_mul pos).mp less
        rw [getElem?_writeAt_before reached low, before]
      · have high : (k + 1) * c ≤ i := (le_div_iff_mul_le pos).mp more
        rw [succ_mul] at high
        rw [getElem?_writeAt_after (by omega), before]

lemma eq_text (all : ∀ k, k * c < text.length → written k) :
    file = text := by
  apply ext_getElem?
  intro i
  rcases lt_or_ge i text.length with inside | outside
  · have start : i / c * c ≤ i := div_mul_le_self i c
    exact h.agree i inside (all _ (start.trans_lt inside))
  · rw [getElem?_eq_none outside, getElem?_eq_none (h.short.trans outside)]

lemma mono {written' : ℕ → Prop}
    (fewer : ∀ k, written' k → written k) : Carries c text file written' :=
  ⟨h.short, fun i hi covered => h.agree i hi (fewer _ covered)⟩

end

end Carries

end Blocks
