import Mathlib.Data.Finset.Card
import Mathlib.Data.List.Basic
import Mathlib.Tactic

/-! Sets of numbers kept one bit each in a list of bytes, lowest bit first. -/

namespace Bits
open List Option Finset Nat UInt8

def bit (bytes : List UInt8) (i : ℕ) : Bool :=
  (bytes.getD (i >>> 3) 0).toNat &&& 1 <<< (i &&& 7) != 0

def setBit (bytes : List UInt8) (i : ℕ) : List UInt8 :=
  bytes.modify (i >>> 3) fun b => ofNat (b.toNat ||| 1 <<< (i &&& 7))

def ones (bytes : List UInt8) : ℕ :=
  (bytes.map fun b => (toDigits 2 b.toNat).count '1').sum

def maskLast (bytes : List UInt8) (low : ℕ) : List UInt8 :=
  bytes.modify (bytes.length - 1) fun b => ofNat (b.toNat &&& (1 <<< low - 1))

def members (bytes : List UInt8) (total : ℕ) : Finset ℕ :=
  (Finset.range total).filter fun i => bit bytes i

variable (b : Fin 256) {i : ℕ}

private lemma and_shift (k : Fin 8) : (b.val &&& 1 <<< k.val != 0) = b.val.testBit k := by
  decide +revert +kernel

private lemma ofNat_or (k : Fin 8) :
    (ofNat (b.val ||| 1 <<< k.val)).toNat = b.val ||| 1 <<< k.val := by
  decide +revert +kernel

private lemma ofNat_and (k : Fin 9) :
    (ofNat (b.val &&& (1 <<< k.val - 1))).toNat = b.val % 2 ^ k.val := by
  decide +revert +kernel

private lemma count_digits :
    (toDigits 2 b.val).count '1' = ((Finset.range 8).filter fun k => b.val.testBit k).card := by
  decide +revert +kernel

lemma bit_eq_testBit (bytes : List UInt8) (i) :
    bit bytes i = (bytes.getD (i / 8) 0).toNat.testBit (i % 8) := by
  have high : i >>> 3 = i / 8 := shiftRight_eq_div_pow i 3
  have low : i &&& 7 = i % 8 := and_two_pow_sub_one_eq_mod i 3
  rw [bit, high, low]
  exact and_shift ⟨_, toNat_lt _⟩ ⟨i % 8, mod_lt i (by decide)⟩

lemma bit_replicate_zero (m i) : bit (List.replicate m 0) i = false := by
  have zero : (List.replicate m (0 : UInt8)).getD (i / 8) 0 = 0 := by
    rw [getD_eq_getElem?_getD, getElem?_replicate]
    split <;> rfl
  rw [bit_eq_testBit, zero]
  exact zero_testBit _

@[simp] lemma length_setBit (bytes : List UInt8) (i) :
    (setBit bytes i).length = bytes.length := length_modify ..

variable {bytes : List UInt8}

lemma bit_setBit (inside : i < 8 * bytes.length) (j) :
    bit (setBit bytes i) j = (decide (j = i) || bit bytes j) := by
  have high : i >>> 3 = i / 8 := shiftRight_eq_div_pow i 3
  have low : i &&& 7 = i % 8 := and_two_pow_sub_one_eq_mod i 3
  rw [bit_eq_testBit, bit_eq_testBit, setBit, high, low, getD_eq_getElem?_getD,
    getElem?_modify]
  rcases eq_or_ne (i / 8) (j / 8) with same | other
  · have reached : j / 8 < bytes.length := by omega
    have place : decide (j = i) = decide (i % 8 = j % 8) := by
      congr 1
      exact propext ⟨fun e => by rw [e], fun e => by omega⟩
    rw [getD_eq_getElem?_getD, getElem?_eq_getElem reached, place]
    simp only [same, if_true, Option.map_eq_map, Option.map_some, Option.getD_some]
    rw [ofNat_or ⟨_, toNat_lt _⟩ ⟨i % 8, mod_lt i (by decide)⟩, testBit_or,
      one_shiftLeft, testBit_two_pow, Bool.or_comm]
  · have away : decide (j = i) = false := decide_eq_false fun e => other (by rw [e])
    rw [away, Bool.false_or, getD_eq_getElem?_getD]
    simp [other]

lemma members_setBit {total} (inside : i < 8 * bytes.length)
    (below : i < total) : members (setBit bytes i) total = insert i (members bytes total) := by
  ext j
  rw [members, Finset.mem_filter, bit_setBit inside, Finset.mem_insert, members, Finset.mem_filter]
  simp only [Bool.or_eq_true, decide_eq_true_eq, Finset.mem_range]
  constructor
  · rintro ⟨small, rfl | set⟩
    · exact .inl rfl
    · exact .inr ⟨small, set⟩
  · rintro (rfl | ⟨small, set⟩)
    · exact ⟨below, .inl rfl⟩
    · exact ⟨small, .inr set⟩

lemma ones_eq_card (bytes : List UInt8) :
    ones bytes = (members bytes (8 * bytes.length)).card := by
  induction bytes with
  | nil => rfl
  | cons b rest ih =>
    have front (i : ℕ) (h : i ∈ Finset.range 8) : bit (b :: rest) i = b.toNat.testBit i := by
      have small : i < 8 := Finset.mem_range.mp h
      simp [bit_eq_testBit, div_eq_of_lt small, mod_eq_of_lt small]
    have back (i : ℕ) : bit (b :: rest) (8 + i) = bit rest i := by
      rw [bit_eq_testBit, bit_eq_testBit, add_div_left i (by decide), add_mod_left]
      rfl
    have size : 8 * (b :: rest).length = 8 + 8 * rest.length := by
      rw [length_cons]
      ring
    have byte := count_digits ⟨b.toNat, toNat_lt b⟩
    calc ones (b :: rest)
        = ((Finset.range 8).filter fun k => b.toNat.testBit k).card + ones rest := by
          rw [← byte]
          rfl
      _ = (members (b :: rest) (8 * (b :: rest).length)).card := by
          rw [ih, size, members, members, card_filter, card_filter,
            card_filter, sum_range_add]
          congr 1
          · exact sum_congr rfl fun i h => by rw [front i h]
          · exact sum_congr rfl fun i _ => by rw [back i]

lemma ones_eq_card_of_clear {total} (fits : total ≤ 8 * bytes.length)
    (clear : ∀ i, total ≤ i → bit bytes i = false) : ones bytes = (members bytes total).card := by
  rw [ones_eq_card]
  congr 1
  ext i
  simp only [members, Finset.mem_filter, Finset.mem_range]
  constructor
  · rintro ⟨_, set⟩
    refine ⟨?_, set⟩
    by_contra high
    rw [clear i (Nat.le_of_not_lt high)] at set
    exact absurd set Bool.false_ne_true
  · rintro ⟨below, set⟩
    exact ⟨below.trans_le fits, set⟩

lemma bit_of_le (h : 8 * bytes.length ≤ i) : bit bytes i = false := by
  have beyond : bytes.length ≤ i / 8 := by omega
  rw [bit_eq_testBit, getD_eq_getElem?_getD, getElem?_eq_none beyond]
  exact zero_testBit _

@[simp] lemma length_maskLast (bytes : List UInt8) (low) :
    (maskLast bytes low).length = bytes.length := length_modify ..

lemma bit_maskLast {low} (small : low ≤ 8) (i) :
    bit (maskLast bytes low) i = (bit bytes i && decide (i < 8 * (bytes.length - 1) + low)) := by
  rcases lt_or_ge i (8 * bytes.length) with inside | outside
  · have reached : i / 8 < bytes.length := by omega
    rw [bit_eq_testBit, bit_eq_testBit, maskLast, getD_eq_getElem?_getD,
      getElem?_modify, getD_eq_getElem?_getD, getElem?_eq_getElem reached]
    rcases eq_or_ne (bytes.length - 1) (i / 8) with last | earlier
    · have place : decide (i < 8 * (bytes.length - 1) + low) = decide (i % 8 < low) := by
        congr 1
        exact propext ⟨fun h => by omega, fun h => by omega⟩
      rw [place]
      simp only [last, if_true, Option.map_eq_map, Option.map_some, Option.getD_some]
      rw [ofNat_and ⟨_, toNat_lt _⟩ ⟨low, lt_succ_of_le small⟩, testBit_mod_two_pow,
        Bool.and_comm]
    · have place : decide (i < 8 * (bytes.length - 1) + low) := by
        apply decide_eq_true
        omega
      simp [earlier, place]
  · have none : 8 * (maskLast bytes low).length ≤ i := by rwa [length_maskLast]
    rw [bit_of_le none, bit_of_le outside, Bool.false_and]

end Bits
