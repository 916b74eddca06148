import Mathlib.Algebra.GroupWithZero.Nat
import Mathlib.Data.List.Basic
import Mathlib.Tactic.Ring

/-! Byte streams: numbers in network order, and reading a given number of bytes off the front. -/

namespace Octets
open List

def pack : ℕ → ℕ → List UInt8
  | 0, _ => []
  | width + 1, n => pack width (n / 256) ++ [UInt8.ofNat n]

def unpack (bytes : List UInt8) : ℕ := bytes.foldl (fun n b => n * 256 + b.toNat) 0

lemma length_pack (width n) : (pack width n).length = width := by
  induction width generalizing n with
  | zero => rfl
  | succ width ih => rw [pack, length_append, ih, length_singleton]

lemma unpack_pack {width n} (fits : n < 256 ^ width) : unpack (pack width n) = n := by
  induction width generalizing n with
  | zero =>
    have zero : n = 0 := Nat.lt_one_iff.mp fits
    rw [zero]
    rfl
  | succ width ih =>
    have high : n / 256 < 256 ^ width := by
      rw [Nat.pow_succ] at fits
      exact Nat.div_lt_of_lt_mul (Nat.mul_comm .. ▸ fits)
    have low : (UInt8.ofNat n).toNat = n % 256 := UInt8.toNat_ofNat'
    calc unpack (pack (width + 1) n)
        = unpack (pack width (n / 256)) * 256 + (UInt8.ofNat n).toNat := by
          rw [pack, unpack, foldl_append, ← unpack]
          rfl
      _ = n / 256 * 256 + n % 256 := by rw [ih high, low]
      _ = n := Nat.div_add_mod' n 256

def exactly (n : ℕ) (stream : List UInt8) : Option (List UInt8 × List UInt8) :=
  if n ≤ stream.length then some (stream.take n, stream.drop n) else none

lemma exactly_append {n} {bytes : List UInt8} (size : bytes.length = n)
    (rest) : exactly n (bytes ++ rest) = some (bytes, rest) := by
  have long : n ≤ (bytes ++ rest).length := by
    rw [length_append, size]
    exact Nat.le_add_right ..
  rw [exactly, if_pos long, take_left' size, drop_left' size]

end Octets
