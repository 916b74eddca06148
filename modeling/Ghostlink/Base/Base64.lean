import Mathlib.Data.List.Basic

/-! Base64 with padding, read back strictly: nothing outside the alphabet is skipped, and padding
stands only at the end. -/

namespace Base64
open List Option UInt8

def alphabet : List Char :=
  "ABCDEFGHIJKLMNOPQRSTUVWXYZabcdefghijklmnopqrstuvwxyz0123456789+/".toList

def digit (n : ℕ) : Char := alphabet.getD n '='

def value (c : Char) : Option ℕ :=
  let n := c.toNat
  if 65 ≤ n ∧ n ≤ 90 then some (n - 65)
  else if 97 ≤ n ∧ n ≤ 122 then some (n - 71)
  else if 48 ≤ n ∧ n ≤ 57 then some (n + 4)
  else if n = 43 then some 62
  else if n = 47 then some 63
  else none

def encode : List UInt8 → List Char
  | [] => []
  | [a] => [digit (a.toNat / 4), digit (a.toNat % 4 * 16), '=', '=']
  | [a, b] =>
    [digit (a.toNat / 4), digit (a.toNat % 4 * 16 + b.toNat / 16), digit (b.toNat % 16 * 4), '=']
  | a :: b :: c :: rest =>
    digit (a.toNat / 4) :: digit (a.toNat % 4 * 16 + b.toNat / 16) ::
      digit (b.toNat % 16 * 4 + c.toNat / 64) :: digit (c.toNat % 64) :: encode rest

def decode : List Char → Option (List UInt8)
  | [] => some []
  | p :: q :: r :: s :: rest => do
    let p ← value p
    let q ← value q
    let first := ofNat (p * 4 + q / 16)
    if r = '=' ∧ s = '=' ∧ rest = [] then return [first]
    let r ← value r
    let second := ofNat (q % 16 * 16 + r / 4)
    if s = '=' ∧ rest = [] then return [first, second]
    let s ← value s
    let tail ← decode rest
    return first :: second :: ofNat (r % 4 * 64 + s) :: tail
  | _ => none

variable {n : ℕ}

lemma value_digit (h : n < 64) : value (digit n) = some n := by
  have all : ∀ m : Fin 64, value (digit m) = some m.val := by decide +kernel
  exact all ⟨n, h⟩

lemma digit_ne_pad (h : n < 64) : digit n ≠ '=' := by
  have all : ∀ m : Fin 64, digit m ≠ '=' := by decide +kernel
  exact all ⟨n, h⟩

private lemma byte_eq {a : UInt8} (h : n = a.toNat) : UInt8.ofNat n = a := by
  rw [h, UInt8.ofNat_toNat]

lemma decode_encode (bytes) : decode (encode bytes) = some bytes := by
  induction bytes using encode.induct with
  | case1 => rfl
  | case2 a =>
    have ha := a.toNat_lt
    have first : ofNat (a.toNat / 4 * 4 + a.toNat % 4 * 16 / 16) = a := byte_eq (by omega)
    simp only [encode, decode, value_digit (show a.toNat / 4 < 64 by omega),
      value_digit (show a.toNat % 4 * 16 < 64 by omega), bind_eq_bind, bind_some,
      and_self, if_true, first]
    rfl
  | case3 a b =>
    have ha := a.toNat_lt
    have hb := b.toNat_lt
    have third : b.toNat % 16 * 4 < 64 := by omega
    have first : ofNat (a.toNat / 4 * 4 + (a.toNat % 4 * 16 + b.toNat / 16) / 16) = a :=
      byte_eq (by omega)
    have second : ofNat ((a.toNat % 4 * 16 + b.toNat / 16) % 16 * 16 +
        b.toNat % 16 * 4 / 4) = b := byte_eq (by omega)
    simp only [encode, decode, value_digit (show a.toNat / 4 < 64 by omega),
      value_digit (show a.toNat % 4 * 16 + b.toNat / 16 < 64 by omega), value_digit third,
      digit_ne_pad third, bind_eq_bind, bind_some, false_and, if_false, and_self,
      if_true, first, second]
    rfl
  | case4 a b c rest ih =>
    have ha := a.toNat_lt
    have hb := b.toNat_lt
    have hc := c.toNat_lt
    have third : b.toNat % 16 * 4 + c.toNat / 64 < 64 := by omega
    have fourth : c.toNat % 64 < 64 := by omega
    have first : ofNat (a.toNat / 4 * 4 + (a.toNat % 4 * 16 + b.toNat / 16) / 16) = a :=
      byte_eq (by omega)
    have second : ofNat ((a.toNat % 4 * 16 + b.toNat / 16) % 16 * 16 +
        (b.toNat % 16 * 4 + c.toNat / 64) / 4) = b := byte_eq (by omega)
    have last : ofNat ((b.toNat % 16 * 4 + c.toNat / 64) % 4 * 64 + c.toNat % 64) = c :=
      byte_eq (by omega)
    simp only [encode, decode, value_digit (show a.toNat / 4 < 64 by omega),
      value_digit (show a.toNat % 4 * 16 + b.toNat / 16 < 64 by omega), value_digit third,
      value_digit fourth, digit_ne_pad third, digit_ne_pad fourth, bind_eq_bind,
      bind_some, false_and, if_false, ih, first, second, last]
    rfl

lemma length_encode (bytes : List UInt8) :
    (encode bytes).length = 4 * ((bytes.length + 2) / 3) := by
  induction bytes using encode.induct with
  | case1 => rfl
  | case2 | case3 => simp [encode]
  | case4 a b c rest ih =>
    simp only [encode, length_cons, ih]
    omega

lemma mem_encode {bytes c} (h : c ∈ encode bytes) : c ∈ alphabet ∨ c = '=' := by
  have written : ∀ n, digit n ∈ alphabet ∨ digit n = '=' := by
    intro n
    rw [digit, getD_eq_getElem?_getD]
    cases found : alphabet[n]? with
    | none => exact .inr rfl
    | some => exact .inl (mem_of_getElem? found)
  induction bytes using encode.induct with
  | case1 => exact nomatch h
  | case2 | case3 =>
    simp only [encode, mem_cons, not_mem_nil, or_false] at h
    rcases h with rfl | rfl | rfl | rfl
    all_goals first | exact written _ | exact .inr rfl
  | case4 a b c rest ih =>
    simp only [encode, mem_cons] at h
    rcases h with rfl | rfl | rfl | rfl | h
    all_goals first | exact written _ | exact ih h

end Base64
