import Mathlib.Algebra.GroupWithZero.Nat
import Mathlib.Data.Bool.AllAny
import Mathlib.Data.List.DropRight

/-! Text as sequences of code points: trimming, fixed-shape patterns, hexadecimal and
separator-joined fields, with the facts that make joined fields recoverable. -/

namespace Text
open List
open String (ofList toList_ofList)

def isSpace (c : Char) : Bool :=
  let n := c.toNat
  (9 ≤ n && n ≤ 13) || (28 ≤ n && n ≤ 32) || n == 0x85 || n == 0xA0 || n == 0x1680 ||
    (0x2000 ≤ n && n ≤ 0x200A) || n == 0x2028 || n == 0x2029 || n == 0x202F || n == 0x205F ||
    n == 0x3000

def strip (s : String) : String :=
  ofList ((s.toList.dropWhile isSpace).reverse.dropWhile isSpace).reverse

lemma strip_strip (s) : strip (strip s) = strip s := by
  have trimmed : ∀ l : List Char, List.rdropWhile isSpace
      ((List.rdropWhile isSpace (l.dropWhile isSpace)).dropWhile isSpace) =
        List.rdropWhile isSpace (l.dropWhile isSpace) := by
    intro l
    have starts : (List.rdropWhile isSpace (l.dropWhile isSpace)).dropWhile isSpace =
        List.rdropWhile isSpace (l.dropWhile isSpace) := by
      rw [dropWhile_eq_self_iff]
      intro nonempty
      have kept := rdropWhile_prefix isSpace (l.dropWhile isSpace)
      rw [kept.getElem nonempty]
      exact dropWhile_get_zero_not isSpace l (nonempty.trans_le kept.length_le)
    rw [starts, rdropWhile_idempotent]
  exact congrArg ofList (by
    rw [strip, toList_ofList]
    exact trimmed s.toList)

lemma strip_of_forall {s : String} (h : ∀ c ∈ s.toList, isSpace c = false) : strip s = s := by
  have kept : ∀ l : List Char, (∀ c ∈ l, isSpace c = false) → l.dropWhile isSpace = l := by
    intro l hl
    cases l with
    | nil => rfl
    | cons c =>
      refine dropWhile_cons_of_neg ?_
      rw [hl c mem_cons_self]
      exact Bool.false_ne_true
  have back : ∀ c ∈ s.toList.reverse, isSpace c = false := fun c hc => h c (mem_reverse.mp hc)
  rw [strip, kept _ h, kept _ back, reverse_reverse, String.ofList_toList]

def takeChars (n : ℕ) (s : String) : String := ofList (s.toList.take n)

def fullmatch : List (Char → Bool) → List Char → Bool
  | [], [] => true
  | p :: ps, c :: cs => p c && fullmatch ps cs
  | _, _ => false

def lit (s : String) : List (Char → Bool) := s.toList.map fun c => (· == c)

variable {cs : List Char}

variable {ps : List (Char → Bool)} {bytes : List UInt8}

lemma not_mem_of_fullmatch {x} (h : fullmatch ps cs) (hx : ∀ p ∈ ps, p x = false) : x ∉ cs := by
  induction ps generalizing cs with
  | nil => cases cs <;> simp_all [fullmatch]
  | cons p ps ih =>
    cases cs with
    | nil => simp
    | cons c =>
      simp only [fullmatch, Bool.and_eq_true] at h
      have hc : x ≠ c := by
        rintro rfl
        simp [hx p mem_cons_self] at h
      have ht := ih h.2 fun q hq => hx q (mem_cons_of_mem p hq)
      simp [hc, ht]

lemma length_of_fullmatch (h : fullmatch ps cs) : cs.length = ps.length := by
  induction ps generalizing cs with
  | nil =>
    cases cs with
    | nil => rfl
    | cons => exact absurd h Bool.false_ne_true
  | cons p ps ih =>
    cases cs with
    | nil => exact absurd h Bool.false_ne_true
    | cons =>
      rw [fullmatch, Bool.and_eq_true] at h
      rw [length_cons, length_cons, ih h.2]

def hexUpper (n : Fin 16) : Char :=
  ['0', '1', '2', '3', '4', '5', '6', '7', '8', '9', 'A', 'B', 'C', 'D', 'E', 'F'].get n

def isHexUpper (c : Char) : Bool := "0123456789ABCDEF".toList.contains c

lemma isHexUpper_hexUpper (n) : isHexUpper (hexUpper n) := by
  revert n
  decide

def hexValue (c : Char) : Option ℕ :=
  let n := c.toNat
  if 48 ≤ n ∧ n ≤ 57 then some (n - 48)
  else if 65 ≤ n ∧ n ≤ 70 then some (n - 55)
  else if 97 ≤ n ∧ n ≤ 102 then some (n - 87)
  else none

private def isAsciiSpace (c : Char) : Bool := c == ' ' || (9 ≤ c.toNat && c.toNat ≤ 13)

private def fromHexChars : List Char → Option (List UInt8)
  | [] => some []
  | [c] => if isAsciiSpace c then some [] else none
  | c :: d :: cs =>
    if isAsciiSpace c then fromHexChars (d :: cs)
    else do
      let hi ← hexValue c
      let lo ← hexValue d
      let rest ← fromHexChars cs
      return UInt8.ofNat (16 * hi + lo) :: rest

def fromHex (s : String) : Option (List UInt8) := fromHexChars s.toList

def hexLower (n : ℕ) : Char :=
  ['0', '1', '2', '3', '4', '5', '6', '7', '8', '9', 'a', 'b', 'c', 'd', 'e', 'f'].getD n '0'

def toHex (bytes : List UInt8) : String :=
  ofList (bytes.flatMap fun b => [hexLower (b.toNat / 16), hexLower (b.toNat % 16)])

lemma hexValue_hexLower {n} (h : n < 16) : hexValue (hexLower n) = some n := by
  have all : ∀ m : Fin 16, hexValue (hexLower m) = some m.val := by decide
  exact all ⟨n, h⟩

lemma fromHex_toHex (bytes) : fromHex (toHex bytes) = some bytes := by
  rw [fromHex, toHex, toList_ofList]
  induction bytes with
  | nil => rfl
  | cons b bytes ih =>
    have hb := b.toNat_lt
    have high : b.toNat / 16 < 16 := by omega
    have low : b.toNat % 16 < 16 := by omega
    have digit : isAsciiSpace (hexLower (b.toNat / 16)) = false := by
      have all : ∀ m : Fin 16, isAsciiSpace (hexLower m) = false := by decide
      exact all ⟨_, high⟩
    have whole : 16 * (b.toNat / 16) + b.toNat % 16 = b.toNat := Nat.div_add_mod ..
    simp only [flatMap_cons, cons_append, nil_append, fromHexChars, digit,
      hexValue_hexLower high, hexValue_hexLower low, ih, whole, UInt8.ofNat_toNat,
      Option.bind_eq_bind, Option.bind_some, Bool.false_eq_true, if_false]
    rfl

lemma exists_of_mem_toHex {c} (mem : c ∈ (toHex bytes).toList) :
    ∃ n : Fin 16, c = hexLower n := by
  rw [toHex, toList_ofList, mem_flatMap] at mem
  obtain ⟨b, -, mem⟩ := mem
  have bound := b.toNat_lt
  rcases mem_pair.mp mem with rfl | rfl
  · exact ⟨⟨b.toNat / 16, by omega⟩, rfl⟩
  · exact ⟨⟨b.toNat % 16, by omega⟩, rfl⟩

lemma length_toHex (bytes : List UInt8) : (toHex bytes).length = 2 * bytes.length := by
  rw [toHex, String.length_ofList]
  induction bytes with
  | nil => rfl
  | cons b bytes ih =>
    rw [flatMap_cons, length_append, ih, length_cons, length_cons,
      length_cons, length_nil]
    omega

lemma plain_of_mem_toHex {c : Char} (mem : c ∈ (toHex bytes).toList) :
    c ≠ '"' ∧ c ≠ '\\' ∧ 32 ≤ c.toNat ∧ c.toNat < 127 := by
  have all : ∀ n : Fin 16, hexLower n ≠ '"' ∧ hexLower n ≠ '\\' ∧ 32 ≤ (hexLower n).toNat ∧
      (hexLower n).toNat < 127 := by decide
  obtain ⟨n, rfl⟩ := exists_of_mem_toHex mem
  exact all n

lemma toNat_toLower (c : Char) :
    c.toLower.toNat = if 65 ≤ c.toNat ∧ c.toNat ≤ 90 then c.toNat + 32 else c.toNat := by
  unfold Char.toLower
  split_ifs with upper range range
  · have bound := UInt32.le_iff_toNat_le.mp upper.2
    change (c.val + 32).toNat = c.val.toNat + 32
    rw [UInt32.toNat_add]
    exact Nat.mod_eq_of_lt (Nat.lt_of_le_of_lt (Nat.add_le_add_right bound _) (by decide))
  · exact absurd ⟨UInt32.le_iff_toNat_le.mp upper.1, UInt32.le_iff_toNat_le.mp upper.2⟩ range
  · exact absurd ⟨UInt32.le_iff_toNat_le.mpr range.1, UInt32.le_iff_toNat_le.mpr range.2⟩ upper
  · rfl

lemma hexValue_toLower (c : Char) : hexValue c.toLower = hexValue c := by
  unfold hexValue
  rw [toNat_toLower]
  grind

private lemma isAsciiSpace_toLower (c : Char) : isAsciiSpace c.toLower = isAsciiSpace c := by
  have blank : ∀ d : Char, (d == ' ') = decide (d.toNat = 32) := by
    intro d
    rw [Bool.eq_iff_iff, beq_iff_eq, decide_eq_true_iff]
    exact Char.toNat_inj.symm
  unfold isAsciiSpace
  rw [blank, blank, toNat_toLower]
  grind

lemma fromHex_toLower (s : String) : fromHex s.toLower = fromHex s := by
  have lowered : s.toLower.toList = s.toList.map Char.toLower := String.toList_map
  rw [fromHex, fromHex, lowered]
  induction s.toList using fromHexChars.induct with
  | case1 => rfl
  | case2 | case3 => simp [fromHexChars, isAsciiSpace_toLower]
  | case4 c d cs space ih =>
    simp only [map_cons] at ih
    simp [fromHexChars, isAsciiSpace_toLower, space, ih]
  | case5 c d cs digit ih =>
    simp [fromHexChars, isAsciiSpace_toLower, digit, hexValue_toLower, ih]

/-! UTF-8 -/

def utf8Encode (cs : List Char) : List UInt8 := (ofList cs).toUTF8.data.toList

def utf8Decode (data : List UInt8) : Option String := String.fromUTF8? ⟨data.toArray⟩

def utf8Length (cs : List Char) : ℕ := (cs.map Char.utf8Size).sum

@[simp] lemma utf8Length_nil : utf8Length [] = 0 := rfl

@[simp] lemma utf8Length_cons (c : Char) (cs) :
    utf8Length (c :: cs) = c.utf8Size + utf8Length cs := sum_cons

@[simp] lemma utf8Length_append (cs ds) :
    utf8Length (cs ++ ds) = utf8Length cs + utf8Length ds := by
  simp [utf8Length]

lemma utf8Length_eq_length (h : ∀ c ∈ cs, c.utf8Size = 1) : utf8Length cs = cs.length := by
  induction cs with
  | nil => rfl
  | cons c cs ih =>
    rw [utf8Length_cons, h c mem_cons_self, ih fun d hd => h d (mem_cons_of_mem c hd),
      length_cons, Nat.add_comm]

lemma utf8Decode_utf8Encode (cs) : utf8Decode (utf8Encode cs) = some (ofList cs) := by
  have valid : (ofList cs).toUTF8.IsValidUTF8 := (ofList cs).isValidUTF8
  rw [utf8Decode, utf8Encode, Array.toArray_toList]
  exact dif_pos valid

lemma length_utf8Encode (cs) : (utf8Encode cs).length = utf8Length cs := by
  have size : (cs.utf8Encode).size = utf8Length cs := by
    induction cs with
    | nil => rfl
    | cons c cs ih =>
      rw [utf8Encode_cons, ByteArray.size_append, ih, utf8Encode_singleton,
        size_toByteArray, String.length_utf8EncodeChar, utf8Length_cons]
  rw [utf8Encode, Array.length_toList, ← size, ← String.toByteArray_ofList]
  rfl

lemma utf8ByteSize_eq (s : String) : s.utf8ByteSize = utf8Length s.toList := by
  rw [← length_utf8Encode, utf8Encode, String.ofList_toList, Array.length_toList]
  rfl

lemma splitOn_joined {sep} {fields : List String} (hne : fields ≠ [])
    (h : ∀ f ∈ fields, sep ∉ f.toList) :
    ((String.singleton sep).intercalate fields).toList.splitOn sep = fields.map String.toList := by
  rw [String.toList_intercalate, String.toList_singleton]
  apply splitOn_intercalate
  · intro l hl
    obtain ⟨f, hf, rfl⟩ := mem_map.mp hl
    exact h f hf
  · simpa using hne

end Text
