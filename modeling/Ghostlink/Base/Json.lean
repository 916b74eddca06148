import Ghostlink.Base.Text
import Mathlib.Data.List.Basic
import Mathlib.Tactic.IntervalCases

/-! JSON text as Python writes and reads it: compact separators when writing, optionally ASCII
only; when reading, white space between tokens, escapes with surrogate pairs, and the three
literals for numbers that are not finite. A float is kept as the literal it was read from. A
lone surrogate, which Python takes as a character, is refused. -/

inductive Json
  | null
  | bool (b : Bool)
  | int (n : ℤ)
  | float (literal : String)
  | str (s : String)
  | arr (items : List Json)
  | obj (fields : List (String × Json))

namespace Json
open Text List Option Char Nat

def hex4 (n : ℕ) : List Char :=
  [hexLower (n / 4096 % 16), hexLower (n / 256 % 16), hexLower (n / 16 % 16), hexLower (n % 16)]

def unicodeEscape (n : ℕ) : List Char :=
  if n < 0x10000 then '\\' :: 'u' :: hex4 n
  else
    let high := 0xD800 + (n - 0x10000) / 0x400
    let low := 0xDC00 + (n - 0x10000) % 0x400
    '\\' :: 'u' :: hex4 high ++ '\\' :: 'u' :: hex4 low

def escape (ascii : Bool) (c : Char) : List Char :=
  if c = '"' then ['\\', '"']
  else if c = '\\' then ['\\', '\\']
  else if c = '\n' then ['\\', 'n']
  else if c = '\r' then ['\\', 'r']
  else if c = '\t' then ['\\', 't']
  else if c = '\x0c' then ['\\', 'f']
  else if c = '\x08' then ['\\', 'b']
  else if c.toNat < 32 ∨ ascii ∧ 127 ≤ c.toNat then unicodeEscape c.toNat
  else [c]

def quote (ascii : Bool) (s : String) : List Char :=
  '"' :: s.toList.flatMap (escape ascii) ++ ['"']

def intChars (n : ℤ) : List Char :=
  if n < 0 then '-' :: toDigits 10 n.natAbs else toDigits 10 n.natAbs

mutual

def dumps (ascii : Bool) : Json → List Char
  | .null => "null".toList
  | .bool b => if b then "true".toList else "false".toList
  | .int n => intChars n
  | .float literal => literal.toList
  | .str s => quote ascii s
  | .arr items => '[' :: dumpsItems ascii items ++ [']']
  | .obj fields => '{' :: dumpsFields ascii fields ++ ['}']

def dumpsItems (ascii : Bool) : List Json → List Char
  | [] => []
  | [v] => dumps ascii v
  | v :: vs => dumps ascii v ++ ',' :: dumpsItems ascii vs

def dumpsFields (ascii : Bool) : List (String × Json) → List Char
  | [] => []
  | [(k, v)] => quote ascii k ++ ':' :: dumps ascii v
  | (k, v) :: rest => quote ascii k ++ ':' :: dumps ascii v ++ ',' :: dumpsFields ascii rest

end

def isSpace (c : Char) : Bool := c = ' ' || c = '\t' || c = '\n' || c = '\r'

def skip (cs : List Char) : List Char := cs.dropWhile isSpace

def expect (c : Char) : List Char → Option (List Char)
  | [] => none
  | d :: cs => if d = c then some cs else none

def unescape (c : Char) : Option Char :=
  if c = '"' ∨ c = '\\' ∨ c = '/' then some c
  else if c = 'b' then some '\x08'
  else if c = 'f' then some '\x0c'
  else if c = 'n' then some '\n'
  else if c = 'r' then some '\r'
  else if c = 't' then some '\t'
  else none

def readHex4 (p q r s : Char) : Option ℕ := do
  let p ← hexValue p
  let q ← hexValue q
  let r ← hexValue r
  let s ← hexValue s
  return 4096 * p + 256 * q + 16 * r + s

def scanUnicode : List Char → Option (Char × List Char)
  | p :: q :: r :: s :: cs =>
    (readHex4 p q r s).bind fun n =>
      if 0xDC00 ≤ n ∧ n ≤ 0xDFFF then none
      else if 0xD800 ≤ n ∧ n ≤ 0xDBFF then
        match cs with
        | '\\' :: 'u' :: p :: q :: r :: s :: cs =>
          (readHex4 p q r s).bind fun m =>
            if 0xDC00 ≤ m ∧ m ≤ 0xDFFF then
              some (ofNat (0x10000 + (n - 0xD800) * 0x400 + (m - 0xDC00)), cs)
            else none
        | _ => none
      else some (ofNat n, cs)
  | _ => none

def scanEscape : List Char → Option (Char × List Char)
  | [] => none
  | e :: cs => if e = 'u' then scanUnicode cs else (unescape e).map fun c => (c, cs)

/-- The rest of a string after its opening quote, and what follows it. An escape takes at least
one character, so as many turns as there are characters are enough. -/
def scanChars : ℕ → List Char → Option (List Char × List Char)
  | 0, _ => none
  | _ + 1, [] => none
  | fuel + 1, c :: cs =>
    if c = '"' then some ([], cs)
    else if c = '\\' then
      (scanEscape cs).bind fun (e, cs) => (scanChars fuel cs).map fun (s, cs) => (e :: s, cs)
    else if c.toNat < 32 then none
    else (scanChars fuel cs).map fun (s, cs) => (c :: s, cs)

def scanString (cs : List Char) : Option (String × List Char) :=
  (scanChars cs.length cs).map fun (s, cs) => (String.ofList s, cs)

def fraction : List Char → List Char
  | '.' :: cs =>
    let digits := cs.takeWhile isDigit
    if digits = [] then [] else '.' :: digits
  | _ => []

def exponent : List Char → List Char
  | [] => []
  | e :: cs =>
    if e = 'e' ∨ e = 'E' then
      let sign := cs.takeWhile (fun c => c = '+' || c = '-') |>.take 1
      let digits := (cs.drop sign.length).takeWhile isDigit
      if digits = [] then [] else e :: sign ++ digits
    else []

def scanUnsigned (sign : List Char) (cs : List Char) : Option (Json × List Char) :=
  let whole := if cs.head? = some '0' then ['0'] else cs.takeWhile isDigit
  let cs := cs.drop whole.length
  let tail := fraction cs ++ exponent (cs.drop (fraction cs).length)
  if whole = [] then none
  else if tail = [] then
    let n := ofDigitChars 10 whole 0
    some (.int (if sign = [] then n else -n), cs)
  else some (.float (String.ofList (sign ++ whole ++ tail)), cs.drop tail.length)

def literal (word : String) (v : Json) (cs : List Char) : Option (Json × List Char) :=
  if word.toList.isPrefixOf cs then some (v, cs.drop word.toList.length) else none

def scanAtom (cs : List Char) : Option (Json × List Char) :=
  match cs.head? with
  | some '-' =>
    (literal "-Infinity" (.float "-Infinity") cs).orElse fun _ => scanUnsigned ['-'] cs.tail
  | some 'n' => literal "null" .null cs
  | some 't' => literal "true" (.bool true) cs
  | some 'f' => literal "false" (.bool false) cs
  | some 'N' => literal "NaN" (.float "NaN") cs
  | some 'I' => literal "Infinity" (.float "Infinity") cs
  | _ => scanUnsigned [] cs

mutual

def scanValue : ℕ → List Char → Option (Json × List Char)
  | 0, _ => none
  | fuel + 1, cs =>
    match cs with
    | '"' :: cs => (scanString cs).map fun (s, cs) => (.str s, cs)
    | '{' :: cs =>
      match skip cs with
      | '}' :: cs => some (.obj [], cs)
      | cs => (scanMembers fuel cs).map fun (fields, cs) => (.obj fields, cs)
    | '[' :: cs =>
      match skip cs with
      | ']' :: cs => some (.arr [], cs)
      | cs => (scanItems fuel cs).map fun (items, cs) => (.arr items, cs)
    | cs => scanAtom cs

def scanItems : ℕ → List Char → Option (List Json × List Char)
  | 0, _ => none
  | fuel + 1, cs => do
    let (v, cs) ← scanValue fuel cs
    match skip cs with
    | ']' :: cs => return ([v], cs)
    | ',' :: cs =>
      let (vs, cs) ← scanItems fuel (skip cs)
      return (v :: vs, cs)
    | _ => none

def scanMembers : ℕ → List Char → Option (List (String × Json) × List Char)
  | 0, _ => none
  | fuel + 1, cs => do
    let cs ← expect '"' cs
    let (k, cs) ← scanString cs
    let cs ← expect ':' (skip cs)
    let (v, cs) ← scanValue fuel (skip cs)
    match skip cs with
    | '}' :: cs => return ([(k, v)], cs)
    | ',' :: cs =>
      let (fields, cs) ← scanMembers fuel (skip cs)
      return ((k, v) :: fields, cs)
    | _ => none

end

def loads (cs : List Char) : Option Json := do
  if cs.head? = some (ofNat 0xFEFF) then none
  let (v, rest) ← scanValue (cs.length + 1) (skip cs)
  if skip rest = [] then some v else none

lemma readHex4_hex4 {n} (h : n < 0x10000) :
    readHex4 (hexLower (n / 4096 % 16)) (hexLower (n / 256 % 16)) (hexLower (n / 16 % 16))
      (hexLower (n % 16)) = some n := by
  have digit : ∀ m, hexValue (hexLower (m % 16)) = some (m % 16) := fun m =>
    hexValue_hexLower (mod_lt m (by decide))
  simp only [readHex4, digit, bind_eq_bind, bind_some]
  exact congrArg some (by omega)

variable {c : Char} {fuel : ℕ} {cs : List Char} {fields : List (String × Json)} {v : Json}

lemma scanEscape_hex4 (h : c.toNat < 0x10000) (cs) :
    scanEscape ('u' :: hex4 c.toNat ++ cs) = some (c, cs) := by
  have valid := c.valid
  have notLow : ¬ (0xDC00 ≤ c.toNat ∧ c.toNat ≤ 0xDFFF) := by
    rcases valid with low | high
    · exact fun h => by have : c.toNat < 0xD800 := low; omega
    · exact fun h => by have : 0xDFFF < c.toNat := high.1; omega
  have notHigh : ¬ (0xD800 ≤ c.toNat ∧ c.toNat ≤ 0xDBFF) := by
    rcases valid with low | high
    · exact fun h => by have : c.toNat < 0xD800 := low; omega
    · exact fun h => by have : 0xDFFF < c.toNat := high.1; omega
  simp [hex4, scanEscape, scanUnicode, readHex4_hex4 h, notLow, notHigh]

lemma scanEscape_surrogates {high low} (isHigh : 0xD800 ≤ high ∧ high ≤ 0xDBFF)
    (isLow : 0xDC00 ≤ low ∧ low ≤ 0xDFFF) (cs) :
    scanEscape ('u' :: hex4 high ++ '\\' :: 'u' :: hex4 low ++ cs) =
      some (ofNat (0x10000 + (high - 0xD800) * 0x400 + (low - 0xDC00)), cs) := by
  have notLow : ¬ (0xDC00 ≤ high ∧ high ≤ 0xDFFF) := by omega
  have highBound : high < 0x10000 := by omega
  have lowBound : low < 0x10000 := by omega
  simp [hex4, scanEscape, scanUnicode, readHex4_hex4 highBound, readHex4_hex4 lowBound, if_neg notLow, if_pos isHigh, if_pos isLow]

lemma toNat_lt (c : Char) : c.toNat < 0x110000 := by
  rcases c.valid with low | high
  · exact lt_trans low (by decide)
  · exact high.2

lemma scanEscape_pair (h : 0x10000 ≤ c.toNat) (cs) :
    scanEscape ('u' :: hex4 (0xD800 + (c.toNat - 0x10000) / 0x400) ++
      '\\' :: 'u' :: hex4 (0xDC00 + (c.toNat - 0x10000) % 0x400) ++ cs) = some (c, cs) := by
  have bound := toNat_lt c
  have value : 0x10000 + (0xD800 + (c.toNat - 0x10000) / 0x400 - 0xD800) * 0x400 +
      (0xDC00 + (c.toNat - 0x10000) % 0x400 - 0xDC00) = c.toNat := by omega
  rw [scanEscape_surrogates (by omega) (by omega), value, ofNat_toNat]

lemma scanEscape_unicode (c : Char) (cs) :
    ∃ body, unicodeEscape c.toNat ++ cs = '\\' :: body ∧ scanEscape body = some (c, cs) := by
  unfold unicodeEscape
  split_ifs with basic
  · exact ⟨_, rfl, scanEscape_hex4 basic cs⟩
  · refine ⟨_, rfl, ?_⟩
    exact scanEscape_pair (Nat.le_of_not_lt basic) cs

lemma scanChars_escape (ascii c fuel cs) : scanChars (fuel + 1) (escape ascii c ++ cs) =
      (scanChars fuel cs).map fun (s, cs) => (c :: s, cs) := by
  have short : ∀ e, e ≠ 'u' → unescape e = some c →
      scanChars (fuel + 1) ('\\' :: e :: cs) =
        (scanChars fuel cs).map fun (s, cs) => (c :: s, cs) := by
    intro e notU meaning
    have quoted : scanEscape (e :: cs) = some (c, cs) := by
      simp [scanEscape, if_neg notU, meaning]
    rw [scanChars, if_neg (by decide), if_pos rfl, quoted, bind_some]
  unfold escape
  split_ifs with h1 h2 h3 h4 h5 h6 h7 h8
  · exact short '"' (by decide) (by rw [h1]; rfl)
  · exact short '\\' (by decide) (by rw [h2]; rfl)
  · exact short 'n' (by decide) (by rw [h3]; rfl)
  · exact short 'r' (by decide) (by rw [h4]; rfl)
  · exact short 't' (by decide) (by rw [h5]; rfl)
  · exact short 'f' (by decide) (by rw [h6]; rfl)
  · exact short 'b' (by decide) (by rw [h7]; rfl)
  · obtain ⟨body, split, read⟩ := scanEscape_unicode c cs
    rw [split, scanChars, if_neg (by decide), if_pos rfl, read, bind_some]
  · show scanChars (fuel + 1) (c :: cs) = _
    rw [scanChars, if_neg h1, if_neg h2, if_neg fun control => h8 (.inl control)]

lemma scanChars_flatMap (ascii) {s : List Char} (enough : s.length < fuel) (cs) :
    scanChars fuel (s.flatMap (escape ascii) ++ '"' :: cs) = some (s, cs) := by
  induction s generalizing fuel with
  | nil =>
    obtain ⟨fuel, rfl⟩ : ∃ k, fuel = k + 1 := ⟨fuel - 1, by simp at enough; omega⟩
    rfl
  | cons c s ih =>
    obtain ⟨fuel, rfl⟩ : ∃ k, fuel = k + 1 := ⟨fuel - 1, by simp at enough; omega⟩
    rw [flatMap_cons, append_assoc, scanChars_escape,
      ih (lt_of_succ_lt_succ enough)]
    rfl

lemma escape_ne_nil (ascii c) : escape ascii c ≠ [] := by
  unfold escape unicodeEscape
  split_ifs <;> exact cons_ne_nil _ _

lemma length_le_flatMap_escape (ascii) (s : List Char) :
    s.length ≤ (s.flatMap (escape ascii)).length := by
  induction s with
  | nil => exact zero_le _
  | cons c =>
    have := length_pos_iff.mpr (escape_ne_nil ascii c)
    rw [flatMap_cons, length_append, length_cons]
    omega

lemma scanString_quoted (ascii) (s : String) (cs) :
    scanString (s.toList.flatMap (escape ascii) ++ '"' :: cs) = some (s, cs) := by
  have enough : s.toList.length < (s.toList.flatMap (escape ascii) ++ '"' :: cs).length := by
    have := length_le_flatMap_escape ascii s.toList
    rw [length_append, length_cons]
    omega
  rw [scanString, scanChars_flatMap ascii enough]
  exact congrArg (fun t => some (t, cs)) String.ofList_toList

lemma isDigit_digits {n} (h : c ∈ toDigits 10 n) : c.isDigit :=
  isDigit_of_mem_toDigits (by decide) (by decide) h

lemma head?_digits {n} (positive : 0 < n) : (toDigits 10 n).head? ≠ some '0' := by
  induction n using Nat.strongRecOn with
  | ind n ih =>
    rw [toDigits_eq_if (by decide)]
    split_ifs with small
    · interval_cases n <;> decide
    · have shorter : n / 10 < n := by omega
      rw [head?_append_of_ne_nil _ toDigits_ne_nil]
      exact ih (n / 10) shorter (by omega)

def Stops (cs : List Char) : Prop := cs.head? = some ',' ∨ cs.head? = some '}'

lemma Stops.takeWhile (h : Stops cs) : cs.takeWhile isDigit = [] := by
  rcases h with h | h <;> obtain ⟨cs, rfl⟩ := head?_eq_some_iff.mp h <;> rfl

lemma Stops.exponent (h : Stops cs) : exponent cs = [] := by
  rcases h with h | h <;> obtain ⟨cs, rfl⟩ := head?_eq_some_iff.mp h <;> rfl

lemma Stops.fraction (h : Stops cs) : fraction cs = [] := by
  rcases h with h | h <;> obtain ⟨cs, rfl⟩ := head?_eq_some_iff.mp h <;> rfl

lemma whole_digits (n) (ends : cs.takeWhile isDigit = []) :
    (if (toDigits 10 n ++ cs).head? = some '0' then ['0']
      else (toDigits 10 n ++ cs).takeWhile isDigit) = toDigits 10 n := by
  rw [head?_append_of_ne_nil _ toDigits_ne_nil]
  rcases Nat.eq_zero_or_pos n with rfl | positive
  · rfl
  · rw [if_neg (head?_digits positive), takeWhile_append_of_pos fun c h => isDigit_digits h,
      ends, append_nil]

variable (n : ℕ)

lemma scanUnsigned_int (h : Stops cs) :
    scanUnsigned [] (toDigits 10 n ++ cs) = some (.int n, cs) := by
  simp only [scanUnsigned, whole_digits n h.takeWhile, drop_left, h.fraction, h.exponent,
    length_nil, drop_zero, append_nil, toDigits_ne_nil, if_false, if_true,
    ofDigitChars_ten_toDigits]

lemma scanUnsigned_float (whole) {frac} (nonempty : frac ≠ [])
    (digits : ∀ c ∈ frac, c.isDigit) (h : Stops cs) :
    scanUnsigned [] (toDigits 10 whole ++ '.' :: (frac ++ cs)) =
      some (.float (String.ofList (toDigits 10 whole ++ '.' :: frac)), cs) := by
  have taken : (frac ++ cs).takeWhile isDigit = frac := by
    rw [takeWhile_append_of_pos digits, h.takeWhile, append_nil]
  have fractional : fraction ('.' :: (frac ++ cs)) = '.' :: frac := by
    simp only [Json.fraction, taken, nonempty, if_false]
  have rest : ('.' :: (frac ++ cs)).drop ('.' :: frac).length = cs := by
    rw [← cons_append]
    exact drop_left
  have wholly := @whole_digits ('.' :: (frac ++ cs)) whole rfl
  simp only [scanUnsigned, wholly, drop_left, fractional, rest, h.exponent, append_nil,
    toDigits_ne_nil, if_false, reduceCtorEq, nil_append]

lemma scanAtom_digit {d : Char} (head : cs.head? = some d)
    (digit : d.isDigit) : scanAtom cs = scanUnsigned [] cs := by
  unfold scanAtom
  rw [head]
  split
  all_goals first
    | rfl
    | (rename_i same
       rw [Option.some.inj same] at digit
       exact absurd digit (by decide))

def Decimal (literal : String) : Prop :=
  ∃ whole frac, frac ≠ [] ∧ (∀ c ∈ frac, c.isDigit) ∧
    literal = String.ofList (toDigits 10 whole ++ '.' :: frac)

mutual

def Plain : Json → Prop
  | .str _ => True
  | .int n => 0 ≤ n
  | .float literal => Decimal literal
  | .obj fields => PlainFields fields
  | _ => False

def PlainFields : List (String × Json) → Prop
  | [] => True
  | (_, v) :: fields => Plain v ∧ PlainFields fields

end

lemma plainFields_iff (fields : List (String × Json)) :
    PlainFields fields ↔ ∀ field ∈ fields, Plain field.2 := by
  induction fields with
  | nil => simp [PlainFields]
  | cons field fields ih => simp [PlainFields, ih]

lemma plain_obj : Plain (.obj fields) ↔ ∀ field ∈ fields, Plain field.2 := by
  rw [Plain, plainFields_iff]

lemma scanValue_atom (fuel) {d : Char} (head : cs.head? = some d)
    (digit : d.isDigit) : scanValue (fuel + 1) cs = scanUnsigned [] cs := by
  rw [← scanAtom_digit head digit]
  obtain ⟨cs, rfl⟩ := head?_eq_some_iff.mp head
  unfold scanValue
  split
  all_goals first
    | rfl
    | (rename_i same
       rw [(List.cons.inj same).1] at digit
       exact absurd digit (by decide))

lemma digits_cons : ∃ d ds, toDigits 10 n = d :: ds ∧ d.isDigit := by
  obtain ⟨d, ds, cons⟩ := exists_cons_of_ne_nil (toDigits_ne_nil (n := n) (b := 10))
  refine ⟨d, ds, cons, isDigit_digits (n := n) ?_⟩
  rw [cons]
  exact mem_cons_self

lemma intChars_natCast : intChars n = toDigits 10 n :=
  if_neg (Int.not_lt.mpr (Int.natCast_nonneg n))

lemma skip_dumps {ascii} (plain : Plain v) (cs) :
    skip (dumps ascii v ++ cs) = dumps ascii v ++ cs := by
  have tight : ∀ (d : Char) (ds : List Char), d.isDigit → skip (d :: ds) = d :: ds := by
    intro d ds digit
    refine dropWhile_cons_of_neg fun space => ?_
    simp only [isSpace, Bool.or_eq_true, decide_eq_true_eq] at space
    rcases space with ((rfl | rfl) | rfl) | rfl <;> exact absurd digit (by decide)
  cases v with
  | str => rfl
  | obj =>
    rw [dumps]
    rfl
  | int =>
    rw [Plain] at plain
    obtain ⟨k, rfl⟩ := Int.eq_ofNat_of_zero_le plain
    obtain ⟨d, ds, cons, digit⟩ := digits_cons k
    rw [dumps, intChars_natCast, cons]
    exact tight d _ digit
  | float =>
    rw [Plain] at plain
    obtain ⟨whole, frac, -, -, rfl⟩ := plain
    obtain ⟨d, ds, cons, digit⟩ := digits_cons whole
    rw [dumps, String.toList_ofList, cons]
    exact tight d _ digit
  | null | bool | arr => exact plain.elim

lemma dumpsFields_cons (ascii) (field : String × Json) (fields : List (String × Json)) :
    ∃ chars, dumpsFields ascii (field :: fields) = '"' :: chars := by
  obtain ⟨k, v⟩ := field
  cases fields with
  | nil | cons => exact ⟨_, rfl⟩

lemma scanValue_plain {ascii} (plain : Plain v) (enough : (dumps ascii v).length < fuel + 1)
    (members : ∀ fields : List (String × Json), fields ≠ [] → (∀ f ∈ fields, Plain f.2) →
      (dumpsFields ascii fields).length < fuel → ∀ cs,
      scanMembers fuel (dumpsFields ascii fields ++ '}' :: cs) = some (fields, cs))
    {cs : List Char} (stops : Stops cs) :
    scanValue (fuel + 1) (dumps ascii v ++ cs) = some (v, cs) := by
  cases v with
  | str =>
    rw [dumps, quote, append_assoc]
    simp [scanValue, scanString_quoted]
  | int =>
    rw [Plain] at plain
    obtain ⟨k, rfl⟩ := Int.eq_ofNat_of_zero_le plain
    obtain ⟨d, ds, cons, digit⟩ := digits_cons k
    have head : (toDigits 10 k ++ cs).head? = some d := by rw [cons]; rfl
    rw [dumps, intChars_natCast, scanValue_atom fuel head digit, scanUnsigned_int k stops]
  | float =>
    rw [Plain] at plain
    obtain ⟨whole, frac, nonempty, digits, rfl⟩ := plain
    obtain ⟨d, ds, cons, digit⟩ := digits_cons whole
    have head : (toDigits 10 whole ++ '.' :: (frac ++ cs)).head? = some d := by rw [cons]; rfl
    rw [dumps, String.toList_ofList, append_assoc, cons_append,
      scanValue_atom fuel head digit, scanUnsigned_float whole nonempty digits stops]
  | obj fields =>
    cases fields with
    | nil => rfl
    | cons field others =>
      obtain ⟨chars, opens⟩ := dumpsFields_cons ascii field others
      have shorter : (dumpsFields ascii (field :: others)).length < fuel := by
        rw [dumps, cons_append, length_cons, length_append] at enough
        simp only [length_cons, length_nil] at enough
        omega
      have inner := members (field :: others) (cons_ne_nil _ _) (plain_obj.mp plain) shorter cs
      have split : dumps ascii (.obj (field :: others)) ++ cs =
          '{' :: (dumpsFields ascii (field :: others) ++ '}' :: cs) := by
        rw [dumps, cons_append, cons_append, append_assoc]
        rfl
      have tight : skip (dumpsFields ascii (field :: others) ++ '}' :: cs) =
          '"' :: (chars ++ '}' :: cs) := by
        rw [opens]
        rfl
      rw [opens] at inner
      simp only [split, scanValue, tight]
      show (scanMembers fuel ('"' :: chars ++ '}' :: cs)).map _ = _
      rw [inner]
      rfl
  | null | bool | arr => exact plain.elim

lemma scanMembers_member {ascii} (k) (plain : Plain v)
    {rest} (value : scanValue fuel (dumps ascii v ++ rest) = some (v, rest)) :
    scanMembers (fuel + 1) (quote ascii k ++ ':' :: dumps ascii v ++ rest) =
      match skip rest with
      | '}' :: cs => some ([(k, v)], cs)
      | ',' :: cs => (scanMembers fuel (skip cs)).bind fun (fields, cs) =>
          some ((k, v) :: fields, cs)
      | _ => none := by
  have opened : quote ascii k ++ ':' :: dumps ascii v ++ rest =
      '"' :: (k.toList.flatMap (escape ascii) ++ '"' :: ':' :: (dumps ascii v ++ rest)) := by
    simp [quote]
  have colon : skip (':' :: (dumps ascii v ++ rest)) = ':' :: (dumps ascii v ++ rest) := rfl
  rw [opened, scanMembers]
  simp only [expect, if_true, bind_eq_bind, bind_some, scanString_quoted, colon,
    skip_dumps plain, value]
  rfl

lemma scanMembers_dumpsFields {ascii} :
    ∀ fields : List (String × Json), fields ≠ [] → (∀ f ∈ fields, Plain f.2) →
      (dumpsFields ascii fields).length < fuel → ∀ cs,
      scanMembers fuel (dumpsFields ascii fields ++ '}' :: cs) = some (fields, cs) := by
  induction fuel using Nat.strongRecOn with
  | ind fuel ih =>
    intro fields nonempty plain enough cs
    obtain ⟨⟨k, v⟩, others, rfl⟩ := exists_cons_of_ne_nil nonempty
    have here : Plain v := plain (k, v) mem_cons_self
    have name : 2 ≤ (quote ascii k).length := by
      rw [quote, length_append, length_cons, length_singleton]
      omega
    have length : (quote ascii k).length + 1 + (dumps ascii v).length ≤
        (dumpsFields ascii ((k, v) :: others)).length := by
      cases others <;> simp only [dumpsFields, length_append, length_cons] <;> omega
    obtain ⟨fuel, rfl⟩ : ∃ n, fuel = n + 2 := ⟨fuel - 2, by omega⟩
    have value {rest : List Char} (stops : Stops rest) :
        scanValue (fuel + 1) (dumps ascii v ++ rest) = some (v, rest) :=
      scanValue_plain here (by omega) (ih fuel (by omega)) stops
    cases others with
    | nil =>
      rw [dumpsFields, scanMembers_member k here (value (.inr rfl))]
      rfl
    | cons next fields =>
      have fewer : (dumpsFields ascii (next :: fields)).length < fuel + 1 := by
        simp only [dumpsFields, length_append, length_cons] at enough
        omega
      have later := ih (fuel + 1) (by omega) (next :: fields) (cons_ne_nil _ _)
        (fun f mem => plain f (mem_cons_of_mem _ mem)) fewer cs
      have split : dumpsFields ascii ((k, v) :: next :: fields) ++ '}' :: cs =
          quote ascii k ++ ':' :: dumps ascii v ++
            (',' :: (dumpsFields ascii (next :: fields) ++ '}' :: cs)) := by
        simp [dumpsFields]
      obtain ⟨chars, opens⟩ := dumpsFields_cons ascii next fields
      have tight : skip (dumpsFields ascii (next :: fields) ++ '}' :: cs) =
          dumpsFields ascii (next :: fields) ++ '}' :: cs := by
        rw [opens]
        rfl
      rw [split, scanMembers_member k here (value (.inl rfl))]
      show (scanMembers (fuel + 1) (skip (dumpsFields ascii (next :: fields) ++ '}' :: cs))).bind
        _ = _
      rw [tight, later]
      rfl

lemma loads_obj (ascii) (nonempty : fields ≠ []) (plain : ∀ f ∈ fields, Plain f.2) :
    loads (dumps ascii (.obj fields)) = some (.obj fields) := by
  obtain ⟨field, others, rfl⟩ := exists_cons_of_ne_nil nonempty
  obtain ⟨chars, opens⟩ := dumpsFields_cons ascii field others
  have written : dumps ascii (.obj (field :: others)) =
      '{' :: (dumpsFields ascii (field :: others) ++ ['}']) := by
    rw [dumps]
    rfl
  have enough : (dumpsFields ascii (field :: others)).length <
      ('{' :: (dumpsFields ascii (field :: others) ++ ['}'])).length := by
    simp only [length_cons, length_append]
    omega
  have members := scanMembers_dumpsFields (field :: others) nonempty plain enough []
  have inner : skip (dumpsFields ascii (field :: others) ++ ['}']) =
      '"' :: (chars ++ ['}']) := by
    rw [opens]
    rfl
  have value : scanValue (('{' :: (dumpsFields ascii (field :: others) ++ ['}'])).length + 1)
      (skip ('{' :: (dumpsFields ascii (field :: others) ++ ['}']))) =
        some (.obj (field :: others), []) := by
    generalize ('{' :: (dumpsFields ascii (field :: others) ++ ['}'])).length = fuel at members
    show scanValue (fuel + 1) ('{' :: (dumpsFields ascii (field :: others) ++ ['}'])) = _
    rw [opens] at members
    simp only [scanValue, inner]
    show (scanMembers fuel ('"' :: chars ++ ['}'])).map _ = _
    rw [members]
    rfl
  rw [written]
  simp only [loads, head?_cons, Option.some.injEq]
  rw [value]
  rfl

def Written (ascii : Bool) (c : Char) : Prop := ascii → c.toNat < 127

/-- Scalars in the form they are written in here: texts, naturals, and floats with digits on both
sides of the point. -/
def Scalar (ascii : Bool) : Json → Prop
  | .str s => ∀ c ∈ s.toList, Written ascii c
  | .int n => 0 ≤ n
  | .float literal => ∃ whole frac, frac ≠ [] ∧ (∀ c ∈ frac, c.isDigit) ∧
      literal = String.ofList (toDigits 10 whole ++ '.' :: frac)
  | _ => False

def Field (ascii : Bool) (field : String × Json) : Prop :=
  (∀ c ∈ field.1.toList, Written ascii c) ∧ Scalar ascii field.2

lemma plain_of_scalar {ascii} (scalar : Scalar ascii v) : Plain v := by
  cases v <;> trivial

lemma loads_dumps {ascii} (nonempty : fields ≠ []) (readable : ∀ f ∈ fields, Field ascii f) :
    loads (dumps ascii (.obj fields)) = some (.obj fields) :=
  loads_obj ascii nonempty fun f mem => plain_of_scalar (readable f mem).2

def escapedSize (c : Char) : ℕ :=
  if c ∈ ['"', '\\', '\n', '\r', '\t', '\x0c', '\x08'] then 2
  else if c.toNat < 32 then 6
  else c.utf8Size

def quotedSize (s : String) : ℕ := (s.toList.map escapedSize).sum + 2

def decimalSize (n : ℕ) : ℕ := (toDigits 10 n).length

lemma utf8Size_eq_one (h : c.toNat < 128) : c.utf8Size = 1 := by
  have small : c.val ≤ UInt32.ofNatLT 0x7f (by decide) := by
    rw [UInt32.le_iff_toNat_le]
    exact le_of_lt_succ h
  rw [utf8Size, if_pos small]

lemma utf8Size_hexLower {n} (h : n < 16) : (hexLower n).utf8Size = 1 := by
  have all : ∀ m : Fin 16, (hexLower m).utf8Size = 1 := by decide
  exact all ⟨n, h⟩

lemma utf8Length_hex4 : utf8Length (hex4 n) = 4 := by
  have digit (m : ℕ) : (hexLower (m % 16)).utf8Size = 1 :=
    utf8Size_hexLower (mod_lt m (by decide))
  simp [hex4, utf8Length_cons, utf8Length_nil, digit]

lemma utf8Length_escape (c) : utf8Length (escape false c) = escapedSize c := by
  unfold escapedSize
  split_ifs with short control
  · -- the seven short escapes
    have all : ∀ d ∈ ['"', '\\', '\n', '\r', '\t', '\x0c', '\x08'],
        utf8Length (escape false d) = 2 := all_iff_forall_prop.mp (by decide)
    exact all c short
  all_goals
    simp only [mem_cons, not_mem_nil, or_false, not_or] at short
    obtain ⟨h1, h2, h3, h4, h5, h6, h7⟩ := short
    simp only [escape, h1, h2, h3, h4, h5, h6, h7, control, if_false, if_true,
      Bool.false_eq_true, false_and, or_false]
  · have slash : ('\\' : Char).utf8Size = 1 := by decide
    have letter : ('u' : Char).utf8Size = 1 := by decide
    rw [unicodeEscape, if_pos (lt_trans control (by decide)), utf8Length_cons,
      utf8Length_cons, utf8Length_hex4, slash, letter]
  · rw [utf8Length_cons, utf8Length_nil, add_zero]

lemma utf8Length_quote (s) : utf8Length (quote false s) = quotedSize s := by
  have body : ∀ cs : List Char,
      utf8Length (cs.flatMap (escape false)) = (cs.map escapedSize).sum := by
    intro cs
    induction cs with
    | nil => rfl
    | cons c cs ih =>
      rw [flatMap_cons, utf8Length_append, utf8Length_escape, ih, map_cons,
        sum_cons]
  have mark : ('"' : Char).utf8Size = 1 := by decide
  rw [quote, cons_append, utf8Length_cons, utf8Length_append, body, utf8Length_cons,
    utf8Length_nil, mark, quotedSize]
  omega

lemma utf8Length_digits : utf8Length (toDigits 10 n) = decimalSize n := by
  refine utf8Length_eq_length fun c mem => utf8Size_eq_one ?_
  have digit := isDigit_digits mem
  rw [isDigit, Bool.and_eq_true, decide_eq_true_iff, decide_eq_true_iff] at digit
  exact lt_of_le_of_lt (UInt32.le_iff_toNat_le.mp digit.2) (by decide)

lemma utf8Length_quote_plain {ascii} {s : String}
    (plain : ∀ c ∈ s.toList, c ≠ '"' ∧ c ≠ '\\' ∧ 32 ≤ c.toNat ∧ c.toNat < 127) :
    utf8Length (quote ascii s) = s.toList.length + 2 := by
  have asis : ∀ c ∈ s.toList, escape ascii c = [c] := by
    intro c mem
    obtain ⟨quoted, slash, low, high⟩ := plain c mem
    have not_control {d : Char} (h : d.toNat < 32) : c ≠ d := by
      rintro rfl
      exact not_lt.mpr low h
    rw [escape, if_neg quoted, if_neg slash, if_neg (not_control (by decide)),
      if_neg (not_control (by decide)), if_neg (not_control (by decide)),
      if_neg (not_control (by decide)), if_neg (not_control (by decide)), if_neg]
    rintro (h | ⟨-, h⟩)
    · exact not_lt.mpr low h
    · exact not_lt.mpr h high
  have body : s.toList.flatMap (escape ascii) = s.toList := by
    rw [flatMap_congr asis, flatMap_singleton']
  have mark : ('"' : Char).utf8Size = 1 := by decide
  rw [quote, body, cons_append, utf8Length_cons, utf8Length_append, utf8Length_cons,
    utf8Length_nil, mark,
    utf8Length_eq_length fun c mem => utf8Size_eq_one (lt_succ_of_lt (plain c mem).2.2.2)]
  omega

lemma utf8Length_int (ascii : Bool) (n : ℕ) :
    utf8Length (dumps ascii (.int n)) = decimalSize n := by
  rw [dumps, intChars_natCast, utf8Length_digits]

lemma utf8Length_str (s) : utf8Length (dumps false (.str s)) = quotedSize s := by
  rw [dumps, utf8Length_quote]

def fieldSize (ascii : Bool) (field : String × Json) : ℕ :=
  utf8Length (quote ascii field.1) + utf8Length (dumps ascii field.2) + 2

lemma utf8Length_obj {ascii} (nonempty : fields ≠ []) :
    utf8Length (dumps ascii (.obj fields)) = 1 + (fields.map (fieldSize ascii)).sum := by
  have colon : (':' : Char).utf8Size = 1 := by decide
  have comma : (',' : Char).utf8Size = 1 := by decide
  have opening : ('{' : Char).utf8Size = 1 := by decide
  have closing : ('}' : Char).utf8Size = 1 := by decide
  have inner : utf8Length (dumpsFields ascii fields) + 1 =
      (fields.map (fieldSize ascii)).sum := by
    induction fields with
    | nil => exact absurd rfl nonempty
    | cons field rest ih =>
      cases rest with
      | nil =>
        simp only [dumpsFields, utf8Length_append, utf8Length_cons, colon, map_cons,
          map_nil, sum_cons, sum_nil, fieldSize]
        omega
      | cons =>
        rw [map_cons, sum_cons, ← ih (cons_ne_nil _ _), fieldSize]
        simp only [dumpsFields, append_assoc, cons_append, utf8Length_append,
          utf8Length_cons, colon, comma]
        omega
  rw [dumps, cons_append, utf8Length_cons, utf8Length_append, utf8Length_cons,
    utf8Length_nil, opening, closing, ← inner]

end Json
