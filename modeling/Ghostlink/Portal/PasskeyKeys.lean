import Ghostlink.Base.Checks
import Ghostlink.Base.Dict
import Ghostlink.Base.Octets
import Ghostlink.Base.Text

/-! How the public key of a passkey is read: a small CBOR decoder and the fields that are taken from
the decoded map. The reader looks for the curve under label 3, where the algorithm stands. -/

namespace Ghostlink.Portal
open Collections List Octets UInt8

abbrev Bytes := List UInt8

inductive CborError
  | value (message : String)
  | index
  | unhashable
  | recursion
  deriving DecidableEq

inductive CborKey
  | int (n : ℤ)
  | bytes (b : Bytes)
  | text (s : String)
  deriving DecidableEq

inductive CborValue
  | int (n : ℤ)
  | bytes (b : Bytes)
  | text (s : String)
  | list (items : List CborValue)
  | map (entries : List (CborKey × CborValue))

namespace CborValue

def hash : CborValue → Except CborError CborKey
  | .int n => .ok (.int n)
  | .bytes b => .ok (.bytes b)
  | .text s => .ok (.text s)
  | .list _ | .map _ => .error .unhashable

def isInt : Option CborValue → ℤ → Bool
  | some (.int m), n => m = n
  | _, _ => false

end CborValue

def cborHead : Bytes → Except CborError (ℕ × ℕ × Bytes)
  | [] => .error .index
  | initial :: rest =>
    let major := initial.toNat / 32
    let info := initial.toNat % 32
    let wide (width : ℕ) := .ok (major, unpack (rest.take width), rest.drop width)
    if info < 24 then .ok (major, info, rest)
    else if info = 24 then
      match rest with
      | [] => .error .index
      | arg :: rest => .ok (major, arg.toNat, rest)
    else if info = 25 then wide 2
    else if info = 26 then wide 4
    else if info = 27 then wide 8
    else if info = 31 then .error (.value "indefinite-length CBOR not supported")
    else .error (.value "reserved CBOR additional info")

def cborItems (item : Bytes → Except CborError (CborValue × Bytes)) :
    ℕ → Bytes → Except CborError (List CborValue × Bytes)
  | 0, data => .ok ([], data)
  | n + 1, data => do
    let (first, data) ← item data
    let (items, data) ← cborItems item n data
    pure (first :: items, data)

def cborEntries (item : Bytes → Except CborError (CborValue × Bytes)) :
    ℕ → Bytes → Dict CborKey CborValue → Except CborError (Dict CborKey CborValue × Bytes)
  | 0, data, result => .ok (result, data)
  | n + 1, data, result => do
    let (key, data) ← item data
    let (val, data) ← item data
    cborEntries item n data (result.set (← key.hash) val)

/-- `_cbor_value` on what is left of the data. `utf8` is the decoding of texts, which never fails,
and `limit` the depth to which the interpreter lets it recurse. -/
def cborValue (utf8 : Bytes → String) : ℕ → Bytes → Except CborError (CborValue × Bytes)
  | 0, _ => .error .recursion
  | limit + 1, data => do
    let (major, arg, rest) ← cborHead data
    match major with
    | 0 => pure (.int arg, rest)
    | 1 => pure (.int (-1 - arg), rest)
    | 2 => pure (.bytes (rest.take arg), rest.drop arg)
    | 3 => pure (.text (utf8 (rest.take arg)), rest.drop arg)
    | 4 =>
      let (items, rest) ← cborItems (cborValue utf8 limit) arg rest
      pure (.list items, rest)
    | 5 =>
      let (result, rest) ← cborEntries (cborValue utf8 limit) arg rest Dict.empty
      pure (.map result.entries, rest)
    | _ => throw (.value "unsupported CBOR major type")

/-- `key.get(label)`. -/
def labelled (entries : List (CborKey × CborValue)) (label : ℤ) : Option CborValue :=
  (entries.find? fun e => e.1 = .int label).map Prod.snd

def onlyEs256 : CborError := .value "only ES256 (EC2 / P-256) credentials are supported"

def readPoint (get : ℤ → Option CborValue) : Except CborError Bytes :=
  if !CborValue.isInt (get 1) 2 || !CborValue.isInt (get 3) 1 then .error onlyEs256
  else
    match get (-2), get (-3) with
    | some (.bytes x), some (.bytes y) => .ok (4 :: (x ++ y))
    | _, _ => .error (.value "EC2 public key missing coordinates")

def parseCoseEc2PublicKey (utf8 : Bytes → String) (limit : ℕ) (cose : Bytes) :
    Except CborError Bytes :=
  match cborValue utf8 limit cose with
  | .error e => .error e
  | .ok (.map entries, _) => readPoint (labelled entries)
  | .ok _ => .error (.value "COSE key must be a map")

inductive Width
  | inline | one | two | four | eight
  deriving DecidableEq

def encodeHead (major arg : ℕ) : Width → Bytes
  | .inline => [ofNat (major * 32 + arg)]
  | .one => ofNat (major * 32 + 24) :: pack 1 arg
  | .two => ofNat (major * 32 + 25) :: pack 2 arg
  | .four => ofNat (major * 32 + 26) :: pack 4 arg
  | .eight => ofNat (major * 32 + 27) :: pack 8 arg

def Width.bound : Width → ℕ
  | .inline => 24
  | .one => 256 ^ 1
  | .two => 256 ^ 2
  | .four => 256 ^ 4
  | .eight => 256 ^ 8

variable {utf8 : Bytes → String} {width : Width} {limit : ℕ} {entries : List Entry} {x y : Bytes}

lemma cborHead_encodeHead (major) {arg} (known : major < 8) (fits : arg < width.bound) (rest) :
    cborHead (encodeHead major arg width ++ rest) = .ok (major, arg, rest) := by
  have initial {n : ℕ} (small : n < 32) : (ofNat (major * 32 + n)).toNat = major * 32 + n := by
    rw [toNat_ofNat', Nat.mod_eq_of_lt (by omega)]
  have parts {n : ℕ} (small : n < 32) : (major * 32 + n) / 32 = major ∧ (major * 32 + n) % 32 = n := by
    omega
  have wide {w : ℕ} (fits : arg < 256 ^ w) :
      unpack ((pack w arg ++ rest).take w) = arg ∧
        (pack w arg ++ rest).drop w = rest := by
    have length := length_pack w arg
    rw [take_left' length, drop_left' length, unpack_pack fits]
    exact ⟨rfl, rfl⟩
  cases width with
  | inline =>
    have small : arg < 32 := Nat.lt_trans fits (by decide)
    simp only [encodeHead, cons_append, nil_append, cborHead, initial small, parts small]
    exact if_pos fits
  | one =>
    have byte : (ofNat arg).toNat = arg := by
      rw [toNat_ofNat']
      exact Nat.mod_eq_of_lt fits
    simp only [encodeHead, cons_append, cborHead, initial (show 24 < 32 by decide),
      parts (show 24 < 32 by decide)]
    exact congrArg (fun n => Except.ok (major, n, rest)) byte
  | two | four | eight =>
    simp only [encodeHead, cons_append, cborHead, initial (show 25 < 32 by decide),
      initial (show 26 < 32 by decide), initial (show 27 < 32 by decide),
      parts (show 25 < 32 by decide), parts (show 26 < 32 by decide),
      parts (show 27 < 32 by decide), wide fits]
    rfl

inductive Field
  | int (n : ℤ)
  | bytes (b : Bytes)
  deriving DecidableEq

def Field.value : Field → CborValue
  | .int n => .int n
  | .bytes b => .bytes b

def Field.head : Field → ℕ × ℕ
  | .int n => if 0 ≤ n then (0, n.toNat) else (1, (-1 - n).toNat)
  | .bytes b => (2, b.length)

def Field.encode (f : Field) (width : Width) : Bytes :=
  encodeHead f.head.1 f.head.2 width ++ match f with
    | .int _ => []
    | .bytes b => b

structure Entry where
  label : ℤ
  field : Field
  labelWidth : Width
  fieldWidth : Width

def Entry.encode (e : Entry) : Bytes :=
  (Field.int e.label).encode e.labelWidth ++ e.field.encode e.fieldWidth

def Entry.Fits (e : Entry) : Prop :=
  (Field.int e.label).head.2 < e.labelWidth.bound ∧ e.field.head.2 < e.fieldWidth.bound

def encodeMap (width : Width) (entries : List Entry) : Bytes :=
  encodeHead 5 entries.length width ++ entries.flatMap Entry.encode

def CborKey.value : CborKey → CborValue
  | .int n => .int n
  | .bytes b => .bytes b
  | .text s => .text s

/-- The value nests lists and maps within so many levels. -/
def CborValue.within : ℕ → CborValue → Bool
  | 0, _ => false
  | n + 1, .list items => items.all (within n)
  | n + 1, .map entries => entries.all fun entry => within n entry.1.value && within n entry.2
  | _ + 1, _ => true

/-- `e` encodes the value in definite lengths, minimal or not, with these texts in it. -/
def Encodes (texts : String → Prop) : ℕ → CborValue → Bytes → Prop
  | 0, _, _ => False
  | _ + 1, .int n, e => ∃ width : Width, (Field.int n).head.2 < width.bound ∧
      e = (Field.int n).encode width
  | _ + 1, .bytes b, e => ∃ width : Width, b.length < width.bound ∧ e = (Field.bytes b).encode width
  | _ + 1, .text s, e => texts s ∧ ∃ width : Width, (Text.utf8Encode s.toList).length < width.bound ∧
      e = encodeHead 3 (Text.utf8Encode s.toList).length width ++ Text.utf8Encode s.toList
  | depth + 1, .list items, e => ∃ (width : Width) (parts : List Bytes),
      items.length < width.bound ∧ Forall₂ (Encodes texts depth) items parts ∧
      e = encodeHead 4 items.length width ++ parts.flatten
  | depth + 1, .map entries, e => ∃ (width : Width) (parts : List Bytes),
      entries.length < width.bound ∧ (entries.map Prod.fst).Nodup ∧
      Forall₂ (fun entry part => ∃ key val, part = key ++ val ∧
        Encodes texts depth entry.1.value key ∧ Encodes texts depth entry.2 val) entries parts ∧
      e = encodeHead 5 entries.length width ++ parts.flatten

/-- What is read, if the recursion goes so deep. -/
def unlessDeep {α : Type} (fits : Bool) (read : α × Bytes) : Except CborError (α × Bytes) :=
  if fits then .ok read else .error .recursion

section
variable {item : Bytes → Except CborError (CborValue × Bytes)} {p : CborValue → Bool}
  {E : CborValue → Bytes → Prop} {parts : List Bytes}
  (read : ∀ {v e}, E v e → ∀ q, item (e ++ q) = unlessDeep (p v) (v, q))
include read

lemma cborItems_flatten {items} (each : Forall₂ E items parts) (q) :
    cborItems item items.length (parts.flatten ++ q) = unlessDeep (items.all p) (items, q) := by
  induction each with
  | nil => rfl
  | @cons v _ items _ first _ ih =>
    rw [length_cons, cborItems, flatten_cons, append_assoc, read first, all_cons]
    cases p v with
    | false => rfl
    | true =>
      show (do let (items, data) ← cborItems item _ _; pure (_ :: items, data)) = _
      rw [ih]
      cases items.all p <;> rfl

lemma cborEntries_flatten {entries : List (CborKey × CborValue)}
    (each : Forall₂ (fun entry part => ∃ key val, part = key ++ val ∧ E entry.1.value key ∧
      E entry.2 val) entries parts)
    {d : Dict CborKey CborValue} (distinct : ((d.entries ++ entries).map Prod.fst).Nodup) (more q) :
    cborEntries item (entries.length + more) (parts.flatten ++ q) d =
      if entries.all fun entry => p entry.1.value && p entry.2 then
        cborEntries item more q ⟨d.entries ++ entries, distinct⟩
      else .error .recursion := by
  -- a key that is not there yet goes to the end, so the map read lists the entries in their order
  induction each generalizing d with
  | nil => simp
  | @cons entry _ entries parts first _ ih =>
    obtain ⟨key, val, rfl, first, second⟩ := first
    have new : entry.1 ∉ d.entries.map Prod.fst := by
      rw [map_append, map_cons] at distinct
      exact fun old => (nodup_append.mp distinct).2.2 _ old _ mem_cons_self rfl
    have grown : (d.set entry.1 entry.2).entries = d.entries ++ [entry] := by
      rw [Dict.set, dif_neg new]
    have hashed : entry.1.value.hash = .ok entry.1 := by cases entry.1 <;> rfl
    rw [length_cons, Nat.succ_add, cborEntries, flatten_cons, append_assoc, append_assoc,
      read first, all_cons]
    cases p entry.1.value with
    | false => rfl
    | true =>
      show (do
        let (val, data) ← item (val ++ (parts.flatten ++ q))
        cborEntries item (entries.length + more) data (d.set (← entry.1.value.hash) val)) = _
      rw [read second, hashed]
      cases p entry.2 with
      | false => rfl
      | true =>
        have next := ih (d := d.set entry.1 entry.2) (by rwa [grown, append_assoc])
        simp only [grown, append_assoc, singleton_append] at next
        exact next

end

section
variable {texts : String → Prop} (law : ∀ s, texts s → utf8 (Text.utf8Encode s.toList) = s)
include law

lemma Encodes.read {depth value e} (encodes : Encodes texts depth value e) (limit q) :
    cborValue utf8 limit (e ++ q) = unlessDeep (value.within limit) (value, q) := by
  -- on the depth: the parts of a list or a map nest one level less
  induction depth generalizing value e limit q with
  | zero => exact encodes.elim
  | succ depth ih =>
    cases limit with
    | zero => rfl
    | succ limit =>
    cases value with
    | int n =>
      obtain ⟨width, fits, rfl⟩ := encodes
      simp only [Field.encode, append_nil, Field.head] at fits ⊢
      split_ifs at fits ⊢ with sign
      · simp only [cborValue, cborHead_encodeHead 0 (by decide) fits]
        show Except.ok (CborValue.int n.toNat, q) = .ok _
        rw [Int.toNat_of_nonneg sign]
      · simp only [cborValue, cborHead_encodeHead 1 (by decide) fits]
        show Except.ok (CborValue.int (-1 - (-1 - n).toNat), q) = .ok _
        rw [Int.toNat_of_nonneg (by omega), sub_sub_cancel]
    | bytes b =>
      obtain ⟨width, fits, rfl⟩ := encodes
      simp only [Field.encode, Field.head, append_assoc, cborValue,
        cborHead_encodeHead 2 (by decide) fits]
      show Except.ok (CborValue.bytes ((b ++ q).take b.length), (b ++ q).drop b.length) = .ok _
      rw [take_left, drop_left]
    | text s =>
      obtain ⟨known, width, fits, rfl⟩ := encodes
      simp only [append_assoc, cborValue, cborHead_encodeHead 3 (by decide) fits]
      show Except.ok (CborValue.text (utf8 (take _ (_ ++ q))), drop _ (_ ++ q)) = .ok _
      rw [take_left, drop_left, law s known]
    | list items =>
      obtain ⟨width, parts, fits, each, rfl⟩ := encodes
      have read := cborItems_flatten (fun h => ih h limit) each q
      simp only [append_assoc, cborValue, cborHead_encodeHead 4 (by decide) fits]
      show (do let (items, rest) ← cborItems _ _ _; pure (CborValue.list items, rest)) = _
      rw [read, CborValue.within]
      cases items.all (CborValue.within limit) <;> rfl
    | map entries =>
      obtain ⟨width, parts, fits, distinct, each, rfl⟩ := encodes
      have read := cborEntries_flatten (E := Encodes texts depth) (d := Dict.empty)
        (fun h => ih h limit) each distinct 0 q
      simp only [append_assoc, cborValue, cborHead_encodeHead 5 (by decide) fits]
      show (do
        let (result, rest) ← cborEntries _ (_ + 0) _ _
        pure (CborValue.map result.entries, rest)) = _
      rw [read, CborValue.within]
      cases entries.all fun entry => entry.1.value.within limit && entry.2.within limit <;> rfl

end

section
variable {texts : String → Prop}

lemma encodes_field {f : Field} (fits : f.head.2 < width.bound) :
    Encodes texts (limit + 1) f.value (f.encode width) := by
  cases f with
  | int | bytes => exact ⟨width, fits, rfl⟩

/-- What is decoded for the entry. -/
def Entry.pair (e : Entry) : CborKey × CborValue := (.int e.label, e.field.value)

lemma encodes_encodeMap (count : entries.length < width.bound) (fits : ∀ e ∈ entries, e.Fits)
    (distinct : ((entries.map Entry.pair).map Prod.fst).Nodup) :
    Encodes texts (limit + 2) (.map (entries.map Entry.pair)) (encodeMap width entries) := by
  refine ⟨width, entries.map Entry.encode, by rwa [length_map], distinct, ?_, by rw [length_map]; rfl⟩
  rw [forall₂_map_left_iff, forall₂_map_right_iff, forall₂_same]
  intro e mem
  exact ⟨_, _, rfl, encodes_field (fits e mem).1, encodes_field (fits e mem).2⟩

end

lemma within_pairs (entries : List Entry) :
    (CborValue.map (entries.map Entry.pair)).within (limit + 2) := by
  rw [CborValue.within, all_map, all_eq_true]
  intro e _
  cases e with
  | mk label field => cases field <;> rfl

structure Es256 (x y : Bytes) (entries : List Entry) : Prop where
  fields : (entries.map fun e => (e.label, e.field)).Perm
    [(1, .int 2), (3, .int (-7)), (-1, .int 1), (-2, .bytes x), (-3, .bytes y)]
  abscissa : x.length = 32
  ordinate : y.length = 32

lemma Es256.distinct (h : Es256 x y entries) :
    ((entries.map Entry.pair).map Prod.fst).Nodup := by
  have labels := h.fields.map fun field => CborKey.int field.1
  rw [map_map] at labels ⊢
  refine labels.nodup_iff.mpr ?_
  show [CborKey.int 1, .int 3, .int (-1), .int (-2), .int (-3)].Nodup
  decide

lemma Es256.algorithm (h : Es256 x y entries) :
    labelled (entries.map Entry.pair) 3 = some (.int (-7)) := by
  have listed : (3, Field.int (-7)) ∈ entries.map fun e => (e.label, e.field) :=
    h.fields.mem_iff.mpr (by simp)
  obtain ⟨e, there, same⟩ := mem_map.mp listed
  obtain ⟨three, seven⟩ := Prod.mk.inj same
  refine (Dict.get?_eq_some_iff ⟨_, h.distinct⟩ (.int 3) _).mpr (mem_map.mpr ⟨e, there, ?_⟩)
  rw [Entry.pair, three, seven]
  rfl

/-- Every key for ES256 is refused, in whatever order and widths it is encoded; and what is accepted
is a map with 2 under label 1, 1 under label 3 and byte strings of any length under -2 and -3. -/
theorem passkey_keys_read (utf8 : Bytes → String) (limit : ℕ) :
    (∀ (x y : Bytes) (entries : List Entry) (width : Width), 2 ≤ limit → Es256 x y entries →
      entries.length < width.bound → (∀ e ∈ entries, e.Fits) →
      parseCoseEc2PublicKey utf8 limit (encodeMap width entries) = .error onlyEs256) ∧
    ∀ cose point, parseCoseEc2PublicKey utf8 limit cose = .ok point ↔
      ∃ entries rest x y, cborValue utf8 limit cose = .ok (.map entries, rest) ∧
        CborValue.isInt (labelled entries 1) 2 ∧ CborValue.isInt (labelled entries 3) 1 ∧
        labelled entries (-2) = some (.bytes x) ∧ labelled entries (-3) = some (.bytes y) ∧
        point = 4 :: (x ++ y) := by
  refine ⟨fun x y entries width deep key count fits => ?_, fun cose point => ⟨fun read => ?_, ?_⟩⟩
  · obtain ⟨limit, rfl⟩ : ∃ n, limit = n + 2 := ⟨limit - 2, by omega⟩
    have encodes : Encodes (fun _ => False) (limit + 2) _ _ :=
      encodes_encodeMap count fits key.distinct
    have read := encodes.read (fun s => False.elim (C := utf8 _ = s)) (limit + 2) []
    rw [append_nil, within_pairs, unlessDeep, if_pos rfl] at read
    simp [parseCoseEc2PublicKey, read, readPoint, key.algorithm, CborValue.isInt]
  · unfold parseCoseEc2PublicKey at read
    split at read
    · cases read
    next entries rest decoded =>
      unfold readPoint at read
      split_ifs at read with differs
      simp only [Bool.or_eq_true, Bool.not_eq_true', not_or, Bool.not_eq_false] at differs
      split at read
      next x y abscissa ordinate =>
        cases read
        exact ⟨entries, rest, x, y, decoded, differs.1, differs.2, abscissa, ordinate, rfl⟩
      next => cases read
    · cases read
  · rintro ⟨entries, rest, x, y, decoded, kty, crv, abscissa, ordinate, rfl⟩
    simp only [parseCoseEc2PublicKey, decoded, readPoint, kty, crv, abscissa, ordinate]
    rfl

def plainKey : List Entry :=
  [⟨1, .int 2, .inline, .inline⟩, ⟨3, .int (-7), .inline, .inline⟩, ⟨-1, .int 1, .inline, .inline⟩,
    ⟨-2, .bytes (List.replicate 32 1), .inline, .one⟩, ⟨-3, .bytes (List.replicate 32 2), .inline, .one⟩]

/-- Whatever decodes texts, a genuine key is refused. -/
theorem plainKey_refused :
    Es256 (List.replicate 32 1) (List.replicate 32 2) plainKey ∧ ∀ utf8,
      parseCoseEc2PublicKey utf8 2 (encodeMap .inline plainKey) = .error onlyEs256 := by
  have key : Es256 (List.replicate 32 1) (List.replicate 32 2) plainKey := ⟨.refl _, rfl, rfl⟩
  have fits : ∀ e ∈ plainKey, e.Fits := by
    unfold Entry.Fits
    decide
  exact ⟨key, fun utf8 => (passkey_keys_read utf8 2).1 _ _ _ _ (by decide) key (by decide) fits⟩

/-- A genuine key is refused, and a map without a curve and with empty coordinates is accepted. -/
theorem genuine_key_refused :
    parseCoseEc2PublicKey (fun _ => "") 9 (encodeMap .inline plainKey) = .error onlyEs256 ∧
      parseCoseEc2PublicKey (fun _ => "") 9 (encodeMap .inline [⟨1, .int 2, .inline, .inline⟩,
        ⟨3, .int 1, .inline, .inline⟩, ⟨-2, .bytes [], .inline, .inline⟩,
        ⟨-3, .bytes [], .inline, .inline⟩]) = .ok [4] := by
  decide +kernel

/-- `bytes.decode("utf-8", errors="replace")`; what it makes of other bytes is left open. -/
def decodeText (replace : Bytes → String) (b : Bytes) : String := (Text.utf8Decode b).getD (replace b)

lemma decodeText_utf8Encode {replace} (s : String) :
    decodeText replace (Text.utf8Encode s.toList) = s := by
  rw [decodeText, Text.utf8Decode_utf8Encode, Option.getD_some, String.ofList_toList]

/-- Every encoding is read back, wherever it stands in the data, exactly if its value nests no deeper
than the interpreter recurses. -/
theorem encoded_value_read (replace : Bytes → String) (limit depth : ℕ) (value : CborValue)
    (p e q : Bytes) (encodes : Encodes (fun _ => True) depth value e) :
    cborValue (decodeText replace) limit ((p ++ e ++ q).drop p.length) =
      if value.within limit then .ok (value, (p ++ e ++ q).drop (p.length + e.length))
      else .error .recursion := by
  rw [← length_append, drop_left, append_assoc, drop_left]
  exact encodes.read (fun s _ => decodeText_utf8Encode s) limit q

/-- A map with a text as key and a list, whose number has a head of two bytes. -/
theorem encoded_map_read :
    cborValue (decodeText fun _ => "") 3 (([7] ++ [0xA1, 0x61, 0x6B, 0x81, 0x18, 5] ++ [9] :
        Bytes).drop 1) =
      .ok (.map [(.text "k", .list [.int 5])],
        ([7] ++ [0xA1, 0x61, 0x6B, 0x81, 0x18, 5] ++ [9] : Bytes).drop 7) :=
  encoded_value_read _ 3 3 (.map [(.text "k", .list [.int 5])]) [7] [0xA1, 0x61, 0x6B, 0x81, 0x18, 5]
    [9] ⟨.inline, [[0x61, 0x6B, 0x81, 0x18, 5]], by decide, by decide,
      .cons ⟨[0x61, 0x6B], [0x81, 0x18, 5], rfl, ⟨trivial, .inline, by decide, by decide⟩,
        .inline, [[0x18, 5]], by decide, .cons ⟨.one, by decide, rfl⟩ .nil, rfl⟩ .nil, rfl⟩

def nested : ℕ → CborValue
  | 0 => .int 0
  | n + 1 => .list [nested n]

lemma nested_deep (texts : String → Prop) (limit) :
    Encodes texts (limit + 1) (nested limit) (replicate limit 0x81 ++ [0]) ∧
      (nested limit).within limit = false := by
  induction limit with
  | zero => exact ⟨⟨.inline, by decide, rfl⟩, rfl⟩
  | succ limit ih =>
    refine ⟨⟨.inline, [replicate limit 0x81 ++ [0]], (show 1 < 24 by decide), .cons ih.1 .nil,
      by simp; rfl⟩, ?_⟩
    simp [nested, CborValue.within, ih.2]

/-- A list nested a thousand times, at the interpreter's default limit. -/
theorem deep_list_not_read :
    Encodes (fun _ => True) 1001 (nested 1000) (replicate 1000 0x81 ++ [0]) ∧
      cborValue (fun _ => "") 1000 (replicate 1000 0x81 ++ [0]) = .error .recursion := by
  refine ⟨(nested_deep _ 1000).1, ?_⟩
  obtain ⟨encodes, deep⟩ := nested_deep (fun _ => False) 1000
  have read : cborValue (fun _ => "") 1000 _ = _ := encodes.read (fun _ => False.elim) 1000 []
  rwa [append_nil, deep] at read

end Ghostlink.Portal
