import Ghostlink.Base.Text
import Mathlib.Data.Rat.Defs

/-! Identity material of groups: errors, group ids, key fingerprints and handles.
Hashing, signature verification, base64, full Unicode upper-casing and the reading of
numerals come in as `Primitives`, about which nothing is assumed here. -/

namespace Ghostlink.Groups
open Text

abbrev Bytes := List UInt8

abbrev Seconds := ℚ

structure Primitives where
  upper : String → String
  int : String → Option ℤ
  sha256 : Bytes → Vector UInt8 32
  ed25519Verify : Bytes → Bytes → ByteArray → Bool
  b64encode : ByteArray → String
  b64decode : String → Option Bytes

inductive GroupErrorKind
  | validation | unknown | full | permission | notMember | dissolved | state | epoch | conflict
  | message | assertion | defunct
  deriving DecidableEq, Repr

structure GroupError where
  kind : GroupErrorKind
  message : String
  hint : String
  deriving DecidableEq, Repr

def roomIdAlphabet : List Char := "ABCDEFGHJKLMNPQRSTUVWXYZ23456789".toList

def groupIdPattern : List (Char → Bool) :=
  let quad := List.replicate 4 roomIdAlphabet.contains
  lit "gl-group-" ++ quad ++ lit "-" ++ quad ++ lit "-" ++ quad

def isValidGroupId (candidate : String) : Bool := fullmatch groupIdPattern candidate.toList

abbrev GroupId := {s : String // isValidGroupId s = true}

def GroupId.ofString? (s : String) : Option GroupId :=
  if h : isValidGroupId s then some ⟨s, h⟩ else none

lemma GroupId.ofString?_val (g : GroupId) : GroupId.ofString? g.val = some g := by
  simp [ofString?, g.property]

lemma GroupId.ofString?_eq_some {s} {g : GroupId} (h : GroupId.ofString? s = some g) :
    g.val = s := by
  unfold ofString? at h
  split_ifs at h
  exact congrArg Subtype.val (Option.some.inj h).symm

lemma GroupId.bar_not_mem (g : GroupId) : '|' ∉ g.val.toList :=
  not_mem_of_fullmatch g.property (by decide)

def fingerprintPattern : List (Char → Bool) :=
  let quad := List.replicate 4 isHexUpper
  lit "GLFP-" ++ quad ++ lit "-" ++ quad ++ lit "-" ++ quad

/-- A fingerprint in the form `identity_fingerprint` produces; trimming and upper-casing
have no effect on it. -/
abbrev Fingerprint := {s : String // fullmatch fingerprintPattern s.toList = true}

def Fingerprint.ofString? (s : String) : Option Fingerprint :=
  if h : fullmatch fingerprintPattern s.toList then some ⟨s, h⟩ else none

lemma Fingerprint.bar_not_mem (f : Fingerprint) : '|' ∉ f.val.toList :=
  not_mem_of_fullmatch f.property (by decide)

def hiNibble (b : UInt8) : Fin 16 := ⟨b.toNat / 16, by have := b.toNat_lt; omega⟩

def loNibble (b : UInt8) : Fin 16 := ⟨b.toNat % 16, Nat.mod_lt _ (by decide)⟩

def hexPair (b : UInt8) : List Char := [hexUpper (hiNibble b), hexUpper (loNibble b)]

def fingerprintOfDigest (d : Vector UInt8 32) : Fingerprint :=
  ⟨String.ofList ("GLFP-".toList ++ (hexPair d[0] ++ hexPair d[1]) ++ ['-'] ++
      (hexPair d[2] ++ hexPair d[3]) ++ ['-'] ++ (hexPair d[4] ++ hexPair d[5])), by
    simp [fingerprintPattern, lit, hexPair, fullmatch, List.replicate, isHexUpper_hexUpper]⟩

def identityFingerprint (P : Primitives) (publicKey : Bytes) : Option Fingerprint :=
  if publicKey.length ≠ 32 then none else some (fingerprintOfDigest (P.sha256 publicKey))

def fingerprintForKeyHex (P : Primitives) (publicKeyHex : String) :
    Except GroupError Fingerprint :=
  match fromHex publicKeyHex with
  | none => .error ⟨.validation, "A member public key is not valid hex.",
      "Group keys are transmitted as 64 lowercase hex characters."⟩
  | some publicKey =>
    match identityFingerprint P publicKey with
    | none => .error ⟨.validation, "A member public key must decode to exactly 32 bytes.",
        "Group member keys are Ed25519 public keys."⟩
    | some fingerprint => .ok fingerprint

def requireValidFingerprint (P : Primitives) (candidate field : String) :
    Except GroupError Fingerprint :=
  match Fingerprint.ofString? (P.upper (strip candidate)) with
  | none => .error ⟨.validation, s!"The {field} '{candidate}' is malformed.",
      "Fingerprints look like GLFP-XXXX-XXXX-XXXX (hex groups)."⟩
  | some fingerprint => .ok fingerprint

def identityIdOfDigest (d : Vector UInt8 32) : String :=
  let value := (d[0].toNat * 65536 + d[1].toNat * 256 + d[2].toNat) % 2 ^ 20
  String.ofList ("GL-".toList ++
    [15, 10, 5, 0].map fun shift => roomIdAlphabet.getD ((value >>> shift) % 32) 'A')

def identityIdFor (P : Primitives) (publicKey : Bytes) : Option String :=
  if publicKey.length ≠ 32 then none else some (identityIdOfDigest (P.sha256 publicKey))

def isValidIdentityId (P : Primitives) (candidate : String) : Bool :=
  fullmatch (lit "GL-" ++ List.replicate 4 roomIdAlphabet.contains)
    (P.upper (strip candidate)).toList

def groupNameMaxLen : ℕ := 48
def groupDisplayNameMaxLen : ℕ := 24

def isControl (c : Char) : Bool := c.toNat < 32 || c.toNat == 127

def validateGroupName (name : String) : Except GroupError String :=
  let cleaned := strip name
  let n := cleaned.toList.length
  if ¬ (0 < n ∧ n ≤ groupNameMaxLen) then
    .error ⟨.validation, s!"A group name must be 1..{groupNameMaxLen} characters, got {n}.",
      "Pick a short printable name, e.g. --name NightWatch."⟩
  else if cleaned.toList.any isControl then
    .error ⟨.validation, "A group name must not contain control characters.",
      "Use plain printable text only."⟩
  else .ok cleaned

def validateGroupDisplayName (name field : String) : Except GroupError String :=
  let cleaned := strip name
  let n := cleaned.toList.length
  if ¬ (0 < n ∧ n ≤ groupDisplayNameMaxLen) then
    .error ⟨.validation, s!"A {field} must be 1..{groupDisplayNameMaxLen} characters.",
      "Pick a short printable name."⟩
  else if cleaned.toList.any isControl then
    .error ⟨.validation, s!"A {field} must not contain control characters.",
      "Use plain printable text only."⟩
  else .ok cleaned

lemma validateGroupDisplayName_of_ok {name field name'}
    (h : validateGroupDisplayName name field = .ok name') :
    validateGroupDisplayName name' field = .ok name' := by
  unfold validateGroupDisplayName at h ⊢
  dsimp only at h ⊢
  split_ifs at h with length printable
  cases h
  rw [strip_strip, if_neg (not_not.mpr length), if_neg printable]

end Ghostlink.Groups
