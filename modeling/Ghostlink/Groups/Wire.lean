import Ghostlink.Base.Json
import Ghostlink.Groups.Frames
import Ghostlink.Groups.SenderKeys
import Ghostlink.Messaging.Handshake
import Mathlib.Data.List.Sort

/-! Everything of group messaging that travels: inner frames as JSON bytes and back, the public
bodies around sealed frames, and the relay's check of a forwarded envelope. Conversions between
Python's numbers and texts that go beyond integers come in as `WirePrimitives`. -/

namespace Ghostlink.Groups
open Collections Text
open Messaging (SessionPrimitives openSealed)

structure WirePrimitives extends Primitives where
  strOther : Json → String
  float : String → Option Seconds
  reprFloat : Seconds → String

def dumpsBytes (ascii : Bool) (fields : List (String × Json)) : Bytes :=
  utf8Encode (Json.dumps ascii (.obj fields))

def loadsBytes (data : Bytes) : Option Json := (utf8Decode data).bind fun s => Json.loads s.toList

def dictOf (fields : List (String × Json)) : Dict String Json :=
  fields.foldl (fun d field => d.set field.1 field.2) Dict.empty

namespace WirePrimitives
variable (W : WirePrimitives)

def str : Json → String
  | .str s => s
  | .int n => toString n
  | .bool b => if b then "True" else "False"
  | .null => "None"
  | v => W.strOther v

/-- `obj.get("v") == 1`, which also holds of `true` and of floats of that value. -/
def isOne : Json → Bool
  | .int n => n = 1
  | .bool b => b
  | .float literal => W.float literal = some 1
  | _ => false

end WirePrimitives

inductive FrameType
  | gmsg | gack | gread | gsk | gskreq
  deriving DecidableEq, Repr

namespace FrameType

def value : FrameType → String
  | .gmsg => "GMSG"
  | .gack => "GACK"
  | .gread => "GREAD"
  | .gsk => "GSK"
  | .gskreq => "GSKREQ"

def all : List FrameType := [.gmsg, .gack, .gread, .gsk, .gskreq]

def ofString? (s : String) : Option FrameType := all.find? fun t => t.value = s

def contextFields : List String := ["v", "t", "group", "epoch", "from", "to"]

def requiredFields (t : FrameType) : List String :=
  contextFields ++ match t with
    | .gmsg => ["id", "gseq", "name", "text", "ts"]
    | .gack => ["id"]
    | .gread => ["upto"]
    | .gsk => ["gen", "root", "index"]
    | .gskreq => []

end FrameType

structure GroupInnerFrame where
  frameType : FrameType
  groupId : GroupId
  epoch : ℤ
  sender : Fingerprint
  recipient : String
  messageId : String
  gseq : ℤ
  displayName : String
  text : String
  ts : Seconds
  gen : ℤ
  root : String
  index : ℤ
  deriving DecidableEq

def frameError (message hint : String) : GroupError :=
  { kind := .message, message, hint }

def hostileHint : String := "The sealed payload failed shape validation — treat as hostile."

def baseFields (t : FrameType) (group : GroupId) (epoch : ℕ) (sender recipient : String) :
    List (String × Json) :=
  [("v", .int 1), ("t", .str t.value), ("group", .str group.val), ("epoch", .int epoch),
    ("from", .str sender), ("to", .str recipient)]

def gmsgFields (W : WirePrimitives) (f : GmsgFields) : List (String × Json) :=
  baseFields .gmsg f.group f.epoch f.sender.val f.recipient ++
    [("id", .str f.id.val), ("gseq", .int f.gseq), ("name", .str f.name), ("text", .str f.text),
      ("ts", .float (W.reprFloat f.ts))]

def gmsgBytes (W : WirePrimitives) (f : GmsgFields) : Bytes :=
  dumpsBytes false (gmsgFields W f)

def requireEpoch (epoch : ℕ) : Except GroupError Unit :=
  if epoch < 1 then throw (frameError "Inner-frame epoch must be ≥ 1." "Epochs start at 1.")
  else pure ()

def gskFrame (group : GroupId) (epoch : ℕ) (sender recipient : Fingerprint) (gen : ℕ)
    (root : String) (index : ℕ) : Except GroupError Bytes := do
  requireEpoch epoch
  if gen < 1 then throw (frameError "GSK generation must be ≥ 1." "")
  if index < 1 then throw (frameError "GSK index must be ≥ 1." "")
  pure (dumpsBytes false (baseFields .gsk group epoch sender.val recipient.val ++
    [("gen", .int gen), ("root", .str root), ("index", .int index)]))

def gskreqFrame (group : GroupId) (epoch : ℕ) (sender recipient : Fingerprint) :
    Except GroupError Bytes := do
  requireEpoch epoch
  pure (dumpsBytes false (baseFields .gskreq group epoch sender.val recipient.val))

section Parsing
variable (W : WirePrimitives)

def intField (obj : Dict String Json) (field : String) : Option ℤ :=
  (obj.get? field).bind fun v => W.int (W.str v)

def strField (obj : Dict String Json) (field : String) : String :=
  ((obj.get? field).map W.str).getD ""

def floatField (obj : Dict String Json) (field : String) : Option Seconds :=
  (obj.get? field).bind fun v => W.float (W.str v)

def sortedNames (names : List String) : String :=
  ", ".intercalate (names.insertionSort fun a b => a ≤ b)

def parsePayload (obj : Dict String Json) (frame : GroupInnerFrame) :
    Except GroupError GroupInnerFrame := do
  match frame.frameType with
  | .gack =>
    if ¬ isValidMessageId (strField W obj "id") then
      throw (frameError "GACK message id is malformed." "")
    pure { frame with messageId := strField W obj "id" }
  | .gread =>
    match intField W obj "upto" with
    | none => throw (frameError "GREAD cursor is not an integer." "")
    | some upto =>
      if upto < 0 then throw (frameError "GREAD cursor must be ≥ 0." "")
      pure { frame with gseq := upto }
  | .gsk =>
    match intField W obj "gen", intField W obj "index" with
    | some gen, some index =>
      let root := strField W obj "root"
      if gen < 1 ∨ index < 1 then throw (frameError "GSK gen/index must be ≥ 1." "")
      if ¬ (0 < root.toList.length ∧ root.toList.length ≤ 128) then
        throw (frameError "GSK root is malformed." "")
      pure { frame with gen, root, index }
    | _, _ => throw (frameError "GSK gen/index are not integers." "")
  | .gskreq => pure frame
  | .gmsg =>
    if ¬ isValidMessageId (strField W obj "id") then
      throw (frameError "Inner-frame message id is malformed." "")
    match intField W obj "gseq", floatField W obj "ts" with
    | some gseq, some ts =>
      let name := strField W obj "name"
      let text := strField W obj "text"
      if name.toList.any isControl ∨ ¬ (0 < name.toList.length ∧ name.toList.length ≤ 24) then
        throw (frameError "Inner-frame display name is malformed." "")
      if text.utf8ByteSize > groupMsgMaxBytes then
        throw (frameError "Inner-frame text exceeds the byte ceiling." "")
      pure { frame with messageId := strField W obj "id", gseq, displayName := name,
                        text, ts }
    | _, _ => throw (frameError "Inner-frame gseq/ts are malformed." "")

def parseContext (obj : Dict String Json) (t : FrameType) : Except GroupError GroupInnerFrame := do
  match GroupId.ofString? (strField W obj "group") with
  | none => throw (frameError "Inner-frame group id is malformed." "")
  | some group =>
    match intField W obj "epoch" with
    | none => throw (frameError "Inner-frame epoch is not an integer." "")
    | some epoch =>
      if epoch < 1 then throw (frameError "Inner-frame epoch must be ≥ 1." "")
      let sender ← requireValidFingerprint W.toPrimitives (strField W obj "from")
        "sender fingerprint"
      let rawTo := strField W obj "to"
      let recipient ←
        if t = .gmsg ∧ rawTo = groupBroadcastRecipient then pure groupBroadcastRecipient
        else
          (requireValidFingerprint W.toPrimitives rawTo "recipient fingerprint").map Subtype.val
      pure { frameType := t, groupId := group, epoch, sender,
             recipient, messageId := "", gseq := 0, displayName := "", text := "",
             ts := 0, gen := 0, root := "", index := 0 }

def parseInnerFrame (data : Bytes) : Except GroupError GroupInnerFrame := do
  if data = [] ∨ data.length > groupMsgMaxBytes * 3 then
    throw (frameError "Decrypted inner frame is empty or oversized." hostileHint)
  match loadsBytes data with
  | none => throw (frameError "Decrypted inner frame is not valid JSON." hostileHint)
  | some (.obj fields) =>
    let obj := dictOf fields
    match FrameType.ofString? (strField W obj "t") with
    | none => throw (frameError "Unknown inner frame type." hostileHint)
    | some t =>
      let missing := t.requiredFields.filter fun field => !obj.contains field
      if missing ≠ [] ∨ ¬ (obj.get? "v").any W.isOne then
        let named := if missing = [] then "v" else sortedNames missing
        throw (frameError s!"Inner frame is missing field(s): {named}." hostileHint)
      let extra := obj.keys.filter fun field => field ∉ t.requiredFields
      if extra ≠ [] then
        let named := sortedNames extra
        throw (frameError s!"Inner frame carries unknown field(s): {named}." hostileHint)
      let frame ← parseContext W obj t
      parsePayload W obj frame
  | some _ => throw (frameError "Decrypted inner frame is not an object." hostileHint)

end Parsing

def skError (message hint : String) : SenderKeyError :=
  { kind := .senderKey, message, hint }

def b64text (bytes : Bytes) : Json := .str (String.ofList (Base64.encode bytes))

def skmsgBody (gen seq : ℕ) (sealed : Bytes) : Except SenderKeyError Bytes :=
  if gen < 1 ∨ seq < 1 then
    throw (skError "Sender-key gen/seq must be ≥ 1." "Malformed sender-key message.")
  else
    pure (dumpsBytes true [("g", .int gen), ("s", .int seq), ("f", b64text sealed)])

def skControlBody (gen : ℕ) (sealed : Bytes) : Except SenderKeyError Bytes :=
  if gen < 1 then throw (skError "Sender-key generation must be ≥ 1." "")
  else pure (dumpsBytes true [("g", .int gen), ("f", b64text sealed)])

def loadBody (data : Bytes) (body : String) : Except SenderKeyError (Dict String Json) :=
  match loadsBytes data with
  | none => throw (skError s!"Sender-key {body} body is not valid JSON."
      "Malformed sender-key frame.")
  | some (.obj fields) => pure (dictOf fields)
  | some _ => throw (skError s!"Sender-key {body} body is not an object." "")

def positiveField (obj : Dict String Json) (field : String) : Option ℕ :=
  match obj.get? field with
  | some (.int n) => if 1 ≤ n then some n.toNat else none
  | _ => none

def sealedField (obj : Dict String Json) (content : String) (maxSealed : ℕ) :
    Except SenderKeyError Bytes :=
  match obj.get? "f" with
  | some (.str frame) =>
    match Base64.decode frame.toList with
    | none => throw (skError s!"Sender-key {content} is not valid base64." "Malformed frame.")
    | some sealed =>
      if ¬ (0 < sealed.length ∧ sealed.length ≤ maxSealed) then
        throw (skError s!"Sender-key {content} has an invalid length." "Malformed frame.")
      else pure sealed
  | _ => throw (skError s!"Sender-key {content} is malformed." "")

def parseSkmsgBody (data : Bytes) (maxSealed : ℕ) : Except SenderKeyError (ℕ × ℕ × Bytes) := do
  let obj ← loadBody data "message"
  match positiveField obj "g" with
  | none => throw (skError "Sender-key generation is malformed." "")
  | some gen =>
    match positiveField obj "s" with
    | none => throw (skError "Sender-key index is malformed." "")
    | some seq =>
      let sealed ← sealedField obj "ciphertext" maxSealed
      pure (gen, seq, sealed)

def parseSkControlBody (data : Bytes) (maxSealed : ℕ) : Except SenderKeyError (ℕ × Bytes) := do
  let obj ← loadBody data "control"
  match positiveField obj "g" with
  | none => throw (skError "Sender-key generation is malformed." "")
  | some gen =>
    let sealed ← sealedField obj "distribution" maxSealed
    pure (gen, sealed)

inductive CryptoSuite
  | meshV1 | senderkeyV1
  deriving DecidableEq, Repr

def senderKeyPrimitives (S : SessionPrimitives) : SenderKeyPrimitives :=
  { hkdf := fun key info => S.hkdf key [] info, encrypt := S.encrypt }

def openMessage (S : SessionPrimitives) (messageKey : SecretKey) (sealed aad : Bytes) :
    Except SenderKeyError Bytes :=
  if sealed.length ≤ Messaging.nonceBytes then
    throw (skError "Sender-key payload is too short." "Truncated or corrupt frame.")
  else
    match openSealed S messageKey sealed aad with
    | .ok plaintext => pure plaintext
    | .error _ => throw (skError "Sender-key message integrity check failed."
        "The ciphertext was modified or the message key does not match.")

def kindKex : String := "kex"
def kindMsg : String := "msg"
def kindSk : String := "sk"
def kindSkmsg : String := "skmsg"

def groupForwardKinds : List String := [kindKex, kindMsg, kindSk, kindSkmsg]

def groupForwardBodyMax : ℕ := 6144
def groupKexBodyMax : ℕ := 2048
def groupForwardBodyB64Max : ℕ := 8240

structure GroupForward where
  group : String
  epoch : ℕ
  sender : String
  recipient : String
  kind : String
  body : String
  deriving DecidableEq

def packetInvalid (reason : String) : String := s!"Packet validation failed: {reason}."

def requireStr (value field : String) (maxLength : ℕ) : Except String Unit :=
  if 0 < value.toList.length ∧ value.toList.length ≤ maxLength then pure ()
  else throw (packetInvalid s!"'{field}' must be a string of 1..{maxLength} characters")

def isValidFingerprint (P : Primitives) (candidate : String) : Bool :=
  fullmatch fingerprintPattern (P.upper (strip candidate)).toList

def requireFingerprintField (P : Primitives) (value field : String) : Except String Unit := do
  requireStr value field 40
  if ¬ isValidFingerprint P value then
    throw (packetInvalid s!"'{field}' is not a valid GLFP fingerprint")

def requireB64 (value : String) (maxDecoded : ℕ) : Except String Unit :=
  match Base64.decode value.toList with
  | none => throw (packetInvalid "value must be base64")
  | some raw =>
    if 0 < raw.length ∧ raw.length ≤ maxDecoded then pure ()
    else throw (packetInvalid s!"value must decode to 1..{maxDecoded} bytes")

def validateGroupForward (P : Primitives) (p : GroupForward) : Except String Unit := do
  requireStr p.group "group" 64
  if ¬ isValidGroupId p.group then
    throw (packetInvalid "'group' is not a valid group identifier")
  if p.epoch < 1 then throw (packetInvalid "'epoch' must be an integer ≥ 1")
  requireFingerprintField P p.sender "from"
  requireFingerprintField P p.recipient "to"
  requireStr p.kind "kind" 8
  if p.kind ∉ groupForwardKinds then
    throw (packetInvalid "'kind' must be one of ['kex', 'msg', 'sk', 'skmsg']")
  requireStr p.body "body" groupForwardBodyB64Max
  requireB64 p.body
    (if p.kind = kindMsg ∨ p.kind = kindSkmsg then groupForwardBodyMax else groupKexBodyMax)

end Ghostlink.Groups
