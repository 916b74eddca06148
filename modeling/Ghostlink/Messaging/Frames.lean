import Ghostlink.Groups.WireReadback

/-! The frames of the secure channel: JSON documents that both ends check in the same way before
they are sent and after they have arrived. A float is known by what its literal reads as, and
Python's conversions between the two come in as `FramePrimitives`. -/

namespace Ghostlink.Frames
open Collections Text Checks String Groups
open Groups (dictOf dumpsBytes loadsBytes)
open Json (dumps quote)

abbrev Bytes := List UInt8

inductive Number
  | finite (value : ℚ)
  | infinity
  | negInfinity
  | nan
  deriving DecidableEq, Repr

def Number.positive : Number → Bool
  | .finite value => decide (0 < value)
  | .infinity => true
  | _ => false

structure FramePrimitives where
  float : String → Number
  reprFloat : Number → String
  ofInt : ℤ → Option Number
  repr : Json → String

def frameVersion : ℤ := 1
def maxFrameBytes : ℕ := 8192
def maxMessageIdLength : ℕ := 32
def maxKeyHexLength : ℕ := 64
def maxHelloNonceHex : ℕ := 32
def maxProofB64Length : ℕ := 128
def maxCiphertextB64Length : ℕ := 4096
def maxErrorMessageLength : ℕ := 256
def maxPeerNameLength : ℕ := 24
def maxTransferIdLength : ℕ := 24
def maxOfferB64Length : ℕ := 1200
def maxChunkB64Length : ℕ := 5600
def maxBitmapB64Length : ℕ := 5600
def maxCancelReasonLength : ℕ := 64

inductive FrameType
  | kexHello | kexReply | message | messageAck | readReceipt | typingStart | typingStop | error
  | fileOffer | fileAccept | fileReject | fileChunk | fileAck | filePause | fileResume | fileCancel
  | fileComplete | fileError
  deriving DecidableEq, Repr

namespace FrameType

def value : FrameType → String
  | .kexHello => "KEX_HELLO"
  | .kexReply => "KEX_REPLY"
  | .message => "MESSAGE"
  | .messageAck => "MESSAGE_ACK"
  | .readReceipt => "READ_RECEIPT"
  | .typingStart => "TYPING_START"
  | .typingStop => "TYPING_STOP"
  | .error => "ERROR"
  | .fileOffer => "FILE_OFFER"
  | .fileAccept => "FILE_ACCEPT"
  | .fileReject => "FILE_REJECT"
  | .fileChunk => "FILE_CHUNK"
  | .fileAck => "FILE_ACK"
  | .filePause => "FILE_PAUSE"
  | .fileResume => "FILE_RESUME"
  | .fileCancel => "FILE_CANCEL"
  | .fileComplete => "FILE_COMPLETE"
  | .fileError => "FILE_ERROR"

def all : List FrameType :=
  [.kexHello, .kexReply, .message, .messageAck, .readReceipt, .typingStart, .typingStop, .error,
    .fileOffer, .fileAccept, .fileReject, .fileChunk, .fileAck, .filePause, .fileResume,
    .fileCancel, .fileComplete, .fileError]

def ofValue (text : String) : Option FrameType := all.find? fun type => type.value = text

end FrameType

inductive ErrorKind
  | messageValidation
  | overflow
  deriving DecidableEq, Repr

structure FrameError where
  kind : ErrorKind
  message : String
  hint : String
  deriving DecidableEq, Repr

structure Frame where
  type : FrameType
  data : Dict String Json
  sequence : ℤ := 0
  frameId : String
  sentAt : Number

def failure (reason : String) : FrameError :=
  ⟨.messageValidation, s!"Frame validation failed: {reason}.",
    "The peer sent a secure-channel frame outside protocol v1."⟩

abbrev Data := Dict String Json

def mustBeString (field : String) (maxLength : ℕ) : FrameError :=
  failure s!"'{field}' must be a string of 1..{maxLength} characters"

def requireStr (data : Data) (field : String) (maxLength : ℕ) : Except FrameError String :=
  match data.get? field with
  | some (.str value) =>
    if 0 < value.length ∧ value.length ≤ maxLength then .ok value
    else .error (mustBeString field maxLength)
  | _ => .error (mustBeString field maxLength)

def requireInt (data : Data) (field : String) (minimum : ℤ) : Except FrameError Unit :=
  match data.get? field with
  | some (.int value) =>
    if minimum ≤ value then .ok ()
    else .error (failure s!"'{field}' must be an integer ≥ {minimum}")
  | _ => .error (failure s!"'{field}' must be an integer ≥ {minimum}")

def requireHex (data : Data) (field : String) (lengthHex : ℕ) : Except FrameError Unit :=
  match data.get? field with
  | some (.str value) =>
    if value.length ≠ lengthHex then
      .error (failure s!"'{field}' must be {lengthHex} hex characters")
    else if (fromHex value).isNone then .error (failure s!"'{field}' is not hexadecimal")
    else .ok ()
  | _ => .error (failure s!"'{field}' must be {lengthHex} hex characters")

def requireB64 (data : Data) (field : String) (maxLength : ℕ) : Except FrameError Unit := do
  let value ← requireStr data field maxLength
  if (Base64.decode value.toList).isNone then throw (failure s!"'{field}' must be base64")

def isControl (c : Char) : Bool := c.toNat < 32 || c.toNat == 127

def requireOptionalName (data : Data) : Except FrameError Unit :=
  match data.get? "name" with
  | none => .ok ()
  | some .null => .ok ()
  | some (.str value) =>
    if ¬ (0 < value.length ∧ value.length ≤ maxPeerNameLength) then
      .error (mustBeString "name" maxPeerNameLength)
    else if value.toList.any isControl then .error (failure "'name' must be printable text")
    else .ok ()
  | _ => .error (mustBeString "name" maxPeerNameLength)

def requireOptionalIdpub (data : Data) : Except FrameError Unit :=
  match data.get? "idpub" with
  | none => .ok ()
  | some .null => .ok ()
  | _ => requireHex data "idpub" maxKeyHexLength

def requireTransferId (data : Data) : Except FrameError Unit :=
  let wrong := failure s!"transfer 'id' must be a string of 1..{maxTransferIdLength} characters"
  match data.get? "id" with
  | some (.str value) =>
    if 1 ≤ value.length ∧ value.length ≤ maxTransferIdLength then .ok () else .error wrong
  | _ => .error wrong

def requireOptionalReason (data : Data) : Except FrameError Unit :=
  match data.get? "reason" with
  | none => .ok ()
  | some .null => .ok ()
  | some (.str value) =>
    if 0 < value.length ∧ value.length ≤ maxCancelReasonLength then .ok ()
    else .error (mustBeString "reason" maxCancelReasonLength)
  | _ => .error (mustBeString "reason" maxCancelReasonLength)

def requireOptionalBitmap (data : Data) : Except FrameError Unit :=
  let long := failure s!"'bm' must be at most {maxBitmapB64Length} characters"
  match data.get? "bm" with
  | none => .ok ()
  | some .null => .ok ()
  | some (.str value) =>
    if maxBitmapB64Length < value.length then .error long
    else if (Base64.decode value.toList).isNone then .error (failure "'bm' must be base64")
    else .ok ()
  | _ => .error long

def requireOnly (data : Data) (type : FrameType) (fields : List String) (listed : String) :
    Except FrameError Unit :=
  if data.keys.all fields.contains then .ok ()
  else .error (failure ("'data' for " ++ type.value ++ " must hold " ++ listed ++ " only"))

def requireTransfer (data : Data) (type : FrameType) : Except FrameError Unit := do
  requireTransferId data
  match type with
  | .fileOffer => requireB64 data "ct" maxOfferB64Length
  | .fileAccept => requireOptionalBitmap data
  | .fileReject => requireOptionalReason data
  | .fileChunk =>
    requireInt data "n" 1
    requireB64 data "ct" maxChunkB64Length
  | .fileAck => requireInt data "n" 1
  | .filePause => requireOnly data type ["id"] "'id'"
  | .fileResume => requireOnly data type ["id"] "'id'"
  | .fileCancel =>
    requireOptionalReason data
    requireOnly data type ["id", "reason"] "'id'/'reason'"
  | .fileComplete => requireHex data "sha256" 64
  | .fileError =>
    let _ ← requireStr data "code" 64
    let _ ← requireStr data "message" maxErrorMessageLength
    requireOnly data type ["id", "code", "message"] "'id'/'code'/'message'"
  | _ => pure ()

def requireKex (data : Data) : Except FrameError Unit := do
  requireHex data "pub" maxKeyHexLength
  requireHex data "nonce" maxHelloNonceHex

def validateData (type : FrameType) (data : Data) : Except FrameError Unit := do
  match type with
  | .kexHello =>
    requireKex data
    requireOptionalName data
    requireOptionalIdpub data
  | .kexReply =>
    requireKex data
    requireB64 data "proof" maxProofB64Length
    requireOptionalName data
    requireOptionalIdpub data
  | .message =>
    let _ ← requireStr data "id" maxMessageIdLength
    requireB64 data "ct" maxCiphertextB64Length
  | .messageAck =>
    let _ ← requireStr data "id" maxMessageIdLength
    requireInt data "ack" 0
  | .readReceipt => requireInt data "up_to" 0
  | .error =>
    let _ ← requireStr data "code" 64
    let _ ← requireStr data "message" maxErrorMessageLength
  | .typingStart =>
    if data.entries.isEmpty = false then
      throw (failure "'data' for TYPING_START must be empty")
  | .typingStop =>
    if data.entries.isEmpty = false then throw (failure "'data' for TYPING_STOP must be empty")
  | _ => requireTransfer data type

def validateFrame (type : FrameType) (sequence : ℤ) (data : Data) : Except FrameError Unit := do
  if sequence < 0 then throw (failure "'seq' must be an integer ≥ 0")
  validateData type data

section
variable (F : FramePrimitives)

def Frame.toDict (f : Frame) : List (String × Json) :=
  [("v", .int frameVersion), ("t", .str f.type.value), ("seq", .int f.sequence),
    ("id", .str f.frameId), ("ts", .float (F.reprFloat f.sentAt)), ("data", .obj f.data.entries)]

def encodeFrame (f : Frame) : Except FrameError Bytes := do
  validateFrame f.type f.sequence f.data
  let encoded := dumpsBytes true (f.toDict F)
  if maxFrameBytes < encoded.length then
    throw (failure s!"encoded frame exceeds {maxFrameBytes} bytes")
  pure encoded

/-- `document.get("v") == 1`, which also holds of `true` and of a float of that value. -/
def isVersion : Option Json → Bool
  | some (.int n) => n = frameVersion
  | some (.bool b) => b
  | some (.float literal) => F.float literal = .finite 1
  | _ => false

def readType (v : Option Json) : Except FrameError FrameType :=
  let unknown := failure ("unknown frame type " ++ F.repr (v.getD .null))
  match v with
  | some (.str text) =>
    match FrameType.ofValue text with
    | some type => .ok type
    | none => .error unknown
  | _ => .error unknown

def readSequence : Option Json → Except FrameError ℤ
  | some (.int n) => if 0 ≤ n then .ok n else .error (failure "'seq' must be an integer ≥ 0")
  | _ => .error (failure "'seq' must be an integer ≥ 0")

def readFrameId : Option Json → Except FrameError String
  | some (.str text) =>
    if 1 ≤ text.length ∧ text.length ≤ 16 then .ok text
    else .error (failure "'id' must be a short string")
  | _ => .error (failure "'id' must be a short string")

def requireSentAt (v : Option Json) : Except FrameError Unit :=
  let wrong := failure "'ts' must be a positive timestamp"
  match v with
  | some (.int n) => if 0 < n then .ok () else .error wrong
  | some (.float literal) => if (F.float literal).positive then .ok () else .error wrong
  | _ => .error wrong

def toFloat : Option Json → Except FrameError Number
  | some (.int n) =>
    match F.ofInt n with
    | some t => .ok t
    | none => .error ⟨.overflow, "int too large to convert to float", ""⟩
  | some (.float literal) => .ok (F.float literal)
  | _ => .ok .nan

def readData : Option Json → Except FrameError Data
  | some (.obj fields) => .ok (dictOf fields)
  | _ => .error (failure "'data' must be an object")

def readDocument (raw : Bytes) : Except FrameError (List (String × Json)) :=
  match loadsBytes raw with
  | none => .error ⟨.messageValidation, "Inbound frame is not valid JSON.",
      "The peer sent bytes outside the secure-channel protocol."⟩
  | some (.obj fields) => .ok fields
  | some _ => .error (failure "frame must be a JSON object")

def decodeFrame (raw : Bytes) : Except FrameError Frame := do
  if maxFrameBytes < raw.length then
    throw (failure s!"inbound frame exceeds {maxFrameBytes} bytes")
  let fields ← readDocument raw
  let document := dictOf fields
  if isVersion F (document.get? "v") = false then throw (failure "unsupported frame version")
  let type ← readType F (document.get? "t")
  let sequence ← readSequence (document.get? "seq")
  let frameId ← readFrameId (document.get? "id")
  requireSentAt F (document.get? "ts")
  let data ← readData (document.get? "data")
  validateFrame type sequence data
  let sentAt ← toFloat F (document.get? "ts")
  pure { type, data, sequence, frameId, sentAt }

end

/-- A positive time whose literal has digits on both sides of the point and is read back. No
literal of a float has more than twenty-four characters. -/
structure FramePrimitives.Readable (F : FramePrimitives) (t : Number) : Prop where
  literal : Json.Decimal (F.reprFloat t)
  reads : F.float (F.reprFloat t) = t
  positive : t.positive
  short : utf8Length (F.reprFloat t).toList ≤ 24

lemma FrameType.ofValue_value (type : FrameType) : ofValue type.value = some type := by
  cases type <;> decide

variable {f : Frame} {raw bytes : Bytes} {name : String}

lemma encodeFrame_eq_ok {F} :
    encodeFrame F f = .ok raw ↔ validateFrame f.type f.sequence f.data = .ok () ∧
      (dumpsBytes true (f.toDict F)).length ≤ maxFrameBytes ∧
      dumpsBytes true (f.toDict F) = raw := by
  simp only [encodeFrame, bind_eq_ok, refuse_eq_ok, pure_eq_ok, not_lt]
  constructor
  · rintro ⟨_, valid, fits, same⟩
    exact ⟨valid, fits, same⟩
  · rintro ⟨valid, fits, same⟩
    exact ⟨(), valid, fits, same⟩

lemma dictOf_data (data : Data) : dictOf data.entries = data := by
  have same : (dictOf data.entries).entries = data.entries := dictOf_entries data.nodup
  obtain ⟨entries, nodup⟩ := data
  exact (Dict.mk.injEq ..).mpr same

variable {data : Data}

lemma nonneg_of_validateFrame {type sequence}
    (valid : validateFrame type sequence data = .ok ()) : 0 ≤ sequence := by
  by_contra negative
  rw [validateFrame, if_pos (not_le.mp negative)] at valid
  cases valid

lemma decodeFrame_encodeFrame {F : FramePrimitives} (encoded : encodeFrame F f = .ok raw)
    (short : 1 ≤ f.frameId.length ∧ f.frameId.length ≤ 16) (time : F.Readable f.sentAt)
    (plain : ∀ field ∈ f.data.entries, Json.Plain field.2) : decodeFrame F raw = .ok f := by
  obtain ⟨valid, fits, rfl⟩ := encodeFrame_eq_ok.mp encoded
  have natural := nonneg_of_validateFrame valid
  have readable : ∀ field ∈ f.toDict F, Json.Plain field.2 := by
    intro field mem
    simp only [Frame.toDict, List.mem_cons, List.not_mem_nil, or_false] at mem
    rcases mem with rfl | rfl | rfl | rfl | rfl | rfl
    · exact (by decide : (0 : ℤ) ≤ 1)
    · trivial
    · exact natural
    · trivial
    · exact time.literal
    · exact Json.plain_obj.mpr plain
  have nonempty : f.toDict F ≠ [] := List.cons_ne_nil _ _
  have document : readDocument (dumpsBytes true (f.toDict F)) = .ok (f.toDict F) := by
    rw [readDocument, loadsBytes, dumpsBytes, utf8Decode_utf8Encode, Option.bind_some,
      toList_ofList, Json.loads_obj true nonempty readable]
  have distinct : ((f.toDict F).map Prod.fst).Nodup := by
    simp only [Frame.toDict, List.map_cons, List.map_nil]
    decide
  have field {name : String} {v : Json} (mem : (name, v) ∈ f.toDict F) :
      (dictOf (f.toDict F)).get? name = some v := get?_dictOf distinct mem
  have version : (dictOf (f.toDict F)).get? "v" = some (.int frameVersion) :=
    field (by simp [Frame.toDict])
  have type : (dictOf (f.toDict F)).get? "t" = some (.str f.type.value) :=
    field (by simp [Frame.toDict])
  have sequence : (dictOf (f.toDict F)).get? "seq" = some (.int f.sequence) :=
    field (by simp [Frame.toDict])
  have id : (dictOf (f.toDict F)).get? "id" = some (.str f.frameId) :=
    field (by simp [Frame.toDict])
  have ts : (dictOf (f.toDict F)).get? "ts" = some (.float (F.reprFloat f.sentAt)) :=
    field (by simp [Frame.toDict])
  have data : (dictOf (f.toDict F)).get? "data" = some (.obj f.data.entries) :=
    field (by simp [Frame.toDict])
  have positive : (F.float (F.reprFloat f.sentAt)).positive := by
    rw [time.reads]
    exact time.positive
  rw [decodeFrame, refuse_eq_ok]
  refine ⟨not_lt.mpr fits, ?_⟩
  simp only [document, bind_eq_ok, refuse_eq_ok, pure_eq_ok]
  refine ⟨f.toDict F, rfl, ?_⟩
  rw [version, type, sequence, id, ts, data]
  refine ⟨Bool.noConfusion, f.type, ?_, f.sequence, if_pos natural, f.frameId, if_pos short, (),
    if_pos positive, f.data, congrArg Except.ok (dictOf_data f.data), (), valid, f.sentAt,
    congrArg Except.ok time.reads, rfl⟩
  rw [readType, FrameType.ofValue_value]

structure Stamp where
  draw : Vector UInt8 6
  sentAt : Number

def Stamp.frame (stamp : Stamp) (type : FrameType) (fields : List (String × Json)) : Frame :=
  { type, data := dictOf fields, frameId := toHex stamp.draw.toList
    sentAt := stamp.sentAt }

def Frame.Passes (F : FramePrimitives) (f : Frame) : Prop :=
  ∃ raw, encodeFrame F f = .ok raw ∧ decodeFrame F raw = .ok f

section
variable {F : FramePrimitives} {stamp : Stamp} (time : F.Readable stamp.sentAt)
  {type : FrameType} {fields : List (String × Json)}
  (distinct : (fields.map Prod.fst).Nodup)

lemma length_frameId (stamp : Stamp) : (toHex stamp.draw.toList).length = 12 := by
  rw [length_toHex, Vector.length_toList]

include time distinct in
lemma length_stamped_le : (dumpsBytes true ((stamp.frame type fields).toDict F)).length ≤
      93 + utf8Length (dumps true (.obj fields)) := by
  have nonempty : (stamp.frame type fields).toDict F ≠ [] := List.cons_ne_nil _ _
  have data : (dictOf fields).entries = fields := dictOf_entries distinct
  have kind : utf8Length (dumps true (.str type.value)) ≤ 15 := by
    cases type <;> decide
  have id : utf8Length (dumps true (.str (toHex stamp.draw.toList))) = 14 := by
    rw [dumps, Json.utf8Length_quote_plain fun c mem => plain_of_mem_toHex mem,
      length_toList, length_frameId]
  have ts : utf8Length (dumps true (.float (F.reprFloat stamp.sentAt))) ≤ 24 := by
    rw [dumps]
    exact time.short
  rw [length_dumpsBytes, Json.utf8Length_obj nonempty]
  simp only [Frame.toDict, List.map_cons, List.map_nil, List.sum_cons, List.sum_nil,
    Json.fieldSize, data, Stamp.frame, id,
    show utf8Length (quote true "v") = 3 from rfl,
    show utf8Length (quote true "t") = 3 from rfl,
    show utf8Length (quote true "seq") = 5 from rfl,
    show utf8Length (quote true "id") = 4 from rfl,
    show utf8Length (quote true "ts") = 4 from rfl,
    show utf8Length (quote true "data") = 6 from rfl,
    show utf8Length (dumps true (.int frameVersion)) = 1 from rfl,
    show utf8Length (dumps true (.int 0)) = 1 from rfl]
  omega

lemma validateData_of_passes (passes : (stamp.frame type fields).Passes F) :
    validateData type (dictOf fields) = .ok () := by
  obtain ⟨raw, encoded, -⟩ := passes
  exact (encodeFrame_eq_ok.mp encoded).1

include time distinct in
lemma passes_stamped (plain : ∀ field ∈ fields, Json.Plain field.2)
    (room : utf8Length (dumps true (.obj fields)) ≤ 8000)
    (valid : validateData type (dictOf fields) = .ok ()) : (stamp.frame type fields).Passes F := by
  have fits : (dumpsBytes true ((stamp.frame type fields).toDict F)).length ≤ maxFrameBytes := by
    have size : (dumpsBytes true ((stamp.frame type fields).toDict F)).length ≤
        93 + utf8Length (dumps true (.obj fields)) := length_stamped_le time distinct
    have limit : maxFrameBytes = 8192 := rfl
    omega
  have valid : validateFrame type 0 (dictOf fields) = .ok () := valid
  have encoded : encodeFrame F (stamp.frame type fields) = .ok _ :=
    encodeFrame_eq_ok.mpr ⟨valid, fits, rfl⟩
  have id := length_frameId stamp
  refine ⟨_, encoded, decodeFrame_encodeFrame encoded ?_ time ?_⟩
  · show 1 ≤ (toHex stamp.draw.toList).length ∧ (toHex stamp.draw.toList).length ≤ 16
    omega
  · intro field mem
    exact plain field (dictOf_entries distinct ▸ mem)

end

lemma requireTransferId_eq {id : String} (field : data.get? "id" = some (.str id))
    (length : 1 ≤ id.length ∧ id.length ≤ maxTransferIdLength) :
    requireTransferId data = .ok () := by
  rw [requireTransferId, field]
  exact if_pos length

lemma requireInt_eq {n minimum} (field : data.get? name = some (.int n)) (least : minimum ≤ n) :
    requireInt data name minimum = .ok () := by
  rw [requireInt, field]
  exact if_pos least

lemma requireB64_iff {maxLength}
    (field : data.get? name = some (b64text bytes)) (nonempty : 0 < bytes.length) :
    requireB64 data name maxLength = .ok () ↔ 4 * ((bytes.length + 2) / 3) ≤ maxLength := by
  have length : (ofList (Base64.encode bytes)).length = 4 * ((bytes.length + 2) / 3) := by
    rw [length_ofList, Base64.length_encode]
  have decodes : (Base64.decode (ofList (Base64.encode bytes)).toList).isNone = false := by
    simp [toList_ofList, Base64.decode_encode]
  rw [requireB64, requireStr, field, b64text]
  simp only [length]
  by_cases short : 4 * ((bytes.length + 2) / 3) ≤ maxLength
  · have both : 0 < 4 * ((bytes.length + 2) / 3) ∧ 4 * ((bytes.length + 2) / 3) ≤ maxLength :=
      ⟨by omega, short⟩
    rw [if_pos both]
    refine iff_of_true (bind_eq_ok.mpr ⟨_, rfl, throw_if_eq_ok.mpr ?_⟩) short
    rw [decodes]
    exact Bool.false_ne_true
  · rw [if_neg fun both => short both.2]
    refine iff_of_false ?_ short
    intro passes
    cases passes

lemma requireOptionalBitmap_eq (field : data.get? "bm" = some (.str (ofList (Base64.encode bytes))))
    (short : 4 * ((bytes.length + 2) / 3) ≤ maxBitmapB64Length) :
    requireOptionalBitmap data = .ok () := by
  have fits : ¬ maxBitmapB64Length < (ofList (Base64.encode bytes)).length := by
    rw [length_ofList, Base64.length_encode]
    exact not_lt.mpr short
  have decodes : ¬ (Base64.decode (ofList (Base64.encode bytes)).toList).isNone := by
    rw [toList_ofList, Base64.decode_encode]
    exact Bool.false_ne_true
  rw [requireOptionalBitmap, field]
  simp only [if_neg fits, if_neg decodes]

end Ghostlink.Frames
