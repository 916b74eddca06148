import Ghostlink.Messaging.Frames
import Ghostlink.Transfer.Manager

/-! The frames of a file transfer: how a manifest, a chunk and a resume bitmap are put into a frame,
and how the receiver of an offer gets back to the manifest. -/

namespace Ghostlink.FileTransfer
open Text Messaging Collections Checks FileManifest
open Groups (dictOf dumpsBytes loadsBytes b64text)
open Frames (Frame Stamp FramePrimitives)

def generateTransferId (draw : Vector UInt8 4) : String := transferIdPrefix ++ toHex draw.toList

def guessMime (guessType : String → Option String) (filename : String) : String :=
  match guessType filename with
  | none => "application/octet-stream"
  | some guessed =>
    if guessed = "" then "application/octet-stream" else takeChars maxManifestMimeLength guessed

def FileManifest.toDict (m : FileManifest) : List (String × Json) :=
  [("v", .str m.protocol), ("id", .str m.transferId), ("name", .str m.filename),
    ("size", .int m.sizeBytes), ("mime", .str m.mime), ("cs", .int m.chunkSize),
    ("chunks", .int m.totalChunks), ("sha256", .str m.sha256)]

def FileManifest.toJson (m : FileManifest) : Bytes := dumpsBytes true m.toDict

def fileOfferFrame (stamp : Stamp) (transferId : String) (sealedManifest : Bytes) : Frame :=
  stamp.frame .fileOffer [("id", .str transferId), ("ct", b64text sealedManifest)]

def acceptFields (transferId : String) : Option String → List (String × Json)
  | none => [("id", .str transferId)]
  | some bitmap =>
    if bitmap = "" then [("id", .str transferId)]
    else [("id", .str transferId), ("bm", .str bitmap)]

def fileAcceptFrame (stamp : Stamp) (transferId : String) (bitmapB64 : Option String) : Frame :=
  stamp.frame .fileAccept (acceptFields transferId bitmapB64)

def fileChunkFrame (stamp : Stamp) (transferId : String) (n : ℕ) (sealedChunk : Bytes) : Frame :=
  stamp.frame .fileChunk [("id", .str transferId), ("n", .int n), ("ct", b64text sealedChunk)]

def manifestAad (transferId : String) : Bytes := utf8 (transferId ++ "|manifest")

section
variable (T : TransferPrimitives)

def sealManifest (key : Key) (nonce : Nonce) (transferId : String) (manifestJson : Bytes) : Bytes :=
  sealWith T.toSessionPrimitives key nonce manifestJson (manifestAad transferId)

def openManifest (key : Key) (transferId : String) (sealed : Bytes) : Except MessagingError Bytes :=
  openSealed T.toSessionPrimitives key sealed (manifestAad transferId)

def sealChunk (key : Key) (nonce : Nonce) (transferId : String) (n : ℕ) (plaintext : Bytes) :
    Bytes :=
  sealWith T.toSessionPrimitives key nonce plaintext (Reception.chunkAad transferId n)

def offerFrame (key : Key) (nonce : Nonce) (stamp : Stamp) (m : FileManifest) : Frame :=
  fileOfferFrame stamp m.transferId (sealManifest T key nonce m.transferId m.toJson)

def chunkFrame (key : Key) (nonce : Nonce) (stamp : Stamp) (transferId : String) (n : ℕ)
    (data : Bytes) : Frame :=
  fileChunkFrame stamp transferId n (sealChunk T key nonce transferId n data)

def bitmapFrame (stamp : Stamp) (transferId : String) (bitmap : ChunkBitmap) : Frame :=
  fileAcceptFrame stamp transferId (if bitmap.count ≠ 0 then some bitmap.toB64 else none)

end

inductive ConversionError
  | refused (text : String)
  | overflow (text : String)
  deriving DecidableEq, Repr

structure DocumentPrimitives where
  str : Json → String
  int : Json → Except ConversionError ℤ

inductive ManifestError
  | transfer (error : TransferError)
  | overflow (text : String)
  deriving DecidableEq, Repr

def mistyped (text : String) : ManifestError :=
  .transfer (rejected s!"manifest is missing or mis-typing fields ({text})")

def member (document : Dict String Json) (key : String) : Except ManifestError Json :=
  match document.get? key with
  | some value => .ok value
  | none => .error (mistyped s!"'{key}'")

section
variable (C : DocumentPrimitives)

def toStr : Json → String
  | .str s => s
  | v => C.str v

def toInt : Json → Except ManifestError ℤ
  | .int n => .ok n
  | v =>
    match C.int v with
    | .ok n => .ok n
    | .error (.refused text) => .error (mistyped text)
    | .error (.overflow text) => .error (.overflow text)

def textMember (document : Dict String Json) (key : String) : Except ManifestError String := do
  let value ← member document key
  pure (toStr C value)

def countMember (document : Dict String Json) (key : String) : Except ManifestError ℤ := do
  let value ← member document key
  toInt C value

def manifestDocument (raw : Bytes) : Except ManifestError (Dict String Json) :=
  match loadsBytes raw with
  | none => .error (.transfer
      { kind := .validation, message := "The sealed manifest is not valid JSON."
        hint := some "The peer is not running transfer protocol gf1." })
  | some (.obj fields) => .ok (dictOf fields)
  | some _ => .error (.transfer (rejected "manifest must be a JSON object"))

def ParsedManifest.fromJson (raw : Bytes) : Except ManifestError ParsedManifest := do
  let document ← manifestDocument raw
  let protocol ← textMember C document "v"
  let transferId ← textMember C document "id"
  let filename ← textMember C document "name"
  let sizeBytes ← countMember C document "size"
  let mime ← textMember C document "mime"
  let chunkSize ← countMember C document "cs"
  let totalChunks ← countMember C document "chunks"
  let sha256 ← textMember C document "sha256"
  pure { protocol, transferId, filename
         sizeBytes, mime, chunkSize, totalChunks
         sha256 }

end

inductive OfferVerdict
  | answered (code message : String)
  | raised (error : ManifestError)
  | read (manifest : ParsedManifest)
  deriving DecidableEq, Repr

section
variable (T : TransferPrimitives) (C : DocumentPrimitives)

def frameText (frame : Frame) (field : String) : String :=
  toStr C ((frame.data.get? field).getD .null)

def offerBytes (frame : Frame) : Except ManifestError Bytes :=
  match Base64.decode (frameText C frame "ct").toList with
  | some sealed => .ok sealed
  | none => .error (.transfer
      { kind := .validation
        message := "Frame " ++ frame.type.value ++ " carried invalid base64 in 'ct'."
        hint := some "The secure-channel codec should have rejected this frame." })

def judgeManifest (l : FileManifest.Limits) (manifestJson : Bytes) : OfferVerdict :=
  match ParsedManifest.fromJson C manifestJson with
  | .error (.overflow text) => .raised (.overflow text)
  | .error (.transfer e) => .answered "manifest" (takeChars 120 e.message)
  | .ok m =>
    match m.validate T l with
    | .error e => .answered "manifest" (takeChars 120 e.message)
    | .ok () => .read m

/-- `_on_offer` for a transfer that is not known yet, with the key derived for it. -/
def inspectOffer (l : FileManifest.Limits) (key : Key) (frame : Frame) : OfferVerdict :=
  let transferId := frameText C frame "id"
  if isValidTransferId T transferId = false then
    .answered "invalid_transfer" "malformed transfer id"
  else
    match offerBytes C frame with
    | .error e => .raised e
    | .ok sealed =>
      match openManifest T key transferId sealed with
      | .error _ => .answered "integrity" "offer failed its integrity check"
      | .ok manifestJson => judgeManifest T C l manifestJson

end

lemma fromJson_toJson (C) (m : FileManifest) :
    ParsedManifest.fromJson C m.toJson = .ok m.parsed := by
  have distinct : (m.toDict.map Prod.fst).Nodup := by
    simp only [toDict, List.map_cons, List.map_nil]
    decide
  have plain : ∀ field ∈ m.toDict, Json.Plain field.2 := by
    intro field mem
    simp only [toDict, List.mem_cons, List.not_mem_nil, or_false] at mem
    rcases mem with rfl | rfl | rfl | rfl | rfl | rfl | rfl | rfl
    all_goals first | trivial | exact Int.natCast_nonneg _
  have nonempty : m.toDict ≠ [] := List.cons_ne_nil _ _
  have document : manifestDocument m.toJson = .ok (dictOf m.toDict) := by
    rw [manifestDocument, toJson, loadsBytes, dumpsBytes, utf8Decode_utf8Encode,
      Option.bind_some, String.toList_ofList, Json.loads_obj true nonempty plain]
  have text {key s : String} (mem : (key, Json.str s) ∈ m.toDict) :
      textMember C (dictOf m.toDict) key = .ok s := by
    rw [textMember, member, Groups.get?_dictOf distinct mem]
    rfl
  have count {key : String} {n : ℕ} (mem : (key, Json.int n) ∈ m.toDict) :
      countMember C (dictOf m.toDict) key = .ok n := by
    rw [countMember, member, Groups.get?_dictOf distinct mem]
    rfl
  simp only [ParsedManifest.fromJson, document, bind_eq_ok, pure_eq_ok]
  exact ⟨_, rfl, _, text (by simp [toDict]), _, text (by simp [toDict]),
    _, text (by simp [toDict]), _, count (by simp [toDict]),
    _, text (by simp [toDict]), _, count (by simp [toDict]),
    _, count (by simp [toDict]), _, text (by simp [toDict]), rfl⟩

end Ghostlink.FileTransfer
