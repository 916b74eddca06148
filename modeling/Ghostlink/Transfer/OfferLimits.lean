import Ghostlink.Transfer.Offer
import Ghostlink.Transfer.SafeNames

/-! Which of the sends that `send_file` accepts reach the peer's check of the manifest. A name is
bounded in characters, and the offer that carries it in the bytes of its escaped, sealed and encoded
form; chunks and bitmaps have limits of their own. -/

namespace Ghostlink.FileTransfer
open Text Messaging Collections Checks Json FileManifest Vector Base64
open Groups (dictOf b64text)
open Frames (Frame Stamp FramePrimitives)
open Frames (maxOfferB64Length validateData requireTransfer requireB64_iff encodeFrame mustBeString
  validateFrame)
open List (cons_ne_nil map_cons sum_cons mem_cons_self map_nil sum_nil)
open String (ofList toList_ofList)

structure TransferPrimitives.Lawful (T : TransferPrimitives) : Prop where
  cipher : T.toSessionPrimitives.CipherLaws
  int16 : ∀ draw : Vector UInt8 4, (T.int16 (toHex draw.toList)).isSome
  lower : ∀ draw : Vector UInt8 4, T.lower (toHex draw.toList) = toHex draw.toList
  separators : T.KeepsSeparators

def offerRoom : ℕ := maxOfferB64Length / 4 * 3 - 28

lemma toList_generateTransferId (draw : Vector UInt8 4) :
    (generateTransferId draw).toList = transferIdPrefix.toList ++ (toHex draw.toList).toList :=
  String.toList_append

lemma length_generateTransferId (draw) : (generateTransferId draw).length = 11 := by
  rw [generateTransferId, String.length_append, length_toHex, length_toList]
  rfl

lemma isValidTransferId_generate {T : TransferPrimitives} (laws : T.Lawful)
    (draw) : isValidTransferId T (generateTransferId draw) := by
  have prefixed : transferIdPrefix.toList.isPrefixOf (generateTransferId draw).toList := by
    rw [toList_generateTransferId]
    exact List.isPrefixOf_iff_prefix.mpr (List.prefix_append _ _)
  have suffix : ofList ((generateTransferId draw).toList.drop transferIdPrefix.length) =
      toHex draw.toList := by
    rw [toList_generateTransferId, List.drop_left' String.length_toList, String.ofList_toList]
  have length : ((toHex draw.toList).length == transferIdHex) := by
    rw [length_toHex, length_toList]
    rfl
  simp [isValidTransferId, prefixed, suffix, length, laws.int16, laws.lower]

lemma utf8Length_transferId (draw) :
    utf8Length (dumps true (.str (generateTransferId draw))) = 13 := by
  have plain : ∀ c ∈ (generateTransferId draw).toList,
      c ≠ '"' ∧ c ≠ '\\' ∧ 32 ≤ c.toNat ∧ c.toNat < 127 := by
    intro c mem
    rw [toList_generateTransferId, List.mem_append] at mem
    rcases mem with mem | mem
    · have all : ∀ d ∈ transferIdPrefix.toList, d ≠ '"' ∧ d ≠ '\\' ∧ 32 ≤ d.toNat ∧ d.toNat < 127 :=
        List.all_iff_forall_prop.mp (by decide)
      exact all c mem
    · exact plain_of_mem_toHex mem
  rw [dumps, utf8Length_quote_plain plain, String.length_toList,
    length_generateTransferId]

lemma utf8Length_b64text (bytes : Bytes) :
    utf8Length (dumps true (b64text bytes)) = 4 * ((bytes.length + 2) / 3) + 2 := by
  rw [b64text, dumps, utf8Length_quote_plain, toList_ofList, length_encode]
  rw [toList_ofList]
  exact fun c mem => Groups.plain_of_mem_base64 mem

section
variable {T : TransferPrimitives} (laws : T.Lawful) {F : FramePrimitives} (C : DocumentPrimitives)
  (key : Key) (nonce : Nonce) {stamp : Stamp} (time : F.Readable stamp.sentAt)
  (draw : Vector UInt8 4)

lemma requireTransferId_generate {data : Frames.Data}
    (field : data.get? "id" = some (.str (generateTransferId draw))) :
    Frames.requireTransferId data = .ok () := by
  apply Frames.requireTransferId_eq field
  rw [length_generateTransferId]
  decide

variable {sealed data : Bytes} {m : FileManifest} {n : ℕ}

include time

lemma transferFrame_passes {type} {rest : List (String × Json)}
    (distinct : ("id" :: rest.map Prod.fst).Nodup) (plain : ∀ field ∈ rest, field.2.Plain)
    (room : (rest.map (fieldSize true)).sum ≤ 7900)
    (valid : ∀ data, data = dictOf (("id", str (generateTransferId draw)) :: rest) →
      (∀ field ∈ rest, data.get? field.1 = some field.2) →
      Frames.requireTransferId data = .ok () → validateData type data = .ok ()) :
    (stamp.frame type (("id", str (generateTransferId draw)) :: rest)).Passes F := by
  have distinct : ((("id", str (generateTransferId draw)) :: rest).map Prod.fst).Nodup := distinct
  refine Frames.passes_stamped time distinct ?_ ?_ (valid _ rfl ?_ ?_)
  · intro field mem
    rcases List.mem_cons.mp mem with rfl | mem
    · trivial
    · exact plain field mem
  · rw [utf8Length_obj (cons_ne_nil _ _), map_cons, sum_cons, fieldSize,
      utf8Length_transferId, show utf8Length (quote true "id") = 4 from rfl]
    omega
  · exact fun field mem => Groups.get?_dictOf distinct (List.mem_cons_of_mem _ mem)
  · exact requireTransferId_generate draw (Groups.get?_dictOf distinct mem_cons_self)

lemma fileOfferFrame_passes_iff (nonempty : 0 < sealed.length) :
    (fileOfferFrame stamp (generateTransferId draw) sealed).Passes F ↔
      4 * ((sealed.length + 2) / 3) ≤ maxOfferB64Length := by
  have names : ["id", "ct"].Nodup := by decide
  constructor
  · intro passes
    have valid := Frames.validateData_of_passes passes
    have distinct : (([("id", str (generateTransferId draw)), ("ct", b64text sealed)] :
      List (String × Json)).map Prod.fst).Nodup := names
    have id := requireTransferId_generate draw (Groups.get?_dictOf distinct mem_cons_self)
    simp only [validateData, requireTransfer, id] at valid
    have ct := Groups.get?_dictOf distinct (List.mem_cons_of_mem _ mem_cons_self)
    exact (requireB64_iff ct nonempty).mp valid
  · intro short
    refine transferFrame_passes time draw names (by simp [b64text, Plain]) ?_ fun data _ fields id => ?_
    · have limit : maxOfferB64Length = 1200 := rfl
      simp only [map_cons, map_nil, sum_cons, sum_nil, fieldSize,
        utf8Length_b64text, show utf8Length (quote true "ct") = 4 from rfl]
      omega
    · simp only [validateData, requireTransfer, id]
      exact (requireB64_iff (fields _ mem_cons_self) nonempty).mpr short

omit time

include laws time in
lemma offerFrame_passes_iff (id : m.transferId = generateTransferId draw) :
    (offerFrame T key nonce stamp m).Passes F ↔ m.toJson.length ≤ offerRoom := by
  have size : (sealManifest T key nonce m.transferId m.toJson).length = m.toJson.length + 28 :=
    length_sealWith laws.cipher ..
  rw [id] at size
  have limit : maxOfferB64Length = 1200 := rfl
  have room : offerRoom = 872 := rfl
  rw [offerFrame, id, fileOfferFrame_passes_iff time draw (by omega), size]
  omega

lemma encodeFrame_offerFrame_of_lt (laws : T.Lawful) (F key nonce stamp) {draw}
    (id : m.transferId = generateTransferId draw) (long : offerRoom < m.toJson.length) :
    encodeFrame F (offerFrame T key nonce stamp m) =
      .error (mustBeString "ct" maxOfferB64Length) := by
  obtain ⟨sealed, known⟩ :
    ∃ sealed, sealed = sealManifest T key nonce m.transferId m.toJson := ⟨_, rfl⟩
  have size : sealed.length = m.toJson.length + 28 := by
    rw [known]
    exact length_sealWith laws.cipher ..
  obtain ⟨fields, listed⟩ : ∃ fields, fields =
    [("id", str m.transferId), ("ct", b64text sealed)] := ⟨_, rfl⟩
  have distinct : (fields.map Prod.fst).Nodup := by
    rw [listed]
    show ["id", "ct"].Nodup
    decide
  have idField : (dictOf fields).get? "id" = some (.str (generateTransferId draw)) := by
    rw [← id]
    exact Groups.get?_dictOf distinct (by simp [listed])
  have ct : (dictOf fields).get? "ct" = some (b64text sealed) :=
    Groups.get?_dictOf distinct (by simp [listed])
  have room : offerRoom = 872 := rfl
  have limit : maxOfferB64Length = 1200 := rfl
  have tooLong : ¬ (0 < (ofList (encode sealed)).length ∧
      (ofList (encode sealed)).length ≤ maxOfferB64Length) := by
    rw [String.length_ofList, length_encode]
    omega
  have refused : Frames.requireStr (dictOf fields) "ct" maxOfferB64Length =
      .error (mustBeString "ct" maxOfferB64Length) := by
    rw [Frames.requireStr, ct, b64text]
    exact if_neg tooLong
  have invalid : validateFrame .fileOffer 0 (dictOf fields) =
      .error (mustBeString "ct" maxOfferB64Length) := by
    simp only [validateFrame, validateData, requireTransfer,
      requireTransferId_generate draw idField, Frames.requireB64, refused]
    rfl
  rw [offerFrame, ← known, fileOfferFrame, ← listed, encodeFrame]
  show validateFrame .fileOffer 0 (dictOf fields) >>= _ = _
  rw [invalid]
  rfl

include laws in
lemma inspectOffer_offerFrame (l) (id : m.transferId = generateTransferId draw) :
    inspectOffer T C l key (offerFrame T key nonce stamp m) = judgeManifest T C l m.toJson := by
  have distinct : (([("id", str m.transferId), ("ct", b64text
      (sealManifest T key nonce m.transferId m.toJson))] : List (String × Json)).map
        Prod.fst).Nodup := by
    show ["id", "ct"].Nodup
    decide
  have idText : frameText C (offerFrame T key nonce stamp m) "id" = m.transferId := by
    rw [frameText, offerFrame, fileOfferFrame, Stamp.frame,
      Groups.get?_dictOf distinct mem_cons_self]
    rfl
  have ctText : frameText C (offerFrame T key nonce stamp m) "ct" =
      ofList (encode (sealManifest T key nonce m.transferId m.toJson)) := by
    rw [frameText, offerFrame, fileOfferFrame, Stamp.frame,
      Groups.get?_dictOf distinct (List.mem_cons_of_mem _ mem_cons_self)]
    rfl
  have valid : isValidTransferId T m.transferId := by
    rw [id]
    exact isValidTransferId_generate laws draw
  have decoded : offerBytes C (offerFrame T key nonce stamp m) =
      .ok (sealManifest T key nonce m.transferId m.toJson) := by
    rw [offerBytes, ctText, toList_ofList, decode_encode]
  have opened : openManifest T key m.transferId
      (sealManifest T key nonce m.transferId m.toJson) = .ok m.toJson :=
    openSealed_sealWith laws.cipher ..
  simp [inspectOffer, idText, valid, decoded, opened]

lemma judgeManifest_toJson_iff (T l) (m : FileManifest) :
    judgeManifest T C l m.toJson = .read m.parsed ↔ m.validate T l = .ok () := by
  rw [judgeManifest, fromJson_toJson, validate]
  cases h : m.parsed.validate T l with
  | error => simp [h, reduceCtorEq]
  | ok => simp [h]

lemma bounds_of_read {r : ChunkReader} (h : (r.read n).1 = .ok data) :
    (1 ≤ n ∧ n ≤ r.totalChunks) ∧ 1 ≤ data.length ∧ data.length ≤ r.chunkSize := by
  rw [ChunkReader.read] at h
  cases known : r.expectedLength n with
  | error =>
    simp [known] at h
  | ok length =>
    rw [known] at h
    simp only [ChunkReader.expectedLength, refuse_eq_ok, not_not] at known
    simp only at h
    generalize (if (n - 1) * r.chunkSize ≠ r.cursor then _ else r.position) = position at h
    split at h
    · cases h
    · rename_i some
      cases h
      refine ⟨known.1, ?_, List.length_take_le _ _⟩
      apply List.length_pos_iff.mpr
      intro empty
      rw [empty] at some
      exact some rfl

include time in
lemma fileChunkFrame_passes (one : 1 ≤ n)
    (last : n ≤ transferMaxChunksPerFile) (nonempty : 0 < sealed.length)
    (short : 4 * ((sealed.length + 2) / 3) ≤ Frames.maxChunkB64Length) :
    (fileChunkFrame stamp (generateTransferId draw) n sealed).Passes F := by
  refine transferFrame_passes time draw (show ["id", "n", "ct"].Nodup by decide)
    (by simp [b64text, Plain]) ?_ fun data _ fields id => ?_
  · have limit : Frames.maxChunkB64Length = 5600 := rfl
    have digits : decimalSize n ≤ 5 := by
      have below : n < 10 ^ 5 := last.trans_lt (by decide)
      exact Nat.toDigits_length 10 n 5 (by decide) below
    simp only [map_cons, map_nil, sum_cons, sum_nil, fieldSize,
      utf8Length_b64text, utf8Length_int, show utf8Length (quote true "n") = 3 from rfl,
      show utf8Length (quote true "ct") = 4 from rfl]
    omega
  · have counts : Frames.requireInt data "n" 1 = .ok () :=
      Frames.requireInt_eq (fields _ mem_cons_self) (Int.ofNat_le.mpr one)
    simp only [validateData, requireTransfer, id, counts]
    exact (requireB64_iff (fields ("ct", b64text sealed) (by simp)) nonempty).mpr short

include laws time in
lemma chunkFrame_passes (one : 1 ≤ n)
    (last : n ≤ transferMaxChunksPerFile) (length : data.length ≤ transferMaxChunkKb * 1024) :
    (chunkFrame T key nonce stamp (generateTransferId draw) n data).Passes F := by
  have size : (sealChunk T key nonce (generateTransferId draw) n data).length = data.length + 28 :=
    length_sealWith laws.cipher ..
  have largest : transferMaxChunkKb * 1024 = 4096 := rfl
  have limit : Frames.maxChunkB64Length = 5600 := rfl
  apply fileChunkFrame_passes time draw one last <;> omega

include time in
lemma fileAcceptFrame_passes {bitmapB64} (decodes : ∀ text ∈ bitmapB64,
      ∃ bytes : Bytes, text = ofList (encode bytes) ∧
        4 * ((bytes.length + 2) / 3) ≤ Frames.maxBitmapB64Length) :
    (fileAcceptFrame stamp (generateTransferId draw) bitmapB64).Passes F := by
  -- the frame that names the transfer and nothing else
  have bare : (stamp.frame .fileAccept [("id", .str (generateTransferId draw))]).Passes F := by
    refine transferFrame_passes time draw (List.nodup_singleton _) (by simp) (by simp)
      fun data same _ id => ?_
    simp only [validateData, requireTransfer, id]
    rw [same]
    rfl
  rw [fileAcceptFrame]
  cases bitmapB64 with
  | none => exact bare
  | some text =>
    rw [acceptFields]
    by_cases empty : text = ""
    · rwa [if_pos empty]
    · rw [if_neg empty]
      obtain ⟨bytes, rfl, short⟩ := decodes text rfl
      refine transferFrame_passes time draw (show ["id", "bm"].Nodup by decide) (by simp [Plain]) ?_
        fun data _ fields id => ?_
      · have limit : Frames.maxBitmapB64Length = 5600 := rfl
        have size := utf8Length_b64text bytes
        rw [b64text] at size
        simp only [map_cons, map_nil, sum_cons, sum_nil, fieldSize, size,
          show utf8Length (quote true "bm") = 4 from rfl]
        omega
      · simp only [validateData, requireTransfer, id]
        exact Frames.requireOptionalBitmap_eq (fields _ mem_cons_self) short

include time in
lemma bitmapFrame_passes {bitmap : ChunkBitmap} (total : bitmap.total ≤ transferMaxChunksPerFile) :
    (bitmapFrame stamp (generateTransferId draw) bitmap).Passes F := by
  have most : transferMaxChunksPerFile = 32768 := rfl
  have limit : Frames.maxBitmapB64Length = 5600 := rfl
  have size := bitmap.size
  apply fileAcceptFrame_passes time draw
  intro text mem
  refine ⟨bitmap.bits, ?_, ?_⟩
  · split at mem
    · exact (Option.some.inj mem).symm
    · cases mem
  · rw [size]
    omega

end

section
variable {T : TransferPrimitives} {guessType : String → Option String} {s : TransferManager}
  {pathName safe : String} {draw : Vector UInt8 4} {content : Bytes} {m : FileManifest}
  {bitmap : ChunkBitmap}

lemma length_guessMime (guessType filename) :
    (guessMime guessType filename).length ≤ maxManifestMimeLength := by
  rw [guessMime]
  split
  · decide
  · split
    · decide
    · rw [takeChars, String.length_ofList]
      exact List.length_take_le _ _

lemma validate_sent_iff (laws : T.Lawful) (sanitized : sanitizeFilename T pathName = some safe)
    (built : fromFile T pathName (generateTransferId draw) safe
      (guessMime guessType safe) s.limits.chunkSizeBytes content = .ok m)
    (accepted : s.checkSend safe m = .ok bitmap) : m.validate T s.limits.manifestLimits = .ok () ↔
      (transferMinChunkKb * 1024 ≤ s.limits.chunkSizeBytes ∧
        s.limits.chunkSizeBytes ≤ transferMaxChunkKb * 1024) ∧
      m.mime.toList.any isControl = false := by
  have name := safeName_of_sanitizeFilename laws.separators sanitized
  simp only [fromFile, refuse_eq_ok, pure_eq_ok] at built
  obtain ⟨nonempty, rfl⟩ := built
  simp only [TransferManager.checkSend, refuse_eq_ok] at accepted
  obtain ⟨size, chunks, -⟩ := accepted
  have hash : (hashFile T content).length = 64 := by
    rw [hashFile, length_toHex, length_toList]
  have hex : (fromHex (hashFile T content)).isNone = false := by
    simp [hashFile, fromHex_toHex]
  have mime := length_guessMime guessType safe
  have few : (content.length + s.limits.chunkSizeBytes - 1) / s.limits.chunkSizeBytes ≤
      transferMaxChunksPerFile := not_lt.mp chunks
  simp only [validate, ParsedManifest.validate, parsed, refuse_eq_ok, throw_if_eq_ok,
    isValidTransferId_generate laws, name.length_bounds, name.no_control, name.one_component, hash,
    hex, Blocks.blockCount, natCast_blockCount, Nat.cast_le, Nat.one_le_cast, gt_iff_lt, Nat.cast_lt,
    TransferLimits.manifestLimits]
  simp [mime, not_lt.mp size, few, not_lt.mp nonempty]

/-- The offer passes both ends of the codec, and what the peer reads from it is the sender's manifest,
which passes its checks. -/
def OfferArrives (T : TransferPrimitives) (F : FramePrimitives) (C : DocumentPrimitives)
    (l : TransferLimits) (key : Key) (nonce : Nonce) (stamp : Stamp) (m : FileManifest) : Prop :=
  (offerFrame T key nonce stamp m).Passes F ∧
    inspectOffer T C l.manifestLimits key (offerFrame T key nonce stamp m) = .read m.parsed

def ChunksPass (T : TransferPrimitives) (F : FramePrimitives) (m : FileManifest) : Prop :=
  ∀ (key : Key) (nonce : Nonce) (stamp : Stamp) (r : ChunkReader) (n : ℕ) (data : Bytes),
    F.Readable stamp.sentAt → r.chunkSize = m.chunkSize → r.totalChunks = m.totalChunks →
    (r.read n).1 = .ok data → (chunkFrame T key nonce stamp m.transferId n data).Passes F

def BitmapsPass (F : FramePrimitives) (m : FileManifest) : Prop :=
  ∀ (stamp : Stamp) (bitmap : ChunkBitmap), F.Readable stamp.sentAt →
    bitmap.total = m.totalChunks → (bitmapFrame stamp m.transferId bitmap).Passes F

/-- A send that was accepted gets through exactly when its manifest is short enough for an offer,
its chunks have a size that can be configured, and its type is printable. -/
theorem accepted_send_arrives_iff (laws : T.Lawful) (F : FramePrimitives) (C : DocumentPrimitives)
    (sanitized : sanitizeFilename T pathName = some safe)
    (built : fromFile T pathName (generateTransferId draw) safe
      (guessMime guessType safe) s.limits.chunkSizeBytes content = .ok m)
    (accepted : s.checkSend safe m = .ok bitmap) (key : Key) (nonce : Nonce) {stamp : Stamp}
    (time : F.Readable stamp.sentAt) :
    OfferArrives T F C s.limits key nonce stamp m ∧ ChunksPass T F m ∧ BitmapsPass F m ↔
      m.toJson.length ≤ offerRoom ∧
        (transferMinChunkKb * 1024 ≤ s.limits.chunkSizeBytes ∧
          s.limits.chunkSizeBytes ≤ transferMaxChunkKb * 1024) ∧
        m.mime.toList.any isControl = false := by
  have valid := validate_sent_iff laws sanitized built accepted
  simp only [fromFile, refuse_eq_ok, pure_eq_ok] at built
  obtain ⟨-, made⟩ := built
  have id : m.transferId = generateTransferId draw := by rw [← made]
  have chunkSize : m.chunkSize = s.limits.chunkSizeBytes := by rw [← made]
  have few : m.totalChunks ≤ transferMaxChunksPerFile := by
    simp only [TransferManager.checkSend, refuse_eq_ok] at accepted
    exact not_lt.mp accepted.2.1
  have offer : OfferArrives T F C s.limits key nonce stamp m ↔
      m.toJson.length ≤ offerRoom ∧ m.validate T s.limits.manifestLimits = .ok () := by
    rw [OfferArrives, offerFrame_passes_iff laws key nonce time draw id,
      inspectOffer_offerFrame laws C key nonce draw _ id, judgeManifest_toJson_iff]
  rw [offer, valid]
  constructor
  · rintro ⟨arrives, -, -⟩
    exact arrives
  · intro fits
    refine ⟨fits, ?_, ?_⟩
    · intro key nonce stamp r n data time sameSize sameTotal found
      obtain ⟨⟨one, last⟩, -, length⟩ := bounds_of_read found
      rw [sameTotal] at last
      rw [sameSize, chunkSize] at length
      rw [id]
      exact chunkFrame_passes laws key nonce time draw one (last.trans few)
        (length.trans fits.2.1.2)
    · intro stamp bitmap time total
      rw [id]
      exact bitmapFrame_passes time draw (total.trans_le few)

end

lemma length_toJson (m : FileManifest) :
    m.toJson.length = 62 + utf8Length (quote true m.protocol) +
      utf8Length (quote true m.transferId) + utf8Length (quote true m.filename) +
      decimalSize m.sizeBytes + utf8Length (quote true m.mime) +
      decimalSize m.chunkSize + decimalSize m.totalChunks +
      utf8Length (quote true m.sha256) := by
  have nonempty : m.toDict ≠ [] := cons_ne_nil _ _
  have text (s : String) :
      utf8Length (dumps true (.str s)) = utf8Length (quote true s) := by rw [dumps]
  rw [toJson, Groups.length_dumpsBytes, utf8Length_obj nonempty]
  simp only [toDict, map_cons, map_nil, sum_cons, sum_nil,
    fieldSize, utf8Length_int, text,
    show utf8Length (quote true "v") = 3 from rfl,
    show utf8Length (quote true "id") = 4 from rfl,
    show utf8Length (quote true "name") = 6 from rfl,
    show utf8Length (quote true "size") = 6 from rfl,
    show utf8Length (quote true "mime") = 6 from rfl,
    show utf8Length (quote true "cs") = 4 from rfl,
    show utf8Length (quote true "chunks") = 8 from rfl,
    show utf8Length (quote true "sha256") = 8 from rfl]
  omega

def plainFrames : FramePrimitives where
  float literal := if literal = "1.0" then .finite 1 else .nan
  reprFloat _ := "1.0"
  ofInt n := some (.finite n)
  repr _ := ""

def plainDocuments : DocumentPrimitives where
  str _ := ""
  int _ := .error (.refused "not a number")

def plainStamp : Stamp where
  draw := replicate 6 0
  sentAt := .finite 1

lemma plainFrames_readable : plainFrames.Readable plainStamp.sentAt where
  literal := by
    have digit : ∀ c ∈ ['0'], c.isDigit := List.all_iff_forall_prop.mp (by decide)
    exact ⟨1, ['0'], cons_ne_nil _ _, digit, by decide⟩
  reads := by decide
  positive := by decide
  short := by decide

def wideTransfer : TransferPrimitives :=
  { plainTransfer with isprintable := fun c => !isControl c }

lemma wideTransfer_lawful : wideTransfer.Lawful where
  cipher :=
    { opens := by
        intro key nonce plaintext aad
        show some ((plaintext ++ List.replicate 16 0).take
          ((plaintext ++ List.replicate 16 (0 : UInt8)).length - 16)) = some plaintext
        rw [List.length_append, List.length_replicate, Nat.add_sub_cancel, List.take_left]
      tag := by
        intro key nonce plaintext aad
        show (plaintext ++ List.replicate 16 (0 : UInt8)).length = plaintext.length + 16
        rw [List.length_append, List.length_replicate] }
  int16 := by
    intro draw
    rfl
  lower := by
    intro draw
    rfl
  separators := by
    intro s c mem _
    exact mem

def plainManager : TransferManager :=
  TransferManager.start { maxFileSizeBytes := 1048576, maxConcurrent := 1, chunkSizeBytes := 4096
                          tempLimitBytes := 1048576 } Dict.empty

def manifestOf (name : String) : FileManifest where
  protocol := transferProtocol
  transferId := generateTransferId (replicate 4 0)
  filename := name
  sizeBytes := 2
  mime := "text/plain"
  chunkSize := 4096
  totalChunks := 1
  sha256 := hashFile wideTransfer [104, 105]

lemma fromFile_manifestOf (name) :
    fromFile wideTransfer name (generateTransferId (replicate 4 0)) name
      (guessMime (fun _ => some "text/plain") name) plainManager.limits.chunkSizeBytes [104, 105] =
        .ok (manifestOf name) := rfl

lemma checkSend_manifestOf (name) :
    plainManager.checkSend name (manifestOf name) = .ok (ChunkBitmap.empty 1 (le_refl 1)) := rfl

def zeroKey : Key := replicate 32 0
def zeroNonce : Nonce := replicate 12 0

theorem plain_send_arrives :
    OfferArrives wideTransfer plainFrames plainDocuments plainManager.limits zeroKey zeroNonce
        plainStamp (manifestOf "notes.txt") ∧
      ChunksPass wideTransfer plainFrames (manifestOf "notes.txt") ∧
      BitmapsPass plainFrames (manifestOf "notes.txt") :=
  (accepted_send_arrives_iff wideTransfer_lawful plainFrames plainDocuments
    (by decide +kernel : sanitizeFilename wideTransfer "notes.txt" = some "notes.txt")
    (fromFile_manifestOf "notes.txt") (checkSend_manifestOf "notes.txt") zeroKey zeroNonce
    plainFrames_readable).mpr (by decide +kernel)

def wideName : String := ofList (List.replicate 120 'ж')

lemma utf8Length_quote_replicate (n) :
    utf8Length (quote true (ofList (List.replicate n 'ж'))) = 6 * n + 2 := by
  have one : utf8Length (escape true 'ж') = 6 := by decide
  have body : utf8Length ((List.replicate n 'ж').flatMap (escape true)) = 6 * n := by
    induction n with
    | zero => rfl
    | succ n ih =>
      rw [List.replicate_succ, List.flatMap_cons, utf8Length_append, one, ih]
      omega
  have mark : ('"' : Char).utf8Size = 1 := by decide
  rw [quote, toList_ofList]
  simp only [utf8Length_cons, utf8Length_append, utf8Length_nil, body, mark, List.cons_append]
  omega

lemma sanitizeFilename_wideName : sanitizeFilename wideTransfer wideName = some wideName := by
  have listed : wideName.toList = List.replicate 120 'ж' := toList_ofList
  have composed (name : String) : wideTransfer.nfc name = name := rfl
  refine sanitizeFilename_of_ordinary (composed wideName) ?_ ?_ ?_ ?_
  · intro c mem
    rw [listed] at mem
    rw [List.eq_of_mem_replicate mem]
    exact ⟨by decide, by decide, by decide, by decide⟩
  · rw [listed]
    exact cons_ne_nil _ _
  · rw [listed, List.length_replicate]
    exact le_rfl
  · apply not_reserved_of_long
    have length : wideName.length = 120 := by
      rw [← String.length_toList, listed, List.length_replicate]
    have lower (name : String) : wideTransfer.lower name = name := rfl
    rw [lower, length]
    decide

/-- The send is accepted, and its offer cannot be encoded. -/
theorem wideName_not_offered :
    sanitizeFilename wideTransfer wideName = some wideName ∧
      fromFile wideTransfer wideName (generateTransferId (replicate 4 0))
        wideName (guessMime (fun _ => some "text/plain") wideName)
        plainManager.limits.chunkSizeBytes [104, 105] = .ok (manifestOf wideName) ∧
      plainManager.checkSend wideName (manifestOf wideName) =
        .ok (ChunkBitmap.empty 1 (le_refl 1)) ∧
      encodeFrame plainFrames (offerFrame wideTransfer zeroKey zeroNonce plainStamp
        (manifestOf wideName)) =
          .error (mustBeString "ct" maxOfferB64Length) := by
  have long : offerRoom < (manifestOf wideName).toJson.length := by
    have room : offerRoom = 872 := rfl
    have name : utf8Length (quote true (manifestOf wideName).filename) = 6 * 120 + 2 :=
      utf8Length_quote_replicate 120
    have hash : utf8Length (quote true (manifestOf wideName).sha256) = 66 := by decide +kernel
    have mime : utf8Length (quote true (manifestOf wideName).mime) = 12 := by decide +kernel
    have id : utf8Length (quote true (manifestOf wideName).transferId) = 13 := by
      decide +kernel
    rw [length_toJson, name, hash, mime, id]
    omega
  have drawn (name : String) :
      (manifestOf name).transferId = generateTransferId (replicate 4 0) := rfl
  refine ⟨sanitizeFilename_wideName, fromFile_manifestOf wideName, checkSend_manifestOf wideName, ?_⟩
  exact encodeFrame_offerFrame_of_lt wideTransfer_lawful plainFrames zeroKey zeroNonce plainStamp
    (drawn wideName) long

end Ghostlink.FileTransfer
