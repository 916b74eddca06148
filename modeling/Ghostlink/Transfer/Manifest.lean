import Ghostlink.Base.Blocks
import Ghostlink.Base.Checks
import Ghostlink.Messaging.Handshake

/-! What a sender says about a file before it sends it, and the checks a receiver makes on it. -/

namespace Ghostlink.FileTransfer
open Text Messaging Blocks

/-- `unicode` is no error of the transfers: `str.encode` raises it. -/
inductive TransferErrorKind
  | validation | state | limit | storage | decryption | unicode
  deriving DecidableEq, Repr

structure TransferError where
  kind : TransferErrorKind
  message : String
  hint : Option String := none
  deriving DecidableEq, Repr

structure TransferPrimitives extends SessionPrimitives where
  int16 : String → Option ℤ
  lower : String → String
  nfc : String → String
  isprintable : Char → Bool
  isdecimal : Char → Bool

def transferIdPrefix : String := "tf_"
def transferIdHex : ℕ := 8
def transferProtocol : String := "gf1"

def isValidTransferId (T : TransferPrimitives) (candidate : String) : Bool :=
  transferIdPrefix.toList.isPrefixOf candidate.toList &&
    let suffix := String.ofList (candidate.toList.drop transferIdPrefix.length)
    suffix.length == transferIdHex && (T.int16 suffix).isSome && suffix == T.lower suffix

def maxManifestFilenameLength : ℕ := 120
def maxManifestMimeLength : ℕ := 100
def transferMaxChunksPerFile : ℕ := 32768

structure FileManifest where
  protocol : String
  transferId : String
  filename : String
  sizeBytes : ℕ
  mime : String
  chunkSize : ℕ
  totalChunks : ℕ
  sha256 : String
  deriving DecidableEq, Repr

/-- A manifest as the peer may send it. -/
structure ParsedManifest where
  protocol : String
  transferId : String
  filename : String
  sizeBytes : ℤ
  mime : String
  chunkSize : ℤ
  totalChunks : ℤ
  sha256 : String
  deriving DecidableEq, Repr

def hashFile (T : TransferPrimitives) (content : Bytes) : String :=
  toHex (T.sha256 content).toList

namespace FileManifest

def fromFile (T : TransferPrimitives) (pathName transferId safeName mime : String)
    (chunkSize : ℕ) (content : Bytes) : Except TransferError FileManifest := do
  if content.length < 1 then
    throw { kind := .validation, message := s!"'{pathName}' is empty."
            hint := some "GhostLink transfers files of at least one byte." }
  pure { protocol := transferProtocol, transferId, filename := safeName
         sizeBytes := content.length, mime, chunkSize
         totalChunks := blockCount content.length chunkSize
         sha256 := hashFile T content }

def rejected (reason : String) : TransferError :=
  { kind := .validation, message := s!"File manifest rejected: {reason}."
    hint := some "The peer sent metadata outside transfer protocol gf1." }

def isControl (c : Char) : Bool := c.toNat < 32 || c.toNat == 127

structure Limits where
  maxFileSizeBytes : ℕ
  maxChunkSize : ℕ
  minChunkSize : ℕ

end FileManifest
open FileManifest

def ParsedManifest.validate (T : TransferPrimitives) (l : FileManifest.Limits)
    (m : ParsedManifest) : Except TransferError Unit := do
  if m.protocol ≠ transferProtocol then
    throw (rejected s!"unsupported protocol version '{m.protocol}'")
  if isValidTransferId T m.transferId = false then
    throw (rejected "transfer id is malformed")
  if ¬ (0 < m.filename.length ∧ m.filename.length ≤ maxManifestFilenameLength) then
    throw (rejected "filename length is out of bounds")
  if m.filename.toList.any isControl then
    throw (rejected "filename contains control characters")
  if m.filename.toList.contains '/' || m.filename.toList.contains '\\' ||
      ([".", ".."].contains m.filename) then
    throw (rejected "filename contains path components")
  if ¬ (1 ≤ m.sizeBytes ∧ m.sizeBytes ≤ l.maxFileSizeBytes) then
    throw (rejected
      s!"size {m.sizeBytes} exceeds the limit of {l.maxFileSizeBytes} bytes")
  if ¬ (l.minChunkSize ≤ m.chunkSize ∧ m.chunkSize ≤ l.maxChunkSize) then
    throw (rejected s!"chunk size {m.chunkSize} is outside the negotiated range")
  if m.totalChunks ≠ (m.sizeBytes + m.chunkSize - 1) / m.chunkSize then
    throw (rejected "total chunk count does not match size and chunk geometry")
  if m.totalChunks > transferMaxChunksPerFile then
    throw (rejected "file needs more chunks than the resume bitmap can carry")
  if m.mime.length > maxManifestMimeLength || m.mime.toList.any isControl then
    throw (rejected "mime information is malformed")
  if m.sha256.length ≠ 64 then
    throw (rejected "integrity hash must be 64 hex characters")
  if (fromHex m.sha256).isNone then
    throw (rejected "integrity hash is not hexadecimal")

def FileManifest.parsed (m : FileManifest) : ParsedManifest where
  protocol := m.protocol
  transferId := m.transferId
  filename := m.filename
  sizeBytes := m.sizeBytes
  mime := m.mime
  chunkSize := m.chunkSize
  totalChunks := m.totalChunks
  sha256 := m.sha256

namespace FileManifest

def validate (T : TransferPrimitives) (l : Limits) (m : FileManifest) : Except TransferError Unit :=
  m.parsed.validate T l

structure Sound (m : FileManifest) : Prop where
  size : 1 ≤ m.sizeBytes
  chunk : 1 ≤ m.chunkSize
  total : m.totalChunks = blockCount m.sizeBytes m.chunkSize

variable {T : TransferPrimitives}

lemma sound_of_fromFile {pathName transferId safeName mime chunkSize content} {m : FileManifest}
    (positive : 1 ≤ chunkSize)
    (h : fromFile T pathName transferId safeName mime chunkSize content = .ok m) : m.Sound := by
  simp only [fromFile, Checks.refuse_eq_ok, Checks.pure_eq_ok] at h
  obtain ⟨nonempty, rfl⟩ := h
  exact ⟨Nat.le_of_not_lt nonempty, positive, rfl⟩

lemma natCast_blockCount (size chunk : ℕ) :
    ((size : ℤ) + chunk - 1) / chunk = ((size + chunk - 1) / chunk : ℕ) := by
  rcases Nat.eq_zero_or_pos chunk with rfl | positive
  · simp
  · have whole : (size : ℤ) + chunk - 1 = ((size + chunk - 1 : ℕ) : ℤ) := by omega
    rw [whole, Int.natCast_div]

lemma sound_of_validate {l : Limits} {m : FileManifest}
    (positive : 1 ≤ l.minChunkSize) (h : validate T l m = .ok ()) : m.Sound := by
  simp only [validate, ParsedManifest.validate, Checks.refuse_eq_ok, not_not, parsed,
    natCast_blockCount, Nat.cast_inj, Nat.cast_le, Nat.one_le_cast] at h
  obtain ⟨-, -, -, -, -, size, chunk, total, -⟩ := h
  exact ⟨size.1, positive.trans chunk.1, total⟩

end FileManifest

def expectedChunkLength (m : FileManifest) (n : ℕ) : ℕ :=
  if n = m.totalChunks then max 1 (m.sizeBytes - (m.totalChunks - 1) * m.chunkSize)
  else m.chunkSize

variable {m : FileManifest}

lemma FileManifest.Sound.inside_iff (h : m.Sound) {n} (one : 1 ≤ n) :
    n ≤ m.totalChunks ↔ (n - 1) * m.chunkSize < m.sizeBytes := by
  rw [← lt_blockCount_iff h.chunk, h.total]
  omega

lemma FileManifest.Sound.length_chunk (h : m.Sound) {n} (one : 1 ≤ n)
    (last : n ≤ m.totalChunks) {content : Bytes} (size : content.length = m.sizeBytes) :
    (block m.chunkSize content (n - 1)).length = expectedChunkLength m n := by
  have inside := (h.inside_iff one).mp last
  have chunk := h.chunk
  rw [length_block, size, expectedChunkLength]
  split
  · rename_i final
    -- no chunk follows the last one
    have none : ¬ m.totalChunks * m.chunkSize < m.sizeBytes := by
      rw [← lt_blockCount_iff h.chunk, h.total]
      exact lt_irrefl _
    have step : (m.totalChunks - 1 + 1) * m.chunkSize =
        (m.totalChunks - 1) * m.chunkSize + m.chunkSize := Nat.succ_mul ..
    rw [Nat.sub_add_cancel (one.trans last)] at step
    rw [final] at inside ⊢
    omega
  · have more : n < m.totalChunks := by omega
    have next : n * m.chunkSize < m.sizeBytes := by
      rwa [← lt_blockCount_iff h.chunk, ← h.total]
    have step : (n - 1 + 1) * m.chunkSize = (n - 1) * m.chunkSize + m.chunkSize :=
      Nat.succ_mul ..
    rw [Nat.sub_add_cancel one] at step
    omega

def plainTransfer : TransferPrimitives where
  publicKey := id
  exchange _ _ := none
  hkdf key _ _ := key
  sha256 bytes := Vector.ofFn fun i : Fin 32 => bytes.getD i 0
  encrypt _ _ plaintext _ := plaintext ++ List.replicate 16 0
  decrypt _ _ ciphertext _ := some (ciphertext.take (ciphertext.length - 16))
  int16 _ := some 0
  lower := id
  nfc := id
  isprintable c := 32 ≤ c.toNat && c.toNat ≤ 126
  isdecimal c := c.isDigit

end Ghostlink.FileTransfer
