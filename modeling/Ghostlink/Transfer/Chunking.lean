import Ghostlink.Base.Bits
import Ghostlink.Transfer.Manifest

/-! Reading a file in numbered chunks, keeping count of the chunks that arrived, and putting them
back together in whatever order they come. -/

namespace Ghostlink.FileTransfer
open Messaging List Blocks Bits

structure ChunkReader where
  name : String
  content : Bytes
  chunkSize : ℕ
  totalChunks : ℕ
  position : ℕ
  cursor : ℕ

namespace ChunkReader

def make (name : String) (content : Bytes) (chunkSize totalChunks : ℕ) : ChunkReader :=
  { name, content, chunkSize, totalChunks
    position := 0, cursor := 0 }

def expectedLength (r : ChunkReader) (n : ℕ) : Except TransferError ℕ := do
  if ¬ (1 ≤ n ∧ n ≤ r.totalChunks) then
    throw { kind := .validation, message := s!"Chunk number {n} is outside 1..{r.totalChunks}."
            hint := some "Remote chunk numbers are validated before any disk access." }
  if n = r.totalChunks then
    return max 1 (r.content.length - (r.totalChunks - 1) * r.chunkSize)
  return r.chunkSize

def read (r : ChunkReader) (n : ℕ) : Except TransferError Bytes × ChunkReader :=
  match r.expectedLength n with
  | .error e => (.error e, r)
  | .ok _ =>
    let offset := (n - 1) * r.chunkSize
    let position := if offset ≠ r.cursor then offset else r.position
    let data := (r.content.drop position).take r.chunkSize
    let r := { r with position := position + data.length, cursor := offset + data.length }
    if data.isEmpty then
      (.error { kind := .validation, message := s!"Chunk {n} of '{r.name}' read back empty."
                hint := some <| "The source file changed or was truncated mid-transfer. " ++
                  "Cancel and resend." }, r)
    else (.ok data, r)

/-- The reader belongs to the file that `m` describes, and stands where it believes it stands. -/
structure Follows (r : ChunkReader) (m : FileManifest) (content : Bytes) : Prop where
  content_eq : r.content = content
  chunkSize_eq : r.chunkSize = m.chunkSize
  totalChunks_eq : r.totalChunks = m.totalChunks
  in_step : r.position = r.cursor

lemma make_follows (name) (m : FileManifest) (content) :
    (make name content m.chunkSize m.totalChunks).Follows m content := ⟨rfl, rfl, rfl, rfl⟩

lemma Follows.read {r : ChunkReader} {m : FileManifest} {content : Bytes}
    (h : r.Follows m content) (sound : m.Sound) (size : content.length = m.sizeBytes) {n}
    (one : 1 ≤ n) (last : n ≤ m.totalChunks) :
    (r.read n).1 = .ok (block m.chunkSize content (n - 1)) ∧
      (r.read n).2.Follows m content := by
  have inside := (sound.inside_iff one).mp last
  have chunk := sound.chunk
  have known : ∃ length, r.expectedLength n = .ok length := by
    have inRange : 1 ≤ n ∧ n ≤ r.totalChunks := ⟨one, h.totalChunks_eq ▸ last⟩
    unfold expectedLength
    simp only [inRange, not_true_eq_false, if_false, and_self]
    split <;> exact ⟨_, rfl⟩
  obtain ⟨length, known⟩ := known
  have place : (if (n - 1) * m.chunkSize ≠ r.cursor then (n - 1) * m.chunkSize
      else r.position) = (n - 1) * m.chunkSize := by
    split
    · rfl
    · rename_i there
      rw [h.in_step, not_not.mp there]
  have data : ((block m.chunkSize content (n - 1)).isEmpty) = false := by
    apply isEmpty_eq_false_iff.mpr
    apply ne_nil_of_length_pos
    rw [length_block, size]
    omega
  simp only [ChunkReader.read, known, h.chunkSize_eq, h.content_eq, place, ← block.eq_1,
    data, Bool.false_eq_true, if_false, true_and]
  exact ⟨rfl, rfl, h.totalChunks_eq, rfl⟩

end ChunkReader

/-- One bit a chunk, and the number of chunks below `total` whose bit is set. -/
structure ChunkBitmap where
  total : ℕ
  bits : List UInt8
  count : ℕ
  positive : 1 ≤ total
  size : bits.length = (total + 7) / 8
  counted : count = (members bits total).card

namespace ChunkBitmap

variable (b : ChunkBitmap)

lemma fits : b.total ≤ 8 * b.bits.length := by
  have size := b.size
  omega

def tooFew : TransferError :=
  { kind := .validation, message := "Chunk bitmap needs at least one chunk." }

def empty (total : ℕ) (positive : 1 ≤ total) : ChunkBitmap where
  total
  bits := List.replicate ((total + 7) / 8) 0
  count := 0
  positive
  size := length_replicate
  counted := by
    symm
    rw [Finset.card_eq_zero, members, Finset.filter_eq_empty_iff]
    intro i _
    rw [bit_replicate_zero]
    exact Bool.false_ne_true

def make (total : ℕ) : Except TransferError ChunkBitmap :=
  if positive : 1 ≤ total then .ok (empty total positive) else .error tooFew

def masked (total : ℕ) (bitmap : Bytes) : List UInt8 :=
  let padding := bitmap.length * 8 - total
  if padding ≠ 0 then maskLast bitmap (8 - padding) else bitmap

lemma length_masked (total) (bitmap : Bytes) : (masked total bitmap).length = bitmap.length := by
  simp only [masked]
  split
  · exact length_maskLast ..
  · rfl

lemma bit_masked {total} {bitmap : Bytes} (positive : 1 ≤ total)
    (size : bitmap.length = (total + 7) / 8) (i) :
    bit (masked total bitmap) i = (bit bitmap i && decide (i < total)) := by
  simp only [masked]
  split
  · have place : 8 * (bitmap.length - 1) + (8 - (bitmap.length * 8 - total)) = total := by omega
    rw [bit_maskLast (by omega), place]
  · rename_i full
    rcases lt_or_ge i total with below | above
    · rw [decide_eq_true below, Bool.and_true]
    · rw [bit_of_le (by omega), Bool.false_and]

def load (total : ℕ) (bitmap : Bytes) : Except TransferError ChunkBitmap :=
  if positive : 1 ≤ total then
    if size : bitmap.length = (total + 7) / 8 then
      .ok { total, bits := masked total bitmap, count := ones (masked total bitmap)
            positive
            size := (length_masked total bitmap).trans size
            counted := by
              apply ones_eq_card_of_clear
              · rw [length_masked]
                omega
              · intro i above
                rw [bit_masked positive size, decide_eq_false (Nat.not_lt.mpr above),
                  Bool.and_false] }
    else .error { kind := .validation
                  message := "Resume bitmap length does not match the chunk geometry."
                  hint := some "Re-offer the file; chunk geometry must be identical." }
  else .error tooFew

def has (b : ChunkBitmap) (n : ℕ) : Bool := bit b.bits (n - 1)

def mark (b : ChunkBitmap) (n : ℕ) : Except TransferError (Bool × ChunkBitmap) :=
  if inRange : 1 ≤ n ∧ n ≤ b.total then
    if old : b.has n then .ok (false, b)
    else .ok (true,
      { b with
        bits := setBit b.bits (n - 1), count := b.count + 1
        size := (length_setBit ..).trans b.size
        counted := by
          have fits := b.fits
          have below : n - 1 < b.total := by omega
          have new : n - 1 ∉ members b.bits b.total := fun h =>
            old (Finset.mem_filter.mp h).2
          rw [members_setBit (by omega) below, Finset.card_insert_of_notMem new, b.counted] })
  else .error { kind := .validation, message := s!"Chunk number {n} is outside 1..{b.total}."
                hint := some "Reject out-of-range chunk numbers before touching state." }

def isComplete (b : ChunkBitmap) : Bool := b.count == b.total

def missing (b : ChunkBitmap) : List ℕ :=
  (List.range' 1 b.total).filter fun n => !b.has n

def toB64 (b : ChunkBitmap) : String := String.ofList (Base64.encode b.bits)

def fromB64 (encoded : String) (total : ℕ) : Except TransferError ChunkBitmap :=
  match Base64.decode encoded.toList with
  | none =>
    if encoded.toList.any (128 ≤ ·.toNat) then
      .error { kind := .unicode, message := "ordinal not in range(128)" }
    else
      .error { kind := .validation, message := "Resume bitmap is not valid base64."
               hint := some "The peer sent a malformed FILE_ACCEPT." }
  | some raw => load total raw

lemma has_make {total} {b : ChunkBitmap} (h : make total = .ok b) (n) :
    b.total = total ∧ b.has n = false := by
  unfold make at h
  split at h
  · cases h
    exact ⟨rfl, bit_replicate_zero ..⟩
  · exact absurd h nofun

lemma mark_eq {b : ChunkBitmap} {n} (one : 1 ≤ n) (last : n ≤ b.total) :
    ∃ new b', b.mark n = .ok (new, b') ∧ b'.total = b.total ∧
      ∀ k, 1 ≤ k → b'.has k = (decide (k = n) || b.has k) := by
  have fits := b.fits
  unfold mark
  rw [dif_pos ⟨one, last⟩]
  split
  · rename_i old
    refine ⟨false, b, rfl, rfl, fun k _ => ?_⟩
    rcases eq_or_ne k n with rfl | other
    · rw [old, Bool.or_true]
    · rw [decide_eq_false other, Bool.false_or]
  · refine ⟨true, _, rfl, rfl, fun k hk => ?_⟩
    have place : decide (k = n) = decide (k - 1 = n - 1) := by
      congr 1
      exact propext ⟨fun e => by rw [e], fun e => by omega⟩
    rw [place]
    exact bit_setBit (by omega) (k - 1)

lemma isComplete_iff : b.isComplete ↔ ∀ n, 1 ≤ n → n ≤ b.total → b.has n := by
  have full : b.count = b.total ↔ members b.bits b.total = Finset.range b.total := by
    rw [b.counted, members]
    constructor
    · intro h
      apply Finset.eq_of_subset_of_card_le (Finset.filter_subset ..)
      rw [Finset.card_range, h]
    · intro h
      rw [h, Finset.card_range]
  rw [isComplete, beq_iff_eq, full, members, Finset.filter_eq_self]
  constructor
  · intro h n one last
    exact h (n - 1) (Finset.mem_range.mpr (by omega))
  · intro h i hi
    exact h (i + 1) (by omega) (Finset.mem_range.mp hi)

lemma fromB64_toB64 : ∃ b', fromB64 b.toB64 b.total = .ok b' ∧ b'.total = b.total ∧
      ∀ n, 1 ≤ n → n ≤ b.total → b'.has n = b.has n := by
  have decoded : Base64.decode b.toB64.toList = some b.bits := by
    rw [toB64, String.toList_ofList, Base64.decode_encode]
  simp only [fromB64, decoded, load, dif_pos b.positive, dif_pos b.size]
  refine ⟨_, rfl, rfl, fun n one last => ?_⟩
  have below : n - 1 < b.total := by omega
  show bit (masked b.total b.bits) (n - 1) = _
  rw [bit_masked b.positive b.size, decide_eq_true below, Bool.and_true]
  rfl

end ChunkBitmap

def writeChunk (part : Bytes) (n chunkSize : ℕ) (data : Bytes) : Bytes :=
  writeAt 0 part ((n - 1) * chunkSize) data

def adoptBitmap (acked peer : ChunkBitmap) : Except TransferError ChunkBitmap :=
  (List.range' 1 acked.total).foldlM
    (fun b n => if peer.has n then Prod.snd <$> b.mark n else pure b) acked

private lemma adopt_fold (peer : ChunkBitmap) (ns : List ℕ) (acked : ChunkBitmap)
    (inRange : ∀ n ∈ ns, 1 ≤ n ∧ n ≤ acked.total) :
    ∃ b, ns.foldlM (fun b n => if peer.has n then Prod.snd <$> b.mark n else pure b) acked =
        (.ok b : Except TransferError ChunkBitmap) ∧ b.total = acked.total ∧
      ∀ k, 1 ≤ k → (b.has k ↔ acked.has k ∨ (k ∈ ns ∧ peer.has k)) := by
  induction ns generalizing acked with
  | nil => exact ⟨acked, rfl, rfl, fun k _ => by simp⟩
  | cons n ns ih =>
    have rest (m : ℕ) (hm : m ∈ ns) := inRange m (mem_cons_of_mem n hm)
    obtain ⟨one, last⟩ := inRange n mem_cons_self
    rcases Bool.eq_false_or_eq_true (peer.has n) with held | lacking
    · obtain ⟨new, marked, marks, total, has⟩ := ChunkBitmap.mark_eq one last
      obtain ⟨b, folds, same, hasB⟩ := ih marked (fun m hm => by rw [total]; exact rest m hm)
      refine ⟨b, ?_, same.trans total, fun k hk => ?_⟩
      · rwa [foldlM_cons, if_pos held, marks]
      · rw [hasB k hk, has k hk]
        simp only [Bool.or_eq_true, decide_eq_true_eq, mem_cons]
        constructor
        · rintro ((rfl | old) | ⟨listed, heldK⟩)
          · exact .inr ⟨.inl rfl, held⟩
          · exact .inl old
          · exact .inr ⟨.inr listed, heldK⟩
        · rintro (old | ⟨rfl | listed, heldK⟩)
          · exact .inl (.inr old)
          · exact .inl (.inl rfl)
          · exact .inr ⟨listed, heldK⟩
    · obtain ⟨b, folds, same, hasB⟩ := ih acked rest
      refine ⟨b, ?_, same, fun k hk => ?_⟩
      · rwa [foldlM_cons, lacking, if_neg Bool.false_ne_true]
      · rw [hasB k hk, mem_cons]
        constructor
        · rintro (old | ⟨listed, heldK⟩)
          · exact .inl old
          · exact .inr ⟨.inr listed, heldK⟩
        · rintro (old | ⟨rfl | listed, heldK⟩)
          · exact .inl old
          · rw [lacking] at heldK
            exact absurd heldK Bool.false_ne_true
          · exact .inr ⟨listed, heldK⟩

lemma adoptBitmap_eq (acked peer : ChunkBitmap) :
    ∃ b, adoptBitmap acked peer = .ok b ∧ b.total = acked.total ∧
      ∀ n, 1 ≤ n → n ≤ acked.total →
        (b.has n ↔ acked.has n ∨ peer.has n) := by
  have inRange (n : ℕ) (h : n ∈ List.range' 1 acked.total) : 1 ≤ n ∧ n ≤ acked.total := by
    rw [mem_range'_1] at h
    omega
  obtain ⟨b, folds, total, has⟩ := adopt_fold peer _ acked inRange
  refine ⟨b, folds, total, fun n one last => ?_⟩
  have listed : n ∈ List.range' 1 acked.total := mem_range'_1.mpr (by omega)
  rw [has n one, and_iff_right listed]

structure ChunkTransfer where
  manifest : FileManifest
  content : Bytes
  reader : ChunkReader
  acked : ChunkBitmap
  received : ChunkBitmap
  part : Bytes

/-- A chunk is sent and its acknowledgement arrives or is lost; or the sender starts over from
the receiver's bitmap. -/
inductive ChunkEvent
  | chunk (n : ℕ) (ackArrives : Bool)
  | resume
  deriving DecidableEq

namespace ChunkTransfer

def start (T : TransferPrimitives) (name transferId safeName mime : String) (chunkSize : ℕ)
    (content : Bytes) : Except TransferError ChunkTransfer := do
  let m ← FileManifest.fromFile T name transferId safeName mime chunkSize content
  let bitmap ← ChunkBitmap.make m.totalChunks
  pure { manifest := m, content, acked := bitmap, received := bitmap, part := []
         reader := ChunkReader.make m.filename content m.chunkSize m.totalChunks }

def receive (t : ChunkTransfer) (n : ℕ) (data : Bytes) : Except TransferError ChunkTransfer := do
  if ¬ (1 ≤ n ∧ n ≤ t.manifest.totalChunks) then
    throw { kind := .validation, message := s!"chunk number {n} is out of range" }
  if data.length ≠ expectedChunkLength t.manifest n then
    throw { kind := .validation, message := s!"chunk {n} has an invalid size" }
  if t.received.has n then
    -- a duplicate is acknowledged again and never written
    pure t
  else
    let part := writeChunk t.part n t.manifest.chunkSize data
    let (_, received) ← t.received.mark n
    pure { t with part, received }

def send (t : ChunkTransfer) (n : ℕ) (ackArrives : Bool) : Except TransferError ChunkTransfer := do
  let (data, reader) := t.reader.read n
  let t ← ({ t with reader } : ChunkTransfer).receive n (← data)
  if ackArrives then
    let (_, acked) ← t.acked.mark n
    pure { t with acked }
  else pure t

def resume (t : ChunkTransfer) : Except TransferError ChunkTransfer := do
  let reader := ChunkReader.make t.manifest.filename t.content t.manifest.chunkSize
    t.manifest.totalChunks
  if t.received.count = 0 then pure { t with reader }
  else
    let peer ← ChunkBitmap.fromB64 t.received.toB64 t.manifest.totalChunks
    let acked ← adoptBitmap t.acked peer
    pure { t with reader, acked }

def step (t : ChunkTransfer) : ChunkEvent → Except TransferError ChunkTransfer
  | .chunk n ackArrives => t.send n ackArrives
  | .resume => t.resume

def run (t : ChunkTransfer) (events : List ChunkEvent) : Except TransferError ChunkTransfer :=
  events.foldlM step t

/-- The chunks for which `sent` holds, and no others, are in the receiver's bitmap and file, and
every chunk the sender knows to be acknowledged is one of them. -/
structure Consistent (t : ChunkTransfer) (sent : ℕ → Prop) : Prop where
  sound : t.manifest.Sound
  size : t.content.length = t.manifest.sizeBytes
  reader : t.reader.Follows t.manifest t.content
  ackedTotal : t.acked.total = t.manifest.totalChunks
  receivedTotal : t.received.total = t.manifest.totalChunks
  received : ∀ n, 1 ≤ n → n ≤ t.manifest.totalChunks → (t.received.has n ↔ sent n)
  acked : ∀ n, 1 ≤ n → n ≤ t.manifest.totalChunks → t.acked.has n → sent n
  part : Blocks.Carries t.manifest.chunkSize t.content t.part fun k => sent (k + 1)

variable {sent : ℕ → Prop} {t : ChunkTransfer}

lemma Consistent.congr {sent' : ℕ → Prop} (h : t.Consistent sent)
    (same : ∀ n, sent n ↔ sent' n) : t.Consistent sent' := by
  have eq : sent = sent' := funext fun n => propext (same n)
  exact eq ▸ h

lemma start_consistent {T name transferId safeName mime chunkSize} {content : Bytes}
    (positive : 1 ≤ chunkSize) (nonempty : 1 ≤ content.length) :
    ∃ t, start T name transferId safeName mime chunkSize content = .ok t ∧
      t.content = content ∧ t.manifest.sizeBytes = content.length ∧
      t.manifest.chunkSize = chunkSize ∧ t.Consistent fun _ => False := by
  have full : ¬ content.length < 1 := Nat.not_lt.mpr nonempty
  have total : 1 ≤ blockCount content.length chunkSize := by
    rw [Nat.succ_le_iff, lt_blockCount_iff positive]
    omega
  obtain ⟨bitmap, made⟩ : ∃ b, ChunkBitmap.make (blockCount content.length chunkSize) =
      .ok b := ⟨_, dif_pos total⟩
  let m : FileManifest :=
    { protocol := transferProtocol, transferId, filename := safeName
      sizeBytes := content.length, mime, chunkSize
      totalChunks := blockCount content.length chunkSize, sha256 := hashFile T content }
  have described : FileManifest.fromFile T name transferId safeName mime chunkSize content =
      .ok m := by
    simp only [FileManifest.fromFile, full, if_false]
    rfl
  refine ⟨{ manifest := m, content, acked := bitmap, received := bitmap, part := []
            reader := ChunkReader.make m.filename content m.chunkSize m.totalChunks },
    ?_, rfl, rfl, rfl, ?_⟩
  · simp only [start, described, bind, Except.bind]
    rw [show ChunkBitmap.make m.totalChunks = .ok bitmap from made]
    rfl
  · have empty := fun n => ChunkBitmap.has_make made n
    exact
      { sound := FileManifest.sound_of_fromFile positive described
        size := rfl
        reader := ChunkReader.make_follows ..
        ackedTotal := (empty 0).1
        receivedTotal := (empty 0).1
        received := fun n _ _ => by simp [(empty n).2]
        acked := fun n _ _ held => by simp [(empty n).2] at held
        part := Blocks.Carries.nil .. }

def SameFile (t t' : ChunkTransfer) : Prop := t'.manifest = t.manifest ∧ t'.content = t.content

section
variable (h : t.Consistent sent)
include h

lemma Consistent.receive {n} (one : 1 ≤ n) (last : n ≤ t.manifest.totalChunks) :
    ∃ t', t.receive n (block t.manifest.chunkSize t.content (n - 1)) = .ok t' ∧
      SameFile t t' ∧ t'.Consistent fun k => k = n ∨ sent k := by
  have length := h.sound.length_chunk one last h.size
  unfold ChunkTransfer.receive
  simp only [one, last, and_self, not_true_eq_false, if_false, length, ne_eq]
  rcases Bool.eq_false_or_eq_true (t.received.has n) with old | new
  · have known : sent n := (h.received n one last).mp old
    rw [if_pos old]
    refine ⟨t, rfl, ⟨rfl, rfl⟩, h.congr fun k => ?_⟩
    constructor
    · exact .inr
    · rintro (rfl | before)
      · exact known
      · exact before
  · obtain ⟨fresh, received, marks, total, has⟩ :=
      ChunkBitmap.mark_eq one (h.receivedTotal.symm ▸ last)
    rw [new, if_neg Bool.false_ne_true, marks]
    refine ⟨_, rfl, ⟨rfl, rfl⟩, ?_⟩
    have inside := (h.sound.inside_iff one).mp last
    exact
      { sound := h.sound, size := h.size, reader := h.reader, ackedTotal := h.ackedTotal
        receivedTotal := total.trans h.receivedTotal
        received := fun k hk hlast => by
          rw [has k hk, Bool.or_eq_true, decide_eq_true_eq, h.received k hk hlast]
        acked := fun k hk hlast held => .inr (h.acked k hk hlast held)
        part := by
          have written : Blocks.Carries t.manifest.chunkSize t.content
              (writeChunk t.part n t.manifest.chunkSize _) _ :=
            h.part.write h.sound.chunk (h.size.symm ▸ inside)
          apply written.mono
          rintro k (rfl | before)
          · exact .inl rfl
          · exact .inr before }

lemma Consistent.send {n} (one : 1 ≤ n) (last : n ≤ t.manifest.totalChunks) (ackArrives) :
    ∃ t', t.send n ackArrives = .ok t' ∧ SameFile t t' ∧
      t'.Consistent fun k => k = n ∨ sent k := by
  obtain ⟨data, follows⟩ := h.reader.read h.sound h.size one last
  have moved : ({ t with reader := (t.reader.read n).2 } : ChunkTransfer).Consistent sent :=
    { h with reader := follows }
  obtain ⟨t', receives, same, consistent⟩ := moved.receive one last
  have received : t.send n ackArrives = (if ackArrives then do
      let (_, acked) ← t'.acked.mark n
      pure { t' with acked } else pure t') := by
    unfold ChunkTransfer.send
    simp only [data, bind, Except.bind]
    rw [receives]
  rw [received]
  cases ackArrives with
  | false => exact ⟨t', rfl, same, consistent⟩
  | true =>
    have lastAcked : n ≤ t'.acked.total := by
      rwa [consistent.ackedTotal, same.1]
    obtain ⟨fresh, acked, marks, total, has⟩ := ChunkBitmap.mark_eq one lastAcked
    rw [if_pos rfl, marks]
    refine ⟨_, rfl, same, ?_⟩
    exact
      { consistent with
        ackedTotal := total.trans consistent.ackedTotal
        acked := fun k hk hlast held => by
          rw [has k hk, Bool.or_eq_true, decide_eq_true_eq] at held
          rcases held with rfl | held
          · exact .inl rfl
          · exact consistent.acked k hk hlast held }

lemma Consistent.resume :
    ∃ t', t.resume = .ok t' ∧ SameFile t t' ∧ t'.Consistent sent := by
  have reopened := ChunkReader.make_follows t.manifest.filename t.manifest t.content
  unfold ChunkTransfer.resume
  split
  · exact ⟨_, rfl, ⟨rfl, rfl⟩, { h with reader := reopened }⟩
  · obtain ⟨peer, decodes, total, held⟩ := t.received.fromB64_toB64
    rw [h.receivedTotal] at decodes held
    obtain ⟨acked, adopts, ackedTotal, has⟩ := adoptBitmap_eq t.acked peer
    simp only [decodes, adopts, bind, Except.bind]
    refine ⟨_, rfl, ⟨rfl, rfl⟩, ?_⟩
    exact
      { h with
        reader := reopened
        ackedTotal := ackedTotal.trans h.ackedTotal
        acked := fun n one last known => by
          rw [has n one (h.ackedTotal.symm ▸ last), held n one last] at known
          rcases known with known | known
          · exact h.acked n one last known
          · exact (h.received n one last).mp known }

lemma Consistent.run {events} (inRange : ∀ n a, .chunk n a ∈ events →
      1 ≤ n ∧ n ≤ t.manifest.totalChunks) : ∃ t', t.run events = .ok t' ∧ SameFile t t' ∧
      t'.Consistent fun n => sent n ∨ ∃ a, .chunk n a ∈ events := by
  induction events generalizing t sent with
  | nil => exact ⟨t, rfl, ⟨rfl, rfl⟩, h.congr fun n => by simp⟩
  | cons e events ih =>
    have first : ∃ t₁, t.step e = .ok t₁ ∧ SameFile t t₁ ∧
        t₁.Consistent fun n => sent n ∨ ∃ a, e = .chunk n a := by
      cases e with
      | chunk n a =>
        obtain ⟨one, last⟩ := inRange n a mem_cons_self
        obtain ⟨t₁, sends, same, consistent⟩ := h.send one last a
        refine ⟨t₁, sends, same, consistent.congr fun k => ?_⟩
        constructor
        · rintro (rfl | before)
          · exact .inr ⟨a, rfl⟩
          · exact .inl before
        · rintro (before | ⟨b, chunk⟩)
          · exact .inr before
          · exact .inl (ChunkEvent.chunk.inj chunk).1.symm
      | resume =>
        obtain ⟨t₁, resumes, same, consistent⟩ := h.resume
        exact ⟨t₁, resumes, same, consistent.congr fun k => by simp⟩
    obtain ⟨t₁, steps, same, consistent⟩ := first
    have inRange₁ (n : ℕ) (a : Bool) (listed : .chunk n a ∈ events) :
        1 ≤ n ∧ n ≤ t₁.manifest.totalChunks := by
      rw [same.1]
      exact inRange n a (mem_cons_of_mem e listed)
    obtain ⟨t', runs, same', final⟩ := ih consistent inRange₁
    refine ⟨t', ?_, ⟨same'.1.trans same.1, same'.2.trans same.2⟩, final.congr fun n => ?_⟩
    · rwa [ChunkTransfer.run, foldlM_cons, steps]
    · simp [or_assoc, exists_or, eq_comm]

end

/-- Every run of chunks in any order, with duplicates, lost acknowledgements and resumptions
goes through; the file is put back together once every chunk has come, and the bitmap says so
exactly then. -/
theorem chunks_reassemble (T : TransferPrimitives) (name transferId safeName mime : String)
    (content : Bytes) (chunkSize : ℕ) (nonempty : 1 ≤ content.length) (positive : 1 ≤ chunkSize)
    (events : List ChunkEvent) (inRange : ∀ n a, .chunk n a ∈ events →
      1 ≤ n ∧ n ≤ blockCount content.length chunkSize) :
    ∃ t, (start T name transferId safeName mime chunkSize content >>= (run · events)) = .ok t ∧
      (∀ n, 1 ≤ n → n ≤ blockCount content.length chunkSize →
        ∃ data, (t.reader.read n).1 = .ok data ∧
          data.length = expectedChunkLength t.manifest n) ∧
      (t.received.isComplete ↔
        ∀ n, 1 ≤ n → n ≤ blockCount content.length chunkSize →
          ∃ a, .chunk n a ∈ events) ∧
      (t.received.isComplete → t.part = content ∧ t.part.length = content.length) := by
  obtain ⟨t₀, starts, content₀, size₀, chunk₀, consistent₀⟩ := start_consistent
    positive nonempty
  have total₀ : t₀.manifest.totalChunks = blockCount content.length chunkSize := by
    rw [consistent₀.sound.total, size₀, chunk₀]
  obtain ⟨t, runs, ⟨manifest, file⟩, h⟩ := consistent₀.run (by rw [total₀]; exact inRange)
  have total : t.manifest.totalChunks = blockCount content.length chunkSize := by
    rw [manifest, total₀]
  have complete : t.received.isComplete ↔
      ∀ n, 1 ≤ n → n ≤ blockCount content.length chunkSize →
        ∃ a, .chunk n a ∈ events := by
    rw [ChunkBitmap.isComplete_iff, h.receivedTotal, total]
    refine forall_congr' fun n => forall_congr' fun one => forall_congr' fun last => ?_
    rw [h.received n one (total.symm ▸ last), false_or]
  refine ⟨t, ?_, fun n one last => ?_, complete, fun done => ?_⟩
  · rwa [starts]
  · have last' : n ≤ t.manifest.totalChunks := total.symm ▸ last
    exact ⟨_, (h.reader.read h.sound h.size one last').1, h.sound.length_chunk one last' h.size⟩
  · have whole : t.part = t.content := h.part.eq_text fun k inside => by
      have one : 1 ≤ k + 1 := Nat.le_add_left 1 k
      have last : k + 1 ≤ t.manifest.totalChunks := by
        rwa [h.sound.inside_iff one, ← h.size]
      exact .inr (complete.mp done (k + 1) one (total ▸ last))
    have restored : t.part = content := by rw [whole, file, content₀]
    exact ⟨restored, congrArg List.length restored⟩

theorem five_bytes_reassemble :
    ∃ t, (start plainTransfer "a.bin" "tf_0000000a" "a.bin" "text/plain" 2 [1, 2, 3, 4, 5] >>=
        (run · [.chunk 3 true, .resume, .chunk 1 false, .chunk 1 true, .resume, .chunk 2 true])) =
          .ok t ∧
      t.received.isComplete ∧ t.part = [1, 2, 3, 4, 5] := by
  obtain ⟨t, runs, -, complete, whole⟩ := chunks_reassemble plainTransfer "a.bin" "tf_0000000a"
    "a.bin" "text/plain" [1, 2, 3, 4, 5] 2 (by decide) (by decide)
    [.chunk 3 true, .resume, .chunk 1 false, .chunk 1 true, .resume, .chunk 2 true] (by
      intro n a listed
      simp only [mem_cons, ChunkEvent.chunk.injEq, reduceCtorEq, not_mem_nil] at listed
      rcases listed with ⟨rfl, -⟩ | h | ⟨rfl, -⟩ | ⟨rfl, -⟩ | h | ⟨rfl, -⟩ | h
      all_goals first | exact h.elim | decide)
  have done : t.received.isComplete := complete.mpr fun n one last => by
    have few : n ≤ 3 := last
    interval_cases n
    · exact ⟨true, by decide⟩
    · exact ⟨true, by decide⟩
    · exact ⟨true, by decide⟩
  exact ⟨t, runs, done, (whole done).1⟩

end ChunkTransfer

end Ghostlink.FileTransfer
