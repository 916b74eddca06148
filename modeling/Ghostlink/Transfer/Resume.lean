import Ghostlink.Transfer.Manager
import Ghostlink.Transfer.Publication

/-! Which chunks a sender sends again when the receiver's bitmap arrives with FILE_ACCEPT. -/

namespace Ghostlink.FileTransfer.Outgoing
open ChunkBitmap

lemma missing_eq_iff {b b' : ChunkBitmap} (total : b.total = b'.total) :
    b.missing = b'.missing ↔ ∀ n, 1 ≤ n → n ≤ b.total → b.has n = b'.has n := by
  rw [missing, missing, ← total]
  constructor
  · intro same n one last
    have listed : n ∈ List.range' 1 b.total := List.mem_range'_1.mpr ⟨one, by omega⟩
    have both := congrArg (n ∈ ·) same
    simpa [listed] using both
  · intro same
    refine List.filter_congr fun n listed => ?_
    rw [List.mem_range'_1] at listed
    rw [same n listed.1 (by omega)]

lemma fromB64_ok {encoded : String} {total : ℕ} {b : ChunkBitmap}
    (h : fromB64 encoded total = .ok b) : b.total = total ∧ encoded ≠ "" := by
  unfold fromB64 load at h
  split at h
  · split_ifs at h
  · next decoded =>
    split_ifs at h with positive size
    cases h
    refine ⟨rfl, ?_⟩
    rintro rfl
    cases decoded
    rw [List.length_nil] at size
    omega

lemma accepted_bitmap (o : Outgoing) : o.accepted.bitmap = o.bitmap := by
  unfold accepted
  split_ifs <;> rfl

/-- After a resume the sender owes exactly what the receiver lacks when its own acknowledgements
name only chunks that the receiver holds: the two bitmaps are merged. -/
theorem onAccept_missing_iff {o : Outgoing} {encoded : String} {peer : ChunkBitmap}
    (fits : o.bitmap.total = o.manifest.totalChunks)
    (wellFormed : fromB64 encoded o.manifest.totalChunks = .ok peer) :
    (o.onAccept (some encoded)).bitmap.missing = peer.missing ↔
      ∀ n, 1 ≤ n → n ≤ o.manifest.totalChunks → o.bitmap.has n → peer.has n := by
  obtain ⟨total, nonempty⟩ := fromB64_ok wellFormed
  obtain ⟨b, adopts, size, has⟩ := adoptBitmap_eq o.bitmap peer
  have adopted : (o.onAccept (some encoded)).bitmap = b := by
    simp [onAccept, nonempty, wellFormed, adopts, accepted_bitmap]
  rw [adopted, missing_eq_iff (size.trans (fits.trans total.symm)), size, fits]
  refine forall_congr' fun n => forall₂_congr fun one last => ?_
  rw [Bool.eq_iff_iff, has n one (fits ▸ last)]
  exact or_iff_right_iff_imp

def twoChunks (bitmap : ChunkBitmap) : Outgoing where
  manifest := Reception.sampleManifest "a.txt" [1, 2]
  state := .paused
  bitmap
  resumeNotified := false
  createdAt := 0
  error := none

theorem resume_of_received : ∃ peer, fromB64 "AQ==" 2 = .ok peer ∧
    ((twoChunks peer).onAccept (some "AQ==")).bitmap.missing = peer.missing := by
  cases loads : fromB64 "AQ==" 2 with
  | error =>
    have fine : (fromB64 "AQ==" 2).isOk := by decide +kernel
    rw [loads] at fine
    cases fine
  | ok peer =>
    exact ⟨peer, rfl, (onAccept_missing_iff (fromB64_ok loads).1 loads).mpr fun _ _ _ held => held⟩

/-- The sender has an acknowledgement for a chunk that the receiver lost. -/
theorem lost_chunk_never_resent :
    ((fromB64 "Ag==" 2).toOption.bind fun acked =>
      (fromB64 "AQ==" 2).toOption.map fun peer =>
        (((twoChunks acked).onAccept (some "AQ==")).bitmap.missing, peer.missing)) =
      some ([], [2]) := by
  decide +kernel

end Ghostlink.FileTransfer.Outgoing
