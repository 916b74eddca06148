import Ghostlink.Transfer.Steps

/-! When the `.part` file of a transfer becomes a download. Between the hash, the rename and the
change of state a handler is suspended twice, and nothing keeps other handlers, a pause or a
cancellation out; where they stay out, a file is published exactly when the transfer completes. -/

namespace Ghostlink.FileTransfer
open Messaging List Bool

def Task.verified (sha256 : String) : Task → Bool
  | .hashed (.ok digest) => digest == sha256
  | .choosing | .chosen _ | .finalizing _ => true
  | _ => false

namespace Reception

def overwrites (r : Reception) : ReceptionEvent → Bool
  | .work k .fine =>
    match r.tasks[k]?, r.part with
    | some (.writing n data), some part => writeChunk part n r.manifest.chunkSize data != part
    | _, _ => false
  | _ => false

/-- A rename out of its turn: the transfer is not in TRANSFERRING, or the disk lets the file be
renamed and refuses its `chmod`. -/
def misplaces (r : Reception) : ReceptionEvent → Bool
  | .work k disk =>
    match r.tasks[k]?, r.part, disk with
    | some (.finalizing _), some _, .fine => r.transfer.state != .transferring
    | some (.finalizing _), some _, .refusesChmod _ => true
    | _, _, _ => false
  | _ => false

/-- Calls of `accept` do not overlap, no write changes the file between its hash and its rename,
the file is renamed in TRANSFERRING, and nothing ends or pauses the transfer between the rename
and the completion. -/
def Undisturbed (T : TransferPrimitives) (r : Reception) (e : ReceptionEvent) : Prop :=
  r.Apart e ∧ (r.tasks.any (·.verified r.manifest.sha256) → r.overwrites e = false) ∧
    r.misplaces e = false ∧
    (r.moved ≠ [] → r.transfer.state.isTerminal = false → r.disturbs T e = false)

instance (T : TransferPrimitives) (r : Reception) (e : ReceptionEvent) :
    Decidable (r.Undisturbed T e) :=
  inferInstanceAs (Decidable (_ ∧ (_ → _) ∧ _ ∧ (_ → _ → _)))

end Reception

/-- While a handler is past a right hash, the file has that hash; what was renamed had it, and
the transfer is still open or completed. -/
structure Core.Verified (T : TransferPrimitives) (c : Core) : Prop where
  part : ∀ t ∈ c.tasks, t.verified c.manifest.sha256 →
    ∀ bytes, c.part = some bytes → hashFile T bytes = c.manifest.sha256
  moved : ∀ file ∈ c.moved, hashFile T file.2 = c.manifest.sha256
  state : c.moved ≠ [] → c.state = .transferring ∨ c.state = .completed

namespace Reception
variable {T : TransferPrimitives} {taken : String → Bool} {r : Reception} {e : ReceptionEvent}
  {c : Core}

lemma hashTemp_right {disk sha256 bytes} (has : r.part = some bytes)
    (right : (Task.hashed (r.hashTemp T disk)).verified sha256) :
    hashFile T bytes = sha256 := by
  unfold hashTemp at right
  rw [has] at right
  cases disk with
  | fine =>
    dsimp only at right
    split at right
    · exact absurd right false_ne_true
    · exact beq_iff_eq.mp right
  | refuses | refusesChmod => exact absurd right false_ne_true

variable {t : Task}

lemma Next.verified {k} {t' : Task} (h : Next T taken r e k t t')
    (right : t'.verified r.manifest.sha256) : t.verified r.manifest.sha256 ∨
      ∀ bytes, r.part = some bytes → hashFile T bytes = r.manifest.sha256 := by
  cases h with
  | hashes => exact .inr fun bytes has => hashTemp_right has right
  | finalize | choose => exact .inl (beq_self_eq_true _)
  | chooses | finalizeChosen => exact .inl rfl
  | _ => exact absurd right false_ne_true

lemma verified_set (h : r.core.Verified T) {k : ℕ} (right : t.verified r.manifest.sha256 →
      ∀ bytes, r.part = some bytes → hashFile T bytes = r.manifest.sha256) :
    ({ r.core with tasks := r.tasks.set k t } : Core).Verified T := by
  refine { h with part := fun u hu right' => ?_ }
  rcases mem_or_eq_of_mem_set hu with old | rfl
  · exact h.part u old right'
  · exact right right'

lemma not_verified_waiting (h : r.core.Waiting) (ht : t ∈ r.tasks)
    (right : t.verified r.manifest.sha256) : False := by
  rcases h.stages t ht with accepts | rfl
  · cases t <;> first | exact absurd accepts false_ne_true | exact absurd right false_ne_true
  · exact absurd right false_ne_true

lemma verified_step (h : r.core.Verified T) (phased : r.core.Phased) (calm : r.Undisturbed T e)
    (change : Change T taken r e c) : c.Verified T := by
  obtain ⟨apart, unwritten, placed, calm⟩ := calm
  have stopped (k : ℕ) : ({ r.core with tasks := r.tasks.set k .done } : Core).Verified T :=
    verified_set h fun right => absurd right false_ne_true
  cases change with
  | still => exact h
  | asked | received =>
    refine { h with part := fun u hu right => ?_ }
    rcases mem_append.mp hu with old | new
    · exact h.part u old right
    · rw [mem_singleton.mp new] at right
      exact absurd right false_ne_true
  | @advanced _ k t t' listed next =>
    refine verified_set h fun right => ?_
    rcases next.verified right with before | now
    · exact h.part t (mem_of_getElem? listed) before
    · exact now
  | @began k n _ listed state =>
    have next : ({ r.core with tasks := r.tasks.set k .acking } : Core).Verified T :=
      verified_set h fun right => absurd right false_ne_true
    exact { next with state := fun _ => .inl rfl }
  | @created k destination listed =>
    rcases phased with waiting | running
    · refine { h with part := fun u hu right => ?_ }
      rcases mem_or_eq_of_mem_set hu with old | rfl
      · exact (not_verified_waiting waiting old right).elim
      · exact absurd right false_ne_true
    · exact (not_running running listed rfl).elim
  | @accepted k destination _ listed state =>
    have unmoved : r.moved = [] := by
      rcases phased with waiting | running
      · exact waiting.unmoved
      · exact (not_running running listed rfl).elim
    exact { stopped k with state := fun moved => absurd unmoved moved }
  | @refused k => exact { stopped k with }
  | @wrote k n data bytes listed has =>
    refine { h with part := fun u hu right => ?_ }
    rcases mem_or_eq_of_mem_set hu with old | rfl
    · have same := unwritten (any_eq_true.mpr ⟨u, old, right⟩)
      simp only [overwrites, listed, has, bne_eq_false_iff_eq] at same
      intro bytes' now
      rw [← Option.some.inj now, same]
      exact h.part u old right bytes has
    · exact absurd right false_ne_true
  | @renamed k disk destination bytes result listed has answer =>
    have right : hashFile T bytes = r.manifest.sha256 :=
      h.part _ (mem_of_getElem? listed) rfl bytes has
    have state : r.transfer.state = .transferring := by
      rcases answer with ⟨rfl, -⟩ | ⟨strerror, rfl, -⟩
      · simpa only [misplaces, listed, has, bne_eq_false_iff_eq] using placed
      · simp only [misplaces, listed, has] at placed
        exact absurd placed nofun
    refine ⟨fun _ _ _ _ => nofun, fun file hf => ?_, fun _ => .inl state⟩
    rcases mem_append.mp hf with old | new
    · exact h.moved file old
    · rwa [mem_singleton.mp new]
  | @completed k saved _ listed state => exact { stopped k with state := fun _ => .inr rfl }
  | @saved k => exact { stopped k with }
  | @ended _ _ _ tasks disturbs open_ terminal other left stops =>
    have unmoved : r.moved = [] := by
      by_contra moved
      exact absurd ((calm moved open_).symm.trans disturbs) false_ne_true
    have kept : ({ r.core with tasks } : Core).Verified T := by
      rcases stops with rfl | ⟨k, -, -, rfl⟩
      · exact h
      · exact stopped k
    refine ⟨fun u hu right bytes has => ?_, h.moved, fun moved => absurd unmoved moved⟩
    rcases left with rfl | rfl
    · cases has
    · exact kept.part u hu right bytes has
  | paused state =>
    have unmoved : r.moved = [] := by
      by_contra moved
      exact absurd (calm moved (by rw [state]; rfl)) nofun
    exact { h with state := fun moved => absurd unmoved moved }
  | unpaused state => exact { h with state := fun _ => .inl rfl }
  | purged => exact { h with }

def stepIn (T : TransferPrimitives) (r : Reception) (e : (String → Bool) × ReceptionEvent) :
    Reception := r.step T e.1 e.2

lemma core_manifest (r : Reception) (e) : (r.step T taken e).manifest = r.manifest := by
  have kept {c : Core} (change : Change T taken r e c) : c.manifest = r.manifest := by
    cases change <;> rfl
  exact kept (step_change T taken r e)

variable {i : String} {m : FileManifest}

lemma offered_core (offer : offered i m = .ok r) :
    r.core = { manifest := m, state := .offered, savedPath := none, destination := none
               part := none, tasks := [], moved := [] } := by
  simp only [offered, Checks.bind_eq_ok, Checks.pure_eq_ok] at offer
  obtain ⟨bitmap, -, rfl⟩ := offer
  rfl

lemma offered_waiting (offer : offered i m = .ok r) : r.core.Waiting := by
  rw [offered_core offer]
  refine ⟨.inl rfl, rfl, fun t ht => absurd ht not_mem_nil, fun j k t u ht => ?_⟩
  exact absurd (mem_of_getElem? ht) not_mem_nil

lemma offered_verified (offer : offered i m = .ok r) : r.core.Verified T := by
  rw [offered_core offer]
  exact ⟨nofun, nofun, fun moved => absurd rfl moved⟩

structure Kept (T : TransferPrimitives) (m : FileManifest) (r : Reception) : Prop where
  phased : r.core.Phased
  verified : r.core.Verified T
  manifest : r.manifest = m

lemma Kept.step (h : r.Kept T m) (calm : r.Undisturbed T e) : (r.step T taken e).Kept T m where
  phased := phased_step h.phased calm.1
  verified := verified_step h.verified h.phased calm (step_change T taken r e)
  manifest := (core_manifest r e).trans h.manifest

lemma offered_kept (offer : offered i m = .ok r) : r.Kept T m where
  phased := .inl (offered_waiting offer)
  verified := offered_verified offer
  manifest := congrArg Core.manifest (offered_core offer)

/-- In a run without a disturbance the file is renamed at most once, what was renamed has the
hash of the manifest, and a transfer that has ended was completed exactly if its file was
renamed. -/
theorem published_iff_completed (T : TransferPrimitives) {transferId : String} {m : FileManifest}
    {r : Reception} (offer : offered transferId m = .ok r)
    (events : List ((String → Bool) × ReceptionEvent))
    (calm : Runs.Along (stepIn T) (fun r e => r.Undisturbed T e.2) r events) :
    let r' := events.foldl (stepIn T) r
    r'.moved.length ≤ 1 ∧ (∀ file ∈ r'.moved, hashFile T file.2 = m.sha256) ∧
      (r'.transfer.state.isTerminal →
        (r'.transfer.state = .completed ↔ r'.moved ≠ [])) := by
  have kept : (events.foldl (stepIn T) r).Kept T m :=
    calm.invariant (offered_kept offer) fun r e h quiet => h.step quiet
  refine ⟨kept.phased.moved_le, fun file hf => ?_, fun terminal => ⟨fun done none => ?_,
    fun moved => ?_⟩⟩
  · rw [← kept.manifest]
    exact kept.verified.moved file hf
  · obtain ⟨name, bytes, -, moved⟩ := kept.phased.completed done
    exact absurd (none.symm.trans moved) nofun
  · rcases kept.verified.state moved with open_ | done
    · exact absurd (terminal.symm.trans (congrArg TransferState.isTerminal open_)) nofun
    · exact done

def sampleManifest (filename : String) (content : Bytes) : FileManifest where
  protocol := transferProtocol
  transferId := "tf_0000000a"
  filename
  sizeBytes := content.length
  mime := "text/plain"
  chunkSize := 1
  totalChunks := content.length
  sha256 := hashFile plainTransfer content

def sample (content : Bytes) (some_content : 1 ≤ content.length) : Reception where
  manifest := sampleManifest "a.bin" content
  transfer := { transferId := "tf_0000000a", state := .offered }
  bitmap := .empty content.length some_content

lemma offered_sample (content : Bytes) (some_content : 1 ≤ content.length) :
    offered "tf_0000000a" (sampleManifest "a.bin" content) = .ok (sample content some_content) := by
  have made : ChunkBitmap.make content.length = .ok (.empty content.length some_content) :=
    dif_pos some_content
  show (ChunkBitmap.make content.length >>= _) = _
  rw [made]
  rfl

def accepted : List ReceptionEvent :=
  [.accept 0 100, .work 0 .fine, .resume 0, .work 0 .fine, .resume 0]

def frame (n : ℕ) (data : Bytes) : ReceptionEvent :=
  .chunk n (List.replicate 12 0 ++ data ++ List.replicate 16 0) (some (Vector.replicate 32 0))

def throughRename (k : ℕ) : List ReceptionEvent :=
  [.work k .fine, .resume k, .resume k, .work k .fine, .resume k, .work k .fine]

def inEmpty (events : List ReceptionEvent) : List ((String → Bool) × ReceptionEvent) :=
  (accepted ++ events).map fun e => (fun _ => false, e)

def outcome (content : Bytes) (some_content : 1 ≤ content.length)
    (events : List ReceptionEvent) : Reception :=
  (inEmpty events).foldl (stepIn plainTransfer) (sample content some_content)

def cancelledRun : Reception :=
  outcome [7] (by decide) (frame 1 [7] :: throughRename 1 ++ [.cancel none, .resume 1])

/-- Both handlers are suspended in their acknowledgement when the last chunk is marked; both
finish, and the second one fails the transfer for want of the file. -/
def finishedTwice : Reception :=
  outcome [7, 8] (by decide)
    [frame 1 [7], frame 2 [8], .work 1 .fine, .work 2 .fine, .resume 1, .resume 2, .resume 1,
      .resume 2, .work 1 .fine, .resume 1, .work 1 .fine, .work 2 .fine, .resume 2, .resume 1]

def overwrittenRun : Reception :=
  outcome [7] (by decide)
    [frame 1 [7], frame 1 [9], .work 1 .fine, .resume 1, .resume 1, .work 1 .fine, .resume 1,
      .work 2 .fine, .work 1 .fine, .resume 1]

theorem published_without_completion :
    (cancelledRun.transfer.state = .cancelled ∧ cancelledRun.moved = [("a.bin", [7])]) ∧
    (finishedTwice.transfer.state = .failed ∧ finishedTwice.moved = [("a.bin", [7, 8])]) ∧
    (overwrittenRun.transfer.state = .completed ∧ overwrittenRun.moved = [("a.bin", [9])] ∧
      hashFile plainTransfer [9] ≠ (sampleManifest "a.bin" [7]).sha256) := by
  decide +kernel

def sequentialRun : List ((String → Bool) × ReceptionEvent) :=
  inEmpty ([frame 1 [7], .work 1 .fine, .resume 1, .resume 1, frame 2 [8]] ++ throughRename 2 ++
    [.resume 2, .cancel none])

theorem sequential_chunks_published :
    let r := sequentialRun.foldl (stepIn plainTransfer) (sample [7, 8] (by decide))
    r.transfer.state = .completed ∧ r.moved.length ≤ 1 ∧
      (r.transfer.state.isTerminal →
        (r.transfer.state = .completed ↔ r.moved ≠ [])) := by
  have published := published_iff_completed plainTransfer (offered_sample [7, 8] (by decide))
    sequentialRun (by decide +kernel)
  exact ⟨by decide +kernel, published.1, published.2.2⟩

end Reception

end Ghostlink.FileTransfer
