import Ghostlink.Transfer.Chunking
import Ghostlink.Transfer.Storage
import Ghostlink.Base.Runs

/-! One incoming transfer: its state, its `.part` file, and the coroutines that work on it. A call
of `accept` is suspended while a thread chooses the destination and creates the file; a chunk's
handler is suspended while a thread writes, hashes or renames for it and while its
acknowledgement is sent. A thread's work and the resumption after it are steps of their own. -/

namespace Ghostlink.FileTransfer
open Messaging

inductive TransferDirection
  | sending | receiving
  deriving DecidableEq, Repr

inductive TransferState
  | offered | accepted | rejected | queued | transferring | paused | completed | cancelled
  | failed | expired
  deriving DecidableEq, Repr

namespace TransferState

def value : TransferState → String
  | offered => "offered"
  | accepted => "accepted"
  | rejected => "rejected"
  | queued => "queued"
  | transferring => "transferring"
  | paused => "paused"
  | completed => "completed"
  | cancelled => "cancelled"
  | failed => "failed"
  | expired => "expired"

def isTerminal : TransferState → Bool
  | rejected | completed | cancelled | failed | expired => true
  | _ => false

def transitions (direction : TransferDirection) : TransferState → List TransferState
  | queued => if direction = .sending then [offered, cancelled] else []
  | offered => [accepted, rejected, cancelled, expired, failed]
  | accepted => [transferring, cancelled, failed, expired]
  | transferring => [paused, completed, cancelled, failed, expired]
  | paused => [transferring, cancelled, failed, expired]
  | rejected | completed | cancelled | failed | expired => []

end TransferState

def TransferDirection.value : TransferDirection → String
  | .sending => "sending"
  | .receiving => "receiving"

structure Transfer where
  transferId : String
  state : TransferState
  savedPath : Option String := none
  chunksDone : ℕ := 0
  bytesDone : ℕ := 0
  error : Option String := none
  deriving DecidableEq

def Transfer.transitionTo (t : Transfer) (state : TransferState) (error : Option String) :
    Except TransferError Transfer :=
  let direction := TransferDirection.receiving
  if state ∈ t.state.transitions direction then
    .ok { t with state, error := error.or t.error }
  else .error
    { kind := .state
      message := direction.value ++ " transfer cannot move " ++ t.state.value ++ " → " ++
        state.value ++ "."
      hint := some "Follow the offered→accepted→transferring lifecycle." }

/-- How the disk answers: it may refuse with a text, or let a file be renamed and refuse the
`chmod`. -/
inductive Disk
  | fine
  | refuses (strerror : String)
  | refusesChmod (strerror : String)
  deriving DecidableEq, Repr

/-- Where a call of `accept` (the first four) or a chunk's handler is suspended. -/
inductive Task
  | accepting
  | placed (destination : Except TransferError String)
  | opening (destination : String)
  | opened (destination : String) (error : Option String)
  | writing (n : ℕ) (data : Bytes)
  | written (n : ℕ) (error : Option String)
  | acking
  | hashing
  | hashed (digest : Except String String)
  | choosing
  | chosen (destination : Except TransferError String)
  | finalizing (destination : String)
  | finalized (result : Except String String)
  | done

structure Reception where
  manifest : FileManifest
  transfer : Transfer
  bitmap : ChunkBitmap
  destination : Option String := none
  /-- The manager has forgotten the transfer; its handlers still hold the object. -/
  purged : Bool := false
  part : Option Bytes := none
  tasks : List Task := []
  /-- Every rename of the `.part` file: the name it was given and the bytes it held. -/
  moved : List (String × Bytes) := []

namespace Reception
variable (T : TransferPrimitives) (r : Reception)

def offered (transferId : String) (m : FileManifest) : Except TransferError Reception := do
  let bitmap ← ChunkBitmap.make m.totalChunks
  pure { manifest := m, transfer := { transferId, state := .offered }
         bitmap }

def setTask (k : ℕ) (t : Task) : Reception := { r with tasks := r.tasks.set k t }

/-- A terminal state that is set again is left alone; any state but COMPLETED deletes the `.part`
file, if the disk lets it (`deletes`). -/
def settleTerminal (state : TransferState) (error : Option String) (deletes : Bool) :
    Except TransferError Reception :=
  match r.transfer.transitionTo state error with
  | .ok transfer =>
    .ok { r with transfer, part := if state ≠ .completed ∧ deletes then none else r.part }
  | .error e => if r.transfer.state = state then .ok r else .error e

/-- An error of `settleTerminal` ends the caller and leaves the transfer alone. -/
def settled (state : TransferState) (error : Option String) (deletes : Bool) : Reception :=
  match r.settleTerminal state error deletes with
  | .ok r => r
  | .error _ => r

def failTransfer (message : String) (deletes : Bool) : Reception :=
  if r.transfer.state.isTerminal then r else r.settled .failed (some message) deletes

/-- The checks of `accept` before its first suspension; `usage` is what the temp files hold. -/
def checkAccept (usage limit : ℕ) : Except TransferError Unit := do
  if r.purged then
    throw { kind := .validation, message := "Unknown transfer '" ++ r.transfer.transferId ++ "'."
            hint := some "Use /transfers to list known transfers." }
  if r.transfer.state ≠ .offered then
    throw { kind := .state
            message := "Transfer " ++ r.transfer.transferId ++ " is " ++ r.transfer.state.value ++
              ", not awaiting approval."
            hint := some "Only offered transfers can be accepted." }
  if usage + r.manifest.sizeBytes > limit then
    throw { kind := .limit
            message := s!"Accepting {r.manifest.sizeBytes} bytes would exceed the temp storage " ++
              s!"limit ({limit} bytes)."
            hint := some <| "Free up downloads, raise transfer.temp_storage_limit_mb, " ++
              "or ask the peer for a smaller file." }

def accept (usage limit : ℕ) : Reception :=
  match r.checkAccept usage limit with
  | .error _ => r
  | .ok _ => { r with tasks := r.tasks ++ [.accepting] }

/-- What a thread finds when it looks for a destination; `taken` says which names the download
directory has. -/
def chooseDestination (taken : String → Bool) (r : Reception) (disk : Disk) :
    Except TransferError String :=
  match disk with
  | .fine => destinationFor T taken r.manifest.filename
  | .refuses strerror | .refusesChmod strerror => .error
    { kind := .storage
      message := "Could not create transfer directories: " ++ strerror ++ "."
      hint := some "Check that the state and download locations are writable." }

def finishAccept (destination : String) : Reception :=
  let r := { r with destination := some destination }
  match r.transfer.transitionTo .accepted none with
  | .ok transfer => { r with transfer }
  | .error _ => r

def chunkAad (transferId : String) (n : ℕ) : Bytes := utf8 (transferId ++ "|" ++ toString n)

/-- What becomes of a chunk frame: the transfer fails, the frame is dropped or acknowledged at
once, or a handler goes on to write. -/
inductive Verdict
  | fails (message : String)
  | ignored
  | writes (plaintext : Bytes)

/-- The checks of `_on_chunk` before its first suspension; `key` is the transfer's key, if the
session has one. -/
def checkChunk (n : ℕ) (sealed : Bytes) (key : Option Key) : Verdict :=
  let state := r.transfer.state
  if r.purged then .ignored
  else if state = .offered then .ignored
  else if state.isTerminal ∨ state = .paused then .ignored
  else if ¬ (1 ≤ n ∧ n ≤ r.manifest.totalChunks) then .fails s!"chunk number {n} is out of range"
  else if sealed.length ≠ expectedChunkLength r.manifest n + 12 + 16 then
    .fails s!"chunk {n} was truncated or padded"
  else if r.bitmap.has n then .ignored
  else
    match key with
    | none => .ignored
    | some key =>
      match openSealed T.toSessionPrimitives key sealed (chunkAad r.transfer.transferId n) with
      | .error _ => .fails s!"chunk {n} failed verification"
      | .ok plaintext =>
        if plaintext.length ≠ expectedChunkLength r.manifest n then
          .fails s!"chunk {n} has an invalid size"
        else .writes plaintext

def onChunk (n : ℕ) (sealed : Bytes) (key : Option Key) (deletes : Bool) : Reception :=
  match r.checkChunk T n sealed key with
  | .fails message => r.failTransfer message deletes
  | .ignored => r
  | .writes plaintext => { r with tasks := r.tasks ++ [.writing n plaintext] }

def hashTemp (disk : Disk) : Except String String :=
  match r.part, disk with
  | some bytes, .fine =>
    if bytes.length ≠ r.manifest.sizeBytes then
      .error "Resumed file size does not match the manifest."
    else .ok (hashFile T bytes)
  | _, _ => .error "verification failed"

def notMoved (strerror : String) : String :=
  "Could not move the completed download into place: " ++ strerror ++ "."

/-- What the thread of coroutine `k` does. A write opens an existing file, `open_temp` creates it
or leaves it alone, and the rename takes it away. -/
def work (taken : String → Bool) (r : Reception) (k : ℕ) (disk : Disk) : Reception :=
  match r.tasks[k]? with
  | some .accepting => r.setTask k (.placed (r.chooseDestination T taken disk))
  | some (.opening destination) =>
    match disk with
    | .fine => { r with part := some (r.part.getD [])
                        tasks := r.tasks.set k (.opened destination none) }
    | .refuses strerror | .refusesChmod strerror =>
      r.setTask k (.opened destination (some strerror))
  | some (.writing n data) =>
    match r.part, disk with
    | some part, .fine =>
      { r with part := some (writeChunk part n r.manifest.chunkSize data)
               tasks := r.tasks.set k (.written n none) }
    | _, _ => r.setTask k (.written n (some <|
        "Could not write to the temp file '" ++ r.transfer.transferId ++ ".part'."))
  | some .hashing => r.setTask k (.hashed (r.hashTemp T disk))
  | some .choosing => r.setTask k (.chosen (r.chooseDestination T taken disk))
  | some (.finalizing destination) =>
    match r.part, disk with
    | none, _ => r.setTask k (.finalized (.error "The completed temp file is missing."))
    | some _, .refuses strerror => r.setTask k (.finalized (.error (notMoved strerror)))
    | some bytes, .fine =>
      { r with part := none, moved := r.moved ++ [(destination, bytes)]
               tasks := r.tasks.set k (.finalized (.ok destination)) }
    | some bytes, .refusesChmod strerror =>
      { r with part := none, moved := r.moved ++ [(destination, bytes)]
               tasks := r.tasks.set k (.finalized (.error (notMoved strerror))) }
  | _ => r

def markWritten (n : ℕ) : Reception :=
  match r.bitmap.mark n with
  | .error _ => r
  | .ok (_, bitmap) =>
    let transfer :=
      { r.transfer with
        chunksDone := bitmap.count
        bytesDone := min r.manifest.sizeBytes (bitmap.count * r.manifest.chunkSize) }
    { r with
      bitmap
      transfer := if transfer.state = .accepted then { transfer with state := .transferring }
        else transfer }

/-- Coroutine `k` goes on to its next suspension. A purged transfer has no bitmap and no manifest
any more, and its handler dies on looking for them. -/
def resume (k : ℕ) (deletes : Bool) : Reception :=
  match r.tasks[k]? with
  | some (.placed (.error _)) => r.setTask k .done
  | some (.placed (.ok destination)) => r.setTask k (.opening destination)
  | some (.opened _ (some _)) => r.setTask k .done
  | some (.opened destination none) => (r.setTask k .done).finishAccept destination
  | some (.written _ (some error)) => (r.setTask k .done).failTransfer error deletes
  | some (.written n none) =>
    if r.purged then r.setTask k .done else (r.setTask k .acking).markWritten n
  | some .acking =>
    r.setTask k (if r.bitmap.isComplete ∧ r.purged = false then .hashing else .done)
  | some (.hashed (.error message)) => (r.setTask k .done).failTransfer message deletes
  | some (.hashed (.ok digest)) =>
    if digest ≠ r.manifest.sha256 then
      (r.setTask k .done).failTransfer "integrity verification failed" deletes
    else
      match r.destination with
      | some destination => r.setTask k (.finalizing destination)
      | none => r.setTask k .choosing
  | some (.chosen (.ok destination)) => r.setTask k (.finalizing destination)
  | some (.chosen (.error _)) => r.setTask k .done
  | some (.finalized (.error message)) => (r.setTask k .done).failTransfer message deletes
  | some (.finalized (.ok saved)) =>
    let r := r.setTask k .done
    ({ r with transfer := { r.transfer with savedPath := some saved } } : Reception).settled
      .completed none deletes
  | _ => r

def cancel (reason : Option String) (deletes : Bool) : Reception :=
  if r.transfer.state.isTerminal then r else r.settled .cancelled reason deletes

def reject (reason : Option String) (deletes : Bool) : Reception :=
  if r.transfer.state = .offered then r.settled .rejected reason deletes else r

def peerError (message : String) (deletes : Bool) : Reception :=
  if r.transfer.state.isTerminal then r else r.settled .failed (some message) deletes

def expire (deletes : Bool) : Reception :=
  if r.transfer.state.isTerminal then r
  else r.settled .expired
    (some (if r.transfer.state = .offered then "offer expired" else "transfer expired")) deletes

def pause : Reception :=
  if r.transfer.state = .transferring then
    { r with transfer := { r.transfer with state := .paused } }
  else r

def unpause : Reception :=
  if r.transfer.state = .paused then
    { r with transfer := { r.transfer with state := .transferring } }
  else r

def purge : Reception :=
  if r.transfer.state.isTerminal then { r with purged := true, destination := none } else r

end Reception

/-- `deletes` says whether the disk lets the `.part` file be deleted. -/
inductive ReceptionEvent
  | accept (usage limit : ℕ)
  | chunk (n : ℕ) (sealed : Bytes) (key : Option Key) (deletes : Bool := true)
  | work (k : ℕ) (disk : Disk)
  | resume (k : ℕ) (deletes : Bool := true)
  | cancel (reason : Option String) (deletes : Bool := true)
  | reject (reason : Option String) (deletes : Bool)
  | peerError (message : String) (deletes : Bool)
  | expire (deletes : Bool)
  | pause
  | unpause
  | purge

def Reception.step (T : TransferPrimitives) (taken : String → Bool) (r : Reception) :
    ReceptionEvent → Reception
  | .accept usage limit => r.accept usage limit
  | .chunk n sealed key deletes => r.onChunk T n sealed key deletes
  | .work k disk => r.work T taken k disk
  | .resume k deletes => r.resume k deletes
  | .cancel reason deletes => r.cancel reason deletes
  | .reject reason deletes => r.reject reason deletes
  | .peerError message deletes => r.peerError message deletes
  | .expire deletes => r.expire deletes
  | .pause => r.pause
  | .unpause => r.unpause
  | .purge => r.purge

end Ghostlink.FileTransfer
