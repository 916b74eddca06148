import Ghostlink.Base.Totals
import Ghostlink.Transfer.Steps

/-! All transfers of one conversation, in both directions. Transfers are objects that the manager's
table refers to and that coroutines hold on to after the table has forgotten them. An offer that
`_promote_queued` spawns is a task: it runs at some later moment. The times at which the sweeper
acts are free. -/

namespace Ghostlink.FileTransfer
open Messaging Collections

def TransferState.isActive : TransferState → Bool
  | offered | accepted | transferring | paused => true
  | _ => false

structure TransferLimits where
  maxFileSizeBytes : ℕ
  maxConcurrent : ℕ
  chunkSizeBytes : ℕ
  tempLimitBytes : ℕ

def transferMinChunkKb : ℕ := 1
def transferMaxChunkKb : ℕ := 4

def TransferLimits.manifestLimits (l : TransferLimits) : FileManifest.Limits where
  maxFileSizeBytes := l.maxFileSizeBytes
  maxChunkSize := transferMaxChunkKb * 1024
  minChunkSize := transferMinChunkKb * 1024

structure Outgoing where
  manifest : FileManifest
  state : TransferState
  bitmap : ChunkBitmap
  resumeNotified : Bool
  createdAt : ℚ
  error : Option String

inductive SendingEvent
  | peerAccept (bitmap : Option String)
  | peerReject (reason : Option String)
  | ack (n : ℕ)
  | complete (digest : String)
  | peerError (message : String)
  | cancel (reason : Option String)
  | fail (message : String)
  | expire
  | pause
  | unpause
  | autoPause
  | recover
  deriving DecidableEq

namespace Outgoing
variable (o : Outgoing)

def transitionTo (state : TransferState) (error : Option String) : Except TransferError Outgoing :=
  let direction := TransferDirection.sending
  if state ∈ o.state.transitions direction then
    .ok { o with state, error := error.or o.error }
  else .error
    { kind := .state
      message := direction.value ++ " transfer cannot move " ++ o.state.value ++ " → " ++
        state.value ++ "."
      hint := some "Follow the offered→accepted→transferring lifecycle." }

/-- `_settle_terminal`: a repeated end is ignored, and an end that may not follow raises and leaves
the transfer alone. -/
def settled (state : TransferState) (error : Option String) : Outgoing :=
  match o.transitionTo state error with
  | .ok o => o
  | .error _ => o

def failTransfer (message : String) : Outgoing :=
  if o.state.isTerminal then o else o.settled .failed (some message)

def accepted : Outgoing :=
  if o.state = .offered then { o with state := .transferring }
  else if o.state = .paused ∧ o.resumeNotified = false then
    { o with state := .transferring, resumeNotified := true }
  else o

def onAccept (bitmap : Option String) : Outgoing :=
  match bitmap with
  | none => o.accepted
  | some encoded =>
    if encoded = "" then o.accepted
    else
      match ChunkBitmap.fromB64 encoded o.manifest.totalChunks with
      | .error e => if e.kind = .validation then o.failTransfer "malformed resume bitmap" else o
      | .ok peer =>
        match adoptBitmap o.bitmap peer with
        | .error _ => o
        | .ok bitmap => { o with bitmap }.accepted

def onAck (n : ℕ) : Outgoing :=
  if ¬ (1 ≤ n ∧ n ≤ o.manifest.totalChunks) then o
  else
    match o.bitmap.mark n with
    | .error _ => o
    | .ok (_, bitmap) => { o with bitmap }

def onComplete (digest : String) : Outgoing :=
  if ¬ (o.state = .accepted ∨ o.state = .transferring) then o
  else if digest ≠ o.manifest.sha256 then o.failTransfer "the peer verified a different file"
  else o.settled .completed none

def expire : Outgoing :=
  if o.state.isTerminal then o
  else o.settled .expired
    (some (if o.state = .offered then "offer expired" else "transfer expired"))

def step : SendingEvent → Outgoing
  | .peerAccept bitmap => o.onAccept bitmap
  | .peerReject reason => o.settled .rejected reason
  | .ack n => o.onAck n
  | .complete digest => o.onComplete digest
  | .peerError message => if o.state.isTerminal then o else o.settled .failed (some message)
  | .cancel reason => if o.state.isTerminal then o else o.settled .cancelled reason
  | .fail message => o.failTransfer message
  | .expire => o.expire
  | .pause =>
    if o.state = .transferring then { o with state := .paused, resumeNotified := true } else o
  | .unpause =>
    if o.state = .paused then { o with state := .transferring, resumeNotified := true } else o
  | .autoPause =>
    if o.state = .transferring then { o with state := .paused, resumeNotified := false } else o
  | .recover =>
    if o.state = .paused ∧ o.resumeNotified = false then
      { o with state := .transferring, resumeNotified := true }
    else o

end Outgoing

inductive Ref
  | sending (i : ℕ)
  | receiving (i : ℕ)
  deriving DecidableEq

structure TransferManager where
  limits : TransferLimits
  sending : List Outgoing
  receiving : List Reception
  transfers : Dict String Ref
  temp : Dict String Bytes
  offers : List ℕ
  closing : Bool

/-- `deletes` says whether the disk lets a `.part` file be deleted; `keyed` whether there is a key
for the transfer. -/
inductive TransferEvent
  | sendFile (pathName mime : String) (content : Bytes) (transferId : String) (keyed : Bool)
      (now : ℚ)
  | accept (transferId : String)
  | reject (transferId : String) (reason : Option String) (deletes : Bool)
  | cancel (transferId : String) (reason : Option String) (deletes : Bool)
  | pause (transferId : String)
  | resume (transferId : String)
  | peerOffer (transferId : String) (manifest : Option FileManifest)
  | peerAccept (transferId : String) (bitmap : Option String)
  | peerReject (transferId : String) (reason : Option String)
  | peerChunk (transferId : String) (n : ℕ) (sealed : Bytes) (key : Option Key) (deletes : Bool)
  | peerAck (transferId : String) (n : ℕ)
  | peerPause (transferId : String)
  | peerResume (transferId : String)
  | peerCancel (transferId : String) (reason : Option String) (deletes : Bool)
  | peerComplete (transferId digest : String)
  | peerError (transferId message : String) (deletes : Bool)
  | work (i k : ℕ) (taken : String → Bool) (disk : Disk)
  | handle (i k : ℕ) (deletes : Bool)
  | runOffer (k : ℕ) (keyed : Bool)
  | pumpFails (i : ℕ) (message : String)
  | linkLost
  | recover (i : ℕ)
  | expire (transferId : String) (deletes : Bool)
  | purge (transferId : String)
  | retryOffer (i : ℕ)
  | close
  | closeTransfer (transferId : String) (deletes : Bool)
  | closed

namespace TransferManager
variable (T : TransferPrimitives) (s : TransferManager)

def start (limits : TransferLimits) (temp : Dict String Bytes) : TransferManager :=
  { limits, sending := [], receiving := [], transfers := Dict.empty, temp, offers := []
    closing := false }

def isActive (s : TransferManager) : Ref → Bool
  | .sending i => s.sending[i]?.any fun o => o.state.isActive
  | .receiving i => s.receiving[i]?.any fun r => r.transfer.state.isActive

def isTerminal (s : TransferManager) : Ref → Bool
  | .sending i => s.sending[i]?.any fun o => o.state.isTerminal
  | .receiving i => s.receiving[i]?.any fun r => r.transfer.state.isTerminal

def activeCount : ℕ :=
  s.transfers.total fun _ ref => if s.isActive ref then 1 else 0

def pledge : Ref → ℕ
  | .sending _ => 0
  | .receiving i =>
    match s.receiving[i]? with
    | none => 0
    | some r => if r.transfer.state.isActive then r.manifest.sizeBytes else 0

def reservedIncomingBytes : ℕ := s.transfers.total fun _ ref => s.pledge ref

def tempUsageBytes : ℕ := s.temp.total fun _ bytes => bytes.length

def checkQuota (incomingSize : ℕ) : Except TransferError Unit :=
  let limit := s.limits.tempLimitBytes
  if s.tempUsageBytes + incomingSize > limit then
    .error
      { kind := .limit
        message := s!"Accepting {incomingSize} bytes would exceed the temp storage " ++
          s!"limit ({limit} bytes)."
        hint := some <| "Free up downloads, raise transfer.temp_storage_limit_mb, " ++
          "or ask the peer for a smaller file." }
  else .ok ()

def queuedAt : Ref → Option (ℚ × ℕ)
  | .sending i =>
    match s.sending[i]? with
    | some o => if o.state = .queued then some (o.createdAt, i) else none
    | none => none
  | .receiving _ => none

def queuedSends : List ℕ :=
  ((s.transfers.values.filterMap s.queuedAt).insertionSort fun a b => a.1 ≤ b.1).map Prod.snd

def promoteLoop (s : TransferManager) : List ℕ → TransferManager
  | [] => s
  | i :: is =>
    if s.activeCount ≥ s.limits.maxConcurrent then s
    else { s with offers := s.offers ++ [i] }.promoteLoop is

def promoteQueued : TransferManager :=
  if s.closing then s else s.promoteLoop s.queuedSends

def afterwards (before after : TransferState) : TransferManager :=
  if before.isTerminal = false ∧ after.isTerminal then s.promoteQueued else s

def stepSending (i : ℕ) (e : SendingEvent) : TransferManager :=
  match s.sending[i]? with
  | none => s
  | some o =>
    { s with sending := s.sending.set i (o.step e) }.afterwards o.state (o.step e).state

def store (temp : Dict String Bytes) (transferId : String) : Option Bytes → Dict String Bytes
  | none => temp.erase transferId
  | some bytes => temp.set transferId bytes

def stepReceiving (i : ℕ) (taken : String → Bool) (e : ReceptionEvent) : TransferManager :=
  match s.receiving[i]? with
  | none => s
  | some r =>
    let part := s.temp.get? r.transfer.transferId
    let r' := { r with part }.step T taken e
    { s with
      receiving := s.receiving.set i r'
      temp := store s.temp r.transfer.transferId r'.part }.afterwards
        r.transfer.state r'.transfer.state

def onSending (transferId : String) (e : SendingEvent) : TransferManager :=
  match s.transfers.get? transferId with
  | some (.sending i) => s.stepSending i e
  | _ => s

def onReceiving (transferId : String) (e : ReceptionEvent) : TransferManager :=
  match s.transfers.get? transferId with
  | some (.receiving i) => s.stepReceiving T i (fun _ => false) e
  | _ => s

def onTransfer (transferId : String) (sends : SendingEvent) (receives : ReceptionEvent) :
    TransferManager :=
  match s.transfers.get? transferId with
  | some (.sending i) => s.stepSending i sends
  | some (.receiving i) => s.stepReceiving T i (fun _ => false) receives
  | none => s

def offer (i : ℕ) (keyed : Bool) : TransferManager :=
  match s.sending[i]? with
  | none => s
  | some o =>
    if keyed = false then s
    else if s.transfers.contains o.manifest.transferId = false then s
    else if o.state = .queued then
      { s with sending := s.sending.set i { o with state := .offered } }
    else s

/-- One decimal of a quotient, as `:.1f` rounds it: to the nearest, and to the even one of two. -/
def oneDecimal (n d : ℕ) : String :=
  let q := n * 10 / d
  let r := n * 10 % d
  let q := if 2 * r > d ∨ (2 * r = d ∧ q % 2 = 1) then q + 1 else q
  toString (q / 10) ++ "." ++ toString (q % 10)

def formatUnits (size divisor : ℕ) : List String → String
  | [] => oneDecimal size divisor ++ " PB"
  | unit :: units =>
    if size < divisor * 1024 * 1024 then oneDecimal size (divisor * 1024) ++ " " ++ unit
    else formatUnits size (divisor * 1024) units

def formatBytes (size : ℕ) : String :=
  if size < 1024 then s!"{size} B" else formatUnits size 1 ["KB", "MB", "GB", "TB"]

def checkSend (safeName : String) (m : FileManifest) : Except TransferError ChunkBitmap := do
  if m.sizeBytes > s.limits.maxFileSizeBytes then
    let size := formatBytes m.sizeBytes
    let limit := formatBytes s.limits.maxFileSizeBytes
    throw { kind := .limit, message := s!"'{safeName}' is {size} — the limit is {limit}."
            hint := some "Raise transfer.max_file_size_mb, or send a smaller file." }
  if m.totalChunks > transferMaxChunksPerFile then
    throw { kind := .limit
            message := s!"'{safeName}' needs more than {transferMaxChunksPerFile} chunks."
            hint := some "Increase transfer.chunk_size_kb for very large files." }
  ChunkBitmap.make m.totalChunks

def registerSend (m : FileManifest) (bitmap : ChunkBitmap) (now : ℚ) : TransferManager :=
  { s with
    sending := s.sending ++
      [{ manifest := m, state := .queued, bitmap, resumeNotified := false
         createdAt := now, error := none }]
    transfers := s.transfers.set m.transferId (.sending s.sending.length) }

/-- `send_file` from the moment the file has been hashed; what it checks before leaves no trace. -/
def sendFile (pathName mime : String) (content : Bytes) (transferId : String) (keyed : Bool)
    (now : ℚ) : TransferManager :=
  match sanitizeFilename T pathName with
  | none => s
  | some safeName =>
    match FileManifest.fromFile T pathName transferId safeName mime s.limits.chunkSizeBytes
        content with
    | .error _ => s
    | .ok m =>
      match s.checkSend safeName m with
      | .error _ => s
      | .ok bitmap =>
        let s := s.registerSend m bitmap now
        if s.activeCount < s.limits.maxConcurrent then s.offer (s.sending.length - 1) keyed else s

def registerOffer (transferId : String) (r : Reception) : TransferManager :=
  { s with
    receiving := s.receiving ++ [r]
    transfers := s.transfers.set transferId (.receiving s.receiving.length) }

/-- `_on_offer`; `manifest` is what the frame opens and parses to, if it does. -/
def onOffer (transferId : String) (manifest : Option FileManifest) : TransferManager :=
  if isValidTransferId T transferId = false then s
  else if s.transfers.contains transferId then s
  else
    match manifest with
    | none => s
    | some m =>
      match m.validate T s.limits.manifestLimits with
      | .error _ => s
      | .ok () =>
        if s.activeCount ≥ s.limits.maxConcurrent then s
        else
          match s.checkQuota (m.sizeBytes + s.reservedIncomingBytes) with
          | .error _ => s
          | .ok () =>
            match Reception.offered transferId m with
            | .error _ => s
            | .ok r => s.registerOffer transferId r

def autoPause (T : TransferPrimitives) (s : TransferManager) : List Ref → TransferManager
  | [] => s
  | .sending i :: refs => (s.stepSending i .autoPause).autoPause T refs
  | .receiving i :: refs => (s.stepReceiving T i (fun _ => false) .pause).autoPause T refs

def purge (T : TransferPrimitives) (s : TransferManager) (transferId : String) : TransferManager :=
  match s.transfers.get? transferId with
  | none => s
  | some ref =>
    if s.isTerminal ref then
      let s := s.onReceiving T transferId .purge
      { s with transfers := s.transfers.erase transferId }
    else s

def retryOffer (i : ℕ) : TransferManager :=
  if s.sending[i]?.any fun o => o.state = .offered then { s with offers := s.offers ++ [i] } else s

def runOffer (k : ℕ) (keyed : Bool) : TransferManager :=
  match s.offers[k]? with
  | none => s
  | some i => { s with offers := s.offers.eraseIdx k }.offer i keyed

def unlessClosing (s next : TransferManager) : TransferManager := if s.closing then s else next

def step : TransferEvent → TransferManager
  | .sendFile pathName mime content transferId keyed now =>
    s.sendFile T pathName mime content transferId keyed now
  | .accept id =>
    s.onReceiving T id (.accept s.tempUsageBytes s.limits.tempLimitBytes)
  | .reject id reason deletes => s.onReceiving T id (.reject reason deletes)
  | .cancel id reason deletes => s.onTransfer T id (.cancel reason) (.cancel reason deletes)
  | .pause id => s.onTransfer T id .pause .pause
  | .resume id => s.onTransfer T id .unpause .unpause
  | .peerOffer id manifest => s.unlessClosing (s.onOffer T id manifest)
  | .peerAccept id bitmap => s.unlessClosing (s.onSending id (.peerAccept bitmap))
  | .peerReject id reason => s.unlessClosing (s.onSending id (.peerReject reason))
  | .peerChunk id n sealed key deletes =>
    s.unlessClosing (s.onReceiving T id (.chunk n sealed key deletes))
  | .peerAck id n => s.unlessClosing (s.onSending id (.ack n))
  | .peerPause id => s.unlessClosing (s.onTransfer T id .pause .pause)
  | .peerResume id => s.unlessClosing (s.onTransfer T id .unpause .unpause)
  | .peerCancel id reason deletes =>
    s.unlessClosing (s.onTransfer T id (.cancel reason) (.cancel reason deletes))
  | .peerComplete id digest => s.unlessClosing (s.onSending id (.complete digest))
  | .peerError id message deletes =>
    s.unlessClosing (s.onTransfer T id (.peerError message) (.peerError message deletes))
  | .work i k taken disk => s.stepReceiving T i taken (.work k disk)
  | .handle i k deletes => s.stepReceiving T i (fun _ => false) (.resume k deletes)
  | .runOffer k keyed => s.runOffer k keyed
  | .pumpFails i message => s.stepSending i (.fail message)
  | .linkLost => s.unlessClosing (s.autoPause T s.transfers.values)
  | .recover i => s.unlessClosing (s.stepSending i .recover)
  | .expire id deletes => s.onTransfer T id .expire (.expire deletes)
  | .purge id => s.purge T id
  | .retryOffer i => s.retryOffer i
  | .close => { s with closing := true }
  | .closeTransfer id deletes =>
    let reason := some "session closed"
    s.onTransfer T id (.cancel reason) (.cancel reason deletes)
  | .closed => { s with transfers := Dict.empty, offers := [] }

def run (limits : TransferLimits) (temp : Dict String Bytes) (events : List TransferEvent) :
    TransferManager :=
  events.foldl (step T) (start limits temp)

end TransferManager

end Ghostlink.FileTransfer
