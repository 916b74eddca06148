import Ghostlink.Groups.Messaging

/-! The pairwise half of the messaging service. Every member of a group has an outbox, a bounded
queue of messages that are not sealed yet, and at most one pump task that drains it. The pump
looks at the head of the queue, waits for a link and for the relay client, and takes a message
off when it is done; everything else that touches the queue may run while it waits. As in the
sender-key half a task is resumed with the outcome of its await, and a list of actions is an
interleaving. Two logs are kept beside the state: `sent` of the messages whose forward has
returned, and `left` of the messages taken off a queue. -/

namespace Ghostlink.Groups
open Collections Text

structure QueuedMessage where
  messageId : MessageId
  gseq : ℕ
  text : String
  ts : Seconds
  deriving DecidableEq

structure MemberOutbox where
  queue : List QueuedMessage
  pump : Option ℕ

structure OutboxRuntime extends GroupRuntime where
  outboxes : Dict Fingerprint MemberOutbox

def OutboxRuntime.new : OutboxRuntime := { GroupRuntime.new with outboxes := Dict.empty }

def groupMessageAad (groupId : GroupId) (epoch : ℕ) (sender recipient : Fingerprint) : String :=
  let group := groupId.val
  let origin := sender.val
  let target := recipient.val
  s!"ghostlink/group-msg/v1|{group}|{epoch}|{origin}|{target}"

structure Envelope where
  groupId : GroupId
  epoch : ℕ
  recipient : Fingerprint
  frame : Bytes
  aad : String

/-- Where a pump waits. It holds the job it saw at the head of the queue and that job's ledger,
if the runtime kept one. -/
inductive PumpPoint
  | starting
  | linking (job : QueuedMessage) (ledger : Option ℕ)
  | sending (job : QueuedMessage) (ledger : Option ℕ) (epoch : ℕ) (frame : Bytes) (stage : Stage)

structure PumpTask where
  groupId : GroupId
  member : Fingerprint
  point : PumpPoint

inductive PumpOutcome
  | started
  | linked (epoch : ℕ)
  | offline
  | groupError
  | paced
  | forwarded
  | transportError

structure Posted where
  groupId : GroupId
  member : Fingerprint
  job : QueuedMessage
  deriving DecidableEq

structure OutboxService where
  me : Fingerprint
  groups : LocalGroupManager
  runtimes : Dict GroupId OutboxRuntime
  ledgers : Dict ℕ GroupMessageLedger
  nextLedger : ℕ
  tasks : Dict ℕ PumpTask
  nextTask : ℕ
  closed : Bool
  wire : List Envelope
  sent : List Posted
  left : List Posted

namespace OutboxService
variable (s : OutboxService)

def start (me : Fingerprint) (groups : LocalGroupManager) : OutboxService :=
  { me, groups, runtimes := Dict.empty, ledgers := Dict.empty, nextLedger := 0,
    tasks := Dict.empty, nextTask := 0, closed := false, wire := [], sent := [], left := [] }

def runtime (gid : GroupId) : OutboxRuntime :=
  (s.runtimes.get? gid).getD OutboxRuntime.new

def outbox (gid : GroupId) (f : Fingerprint) : MemberOutbox :=
  ((s.runtime gid).outboxes.get? f).getD { queue := [], pump := none }

def queue (gid : GroupId) (f : Fingerprint) : List QueuedMessage :=
  (s.outbox gid f).queue

def setOutbox (gid : GroupId) (f : Fingerprint) (o : MemberOutbox) : OutboxService :=
  let rt := s.runtime gid
  { s with runtimes := s.runtimes.set gid { rt with outboxes := rt.outboxes.set f o } }

def setQueue (gid : GroupId) (f : Fingerprint) (queue : List QueuedMessage) : OutboxService :=
  s.setOutbox gid f { s.outbox gid f with queue }

def mark (ref : ℕ) (f : Fingerprint) (state : DeliveryState) : OutboxService :=
  match s.ledgers.get? ref with
  | none => s
  | some ledger => { s with ledgers := s.ledgers.set ref (ledger.mark f state) }

def report (ledger : Option ℕ) (f : Fingerprint) (state : DeliveryState) : OutboxService :=
  match ledger with
  | none => s
  | some ref => s.mark ref f state

def markKept (gid : GroupId) (id : MessageId) (f : Fingerprint) (state : DeliveryState) :
    OutboxService :=
  match (s.runtime gid).ledgers.get? id with
  | none => s
  | some ref =>
    if (s.ledgers.get? ref).any fun ledger => ledger.recipients.contains f then
      s.mark ref f state
    else s

def suspend (id : ℕ) (task : PumpTask) : OutboxService :=
  { s with tasks := s.tasks.set id task }

def finish (id : ℕ) : OutboxService :=
  { s with tasks := s.tasks.erase id }

def leave (gid : GroupId) (f : Fingerprint) (job : QueuedMessage) (rest : List QueuedMessage) :
    OutboxService :=
  { s.setQueue gid f rest with
    left := s.left ++ [{ groupId := gid, member := f, job }] }

def dropOldest (gid : GroupId) (f : Fingerprint) (s : OutboxService) : OutboxService :=
  match s.queue gid f with
  | [] => s
  | job :: rest => (s.leave gid f job rest).markKept gid job.messageId f .failed

def dropNewest (gid : GroupId) (f : Fingerprint) (s : OutboxService) : OutboxService :=
  match (s.queue gid f).getLast? with
  | none => s
  | some job =>
    (s.leave gid f job (s.queue gid f).dropLast).markKept gid job.messageId f .failed

def enqueue (gid : GroupId) (f : Fingerprint) (job : QueuedMessage) : OutboxService :=
  let excess := (s.queue gid f).length + 1 - groupOfflineQueuePerMember
  let s := (dropOldest gid f)^[excess] s
  s.setQueue gid f (s.queue gid f ++ [job])

def failQueue (gid : GroupId) (f : Fingerprint) : OutboxService :=
  (dropOldest gid f)^[(s.queue gid f).length] s

def requeueJob (gid : GroupId) (f : Fingerprint) (s : OutboxService) (job : QueuedMessage) :
    OutboxService :=
  let s := s.setQueue gid f (job :: s.queue gid f)
  (dropNewest gid f)^[(s.queue gid f).length - groupOfflineQueuePerMember] s

def sentLedgers (gid : GroupId) (f : Fingerprint) : List ℕ :=
  (s.runtime gid).ledgers.values.filter fun ref =>
    (s.ledgers.get? ref).any fun ledger => ledger.recipients.get? f = some .sent

def jobOf (ledger : GroupMessageLedger) : QueuedMessage :=
  { messageId := ledger.messageId, gseq := ledger.gseq, text := ledger.text, ts := ledger.ts }

/-- The messages `_requeue_sent` puts back: those that are out and not in the queue. -/
def requeuedJobs (gid : GroupId) (f : Fingerprint) : List QueuedMessage :=
  ((s.sentLedgers gid f).filterMap s.ledgers.get?).filterMap fun ledger =>
    if (s.queue gid f).any fun job => job.messageId = ledger.messageId then none
    else some (jobOf ledger)

def requeueSent (gid : GroupId) (f : Fingerprint) : OutboxService :=
  let jobs := s.requeuedJobs gid f
  let s := (s.sentLedgers gid f).foldl (fun s ref => s.mark ref f .queued) s
  (jobs.insertionSort fun j k => j.gseq ≤ k.gseq).reverse.foldl (requeueJob gid f) s

def ensurePump (gid : GroupId) (s : OutboxService) (f : Fingerprint) : OutboxService :=
  if (s.outbox gid f).pump.any s.tasks.contains then s
  else
    let id := s.nextTask
    let s := s.setOutbox gid f { s.outbox gid f with pump := some id }
    { s with tasks := s.tasks.set id { groupId := gid, member := f, point := .starting }
             nextTask := id + 1 }

def pumpNext (id : ℕ) (gid : GroupId) (f : Fingerprint) : OutboxService :=
  match s.queue gid f with
  | [] => s.finish id
  | job :: _ =>
    if s.closed then s.finish id
    else
      match s.groups.requireSendable s.me gid with
      | .error _ => (s.failQueue gid f).finish id
      | .ok record =>
        if record.members.contains f then
          let ledger := (s.runtime gid).ledgers.get? job.messageId
          (s.report ledger f .sending).suspend id
            { groupId := gid, member := f, point := .linking job ledger }
        else (s.failQueue gid f).finish id

def frameFor (dumps : GmsgFields → Bytes) (s : OutboxService) (record : LocalGroupRecord)
    (f : Fingerprint) (job : QueuedMessage) : Except GroupError Bytes :=
  gmsgFrame dumps record.groupId record.epoch record.myFingerprint (some f) job.messageId job.gseq
    (s.groups.nameOf record.groupId record.myFingerprint) job.text job.ts

/-- Take the head off by position and go on; on an empty queue `popleft` raises and ends the
task. -/
def popNext (id : ℕ) (gid : GroupId) (f : Fingerprint) (after : OutboxService → OutboxService) :
    OutboxService :=
  match s.queue gid f with
  | [] => s.finish id
  | head :: rest => (after (s.leave gid f head rest)).pumpNext id gid f

def resumePump (dumps : GmsgFields → Bytes) (s : OutboxService) (id : ℕ) (task : PumpTask)
    (outcome : PumpOutcome) : OutboxService :=
  let gid := task.groupId
  let f := task.member
  match task.point, outcome with
  | .starting, .started => s.pumpNext id gid f
  | .linking _ ledger, .offline => (s.report ledger f .queued).finish id
  | .linking _ ledger, .groupError =>
    (s.report ledger f .failed).popNext id gid f fun s => s
  | .linking job ledger, .linked linkEpoch =>
    match s.groups.requireSendable s.me gid with
    | .error _ => (s.report ledger f .failed).popNext id gid f fun s => s
    | .ok record =>
      -- the epoch moved while the link was made
      if linkEpoch ≠ record.epoch then s.pumpNext id gid f
      else
        match s.frameFor dumps record f job with
        | .error _ => s.popNext id gid f fun s => s.report ledger f .failed
        | .ok frame =>
          s.suspend id { task with point := .sending job ledger record.epoch frame .pacing }
  | .sending job ledger epoch frame .pacing, .paced =>
    let envelope : Envelope := { groupId := gid, epoch, recipient := f, frame,
                                 aad := groupMessageAad gid epoch s.me f }
    let s := { s with wire := s.wire ++ [envelope] }
    s.suspend id { task with point := .sending job ledger epoch frame .forwarding }
  | .sending _ ledger _ _ .forwarding, .transportError => (s.report ledger f .failed).finish id
  | .sending job ledger _ _ .forwarding, .forwarded =>
    let posted : Posted := { groupId := gid, member := f, job }
    let s := { s with sent := s.sent ++ [posted] }
    s.popNext id gid f fun s => s.report ledger f .sent
  | _, _ => s

def entered (gid : GroupId) (text : String) (messageId : MessageId) (ts : Seconds)
    (recipients : List Fingerprint) : OutboxService :=
  let rt := s.runtime gid
  { s with
    runtimes := s.runtimes.set gid { rt with
      toGroupRuntime := { rt.toGroupRuntime with nextGseq := rt.nextGseq + 1 }.keepLedger messageId
        s.nextLedger }
    ledgers := s.ledgers.set s.nextLedger
      (.waiting messageId gid rt.nextGseq text ts recipients)
    nextLedger := s.nextLedger + 1 }

def send (gid : GroupId) (text : String) (messageId : MessageId) (ts : Seconds) :
    OutboxService × Except GroupError Unit :=
  match s.groups.checkSend s.me gid text with
  | .error e => (s, .error e)
  | .ok record =>
    let recipients := record.recipients s.me
    let job : QueuedMessage :=
      { messageId, gseq := (s.runtime gid).nextGseq, text, ts }
    let s := s.entered gid text messageId ts recipients
    let s := recipients.foldl (fun s f => s.enqueue gid f job) s
    (recipients.foldl (ensurePump gid) s, .ok ())

def flushMember (gid : GroupId) (f : Fingerprint) : OutboxService :=
  if (s.queue gid f).isEmpty then s else s.ensurePump gid f

def applyGack (gid : GroupId) (sender : Fingerprint) (id : MessageId) : OutboxService :=
  match (s.runtime gid).ledgers.get? id with
  | none => s
  | some ref =>
    match s.ledgers.get? ref with
    | none => s
    | some ledger =>
      if ledger.recipients.get? sender = some .sent then s.mark ref sender .delivered else s

def readLedger (sender : Fingerprint) (cursor : ℕ) (s : OutboxService) (ref : ℕ) :
    OutboxService :=
  match s.ledgers.get? ref with
  | none => s
  | some ledger =>
    if ledger.recipients.contains sender ∧ ledger.gseq ≤ cursor then
      { s with ledgers := s.ledgers.set ref (ledger.applyReadCursor cursor) }
    else s

def applyGread (gid : GroupId) (sender : Fingerprint) (cursor : ℕ) : OutboxService :=
  (s.runtime gid).ledgers.values.foldl (readLedger sender cursor) s

inductive ForwardError
  | offline | rate | notMember | unknown | other
  deriving DecidableEq, Repr

def failInFlight (f : Fingerprint) (s : OutboxService) (ref : ℕ) : OutboxService :=
  match s.ledgers.get? ref with
  | none => s
  | some ledger =>
    if ledger.recipients.get? f = some .sending ∨ ledger.recipients.get? f = some .sent then
      s.mark ref f .failed
    else s

def onForwardError (gid : GroupId) (f : Fingerprint) (code : ForwardError) (now : Moment) :
    OutboxService :=
  match code with
  | .offline | .rate => s.requeueSent gid f
  | .unknown =>
    (s.runtime gid).ledgers.values.foldl (failInFlight f)
      { s with groups := s.groups.markDefunct gid now }
  | .notMember | .other => (s.runtime gid).ledgers.values.foldl (failInFlight f) s

def onGroupEvent (P : Primitives) (s : OutboxService) (packet : EventPacket) (now : Moment) :
    OutboxService :=
  let (groups, notice) := s.groups.onGroupEvent P packet now
  let s := { s with groups }
  match notice, groups.get packet.group, LocalGroupManager.eventFromPacket P packet with
  | some _, some record, .ok event =>
    if (event.kind = .left ∨ event.kind = .removed) ∧
        event.subjectFingerprint ≠ record.myFingerprint then
      s.failQueue record.groupId event.subjectFingerprint
    else s
  | _, _, _ => s

inductive Action
  | attach
  | close
  | send (gid : GroupId) (text : String) (messageId : MessageId) (ts : Seconds)
  | flush (gid : GroupId) (member : Fingerprint)
  | resume (task : ℕ) (outcome : PumpOutcome)
  | groupEvent (packet : EventPacket) (now : Moment)
  | forwardError (gid : GroupId) (member : Fingerprint) (code : ForwardError) (now : Moment)
  | gack (gid : GroupId) (sender : Fingerprint) (id : MessageId)
  | gread (gid : GroupId) (sender : Fingerprint) (cursor : ℕ)

def step (P : Primitives) (dumps : GmsgFields → Bytes) (s : OutboxService) :
    Action → OutboxService
  | .attach => { s with closed := false }
  -- closing cancels every pump at its await
  | .close => { s with closed := true, tasks := Dict.empty }
  | .send gid text messageId ts => (s.send gid text messageId ts).1
  | .flush gid member => s.flushMember gid member
  | .resume id outcome =>
    match s.tasks.get? id with
    | none => s
    | some task => s.resumePump dumps id task outcome
  | .groupEvent packet now => s.onGroupEvent P packet now
  | .forwardError gid member code now => s.onForwardError gid member code now
  | .gack gid sender id => s.applyGack gid sender id
  | .gread gid sender cursor => s.applyGread gid sender cursor

def run (P : Primitives) (dumps : GmsgFields → Bytes) (s : OutboxService)
    (actions : List Action) : OutboxService :=
  actions.foldl (step P dumps) s

end OutboxService
end Ghostlink.Groups
