import Ghostlink.Groups.Messaging
import Ghostlink.Groups.SenderKeys

/-! The sender-key half of the messaging service. A coroutine is a task that is suspended at
one of its awaits; resuming it with the outcome of that await runs it up to the next one, so a
list of actions is an interleaving. Ledgers and retry queues are shared objects and live on
heaps of their own: a task may hold one that the service has let go of. What the relay client
has been handed is kept in `wire`, and a distribution sealed over a pairwise link stands there
as what the peer of that link opens. -/

namespace Ghostlink.Groups
open Collections Text

structure ServicePrimitives extends SenderKeyPrimitives where
  dumps : GmsgFields → Bytes

def skRetryPerMember : ℕ := groupOfflineQueuePerMember

def groupSkMsgAad (groupId : GroupId) (epoch : ℕ) (sender : Fingerprint) (gen seq : ℕ) : Bytes :=
  let group := groupId.val
  let origin := sender.val
  ascii s!"ghostlink/group-sk-msg/v1|{group}|{epoch}|{origin}|{gen}|{seq}"

structure SealedMessage where
  messageId : MessageId
  gen : ℕ
  seq : ℕ
  sealed : Bytes
  deriving DecidableEq

inductive Forward
  | sk (groupId : GroupId) (epoch : ℕ) (recipient : Fingerprint) (distribution : Distribution)
  | skmsg (groupId : GroupId) (epoch : ℕ) (recipient : Fingerprint) (gen seq : ℕ) (sealed : Bytes)
  deriving DecidableEq

structure SkJob where
  groupId : GroupId
  epoch : ℕ
  recipient : Fingerprint
  distribution : Distribution
  deriving DecidableEq

structure SendTask where
  groupId : GroupId
  message : SealedMessage
  ledger : ℕ
  member : Fingerprint
  remaining : List Fingerprint

inductive SendPoint
  | linking
  | distributing (job : SkJob) (stage : Stage)
  | messaging (epoch : ℕ) (stage : Stage)

structure QueueRef where
  groupId : GroupId
  member : Fingerprint
  serial : ℕ
  deriving DecidableEq

inductive DrainPoint
  | linking (epoch : ℕ)
  | distributing (linkEpoch : ℕ) (job : SkJob) (stage : Stage)
  | messaging (epoch : ℕ) (entry : SealedMessage) (stage : Stage)

inductive SkTask
  | send (t : SendTask) (point : SendPoint)
  | drain (q : QueueRef) (point : DrainPoint)
  | respond (job : SkJob) (stage : Stage)

/-- How an await ends. The root of `linked` is the one drawn if a chain has to be created. -/
inductive Outcome
  | linked (epoch : ℕ) (root : SecretKey)
  | paced
  | forwarded
  | offline
  | groupError
  | transportError

structure SenderKeyService where
  me : Fingerprint
  groups : LocalGroupManager
  store : SenderKeyStore
  runtimes : Dict GroupId GroupRuntime
  ledgers : Dict ℕ GroupMessageLedger
  nextLedger : ℕ
  distributed : Dict (GroupId × Fingerprint) (ℕ × ℕ × ℕ)
  retry : Dict (GroupId × Fingerprint) ℕ
  deques : Dict QueueRef (List SealedMessage)
  nextDeque : ℕ
  sealedCache : Dict MessageId (ℕ × ℕ × Bytes)
  tasks : Dict ℕ SkTask
  nextTask : ℕ
  wire : List Forward

namespace SenderKeyService
variable (X : ServicePrimitives) (s : SenderKeyService)

def start (me : Fingerprint) (groups : LocalGroupManager) : SenderKeyService :=
  { me, groups, store := SenderKeyStore.empty, runtimes := Dict.empty,
    ledgers := Dict.empty, nextLedger := 0, distributed := Dict.empty, retry := Dict.empty,
    deques := Dict.empty, nextDeque := 0, sealedCache := Dict.empty, tasks := Dict.empty,
    nextTask := 0, wire := [] }

def runtime (gid : GroupId) : GroupRuntime :=
  (s.runtimes.get? gid).getD GroupRuntime.new

def record? (gid : GroupId) : Option LocalGroupRecord :=
  s.groups.records.get? gid

def deque (q : QueueRef) : List SealedMessage := (s.deques.get? q).getD []

def requireSendable (gid : GroupId) : Except GroupError LocalGroupRecord :=
  s.groups.requireSendable s.me gid

def nameOf (gid : GroupId) (f : Fingerprint) : String :=
  s.groups.nameOf gid f

def mark (ref : ℕ) (f : Fingerprint) (state : DeliveryState) : SenderKeyService :=
  match s.ledgers.get? ref with
  | none => s
  | some ledger => { s with ledgers := s.ledgers.set ref (ledger.mark f state) }

def markKept (gid : GroupId) (id : MessageId) (f : Fingerprint) (state : DeliveryState) :
    SenderKeyService :=
  match (s.runtime gid).ledgers.get? id with
  | none => s
  | some ref =>
    if (s.ledgers.get? ref).any fun ledger => ledger.recipients.contains f then
      s.mark ref f state
    else s

def suspend (id : ℕ) (task : SkTask) : SenderKeyService :=
  { s with tasks := s.tasks.set id task }

def finish (id : ℕ) : SenderKeyService :=
  { s with tasks := s.tasks.erase id }

def spawn (task : SkTask) : SenderKeyService :=
  { s with tasks := s.tasks.set s.nextTask task, nextTask := s.nextTask + 1 }

def setDeque (q : QueueRef) (entries : List SealedMessage) : SenderKeyService :=
  { s with deques := s.deques.set q entries }

def retryQueue (gid : GroupId) (member : Fingerprint) : QueueRef × SenderKeyService :=
  match s.retry.get? (gid, member) with
  | some serial => ({ groupId := gid, member, serial }, s)
  | none =>
    let q : QueueRef := { groupId := gid, member, serial := s.nextDeque }
    (q, { s.setDeque q [] with
          retry := s.retry.set (gid, member) q.serial, nextDeque := s.nextDeque + 1 })

def skRetryAdd (gid : GroupId) (recipient : Fingerprint) (entry : SealedMessage) :
    SenderKeyService :=
  let (q, s) := s.retryQueue gid recipient
  let queue := s.deque q ++ [entry]
  let excess := queue.length - skRetryPerMember
  (queue.take excess).foldl
    (fun s dropped => s.markKept gid dropped.messageId recipient .failed)
    (s.setDeque q (queue.drop excess))

def requeueLedger (gid : GroupId) (member : Fingerprint) (s : SenderKeyService) (ref : ℕ) :
    SenderKeyService :=
  match s.ledgers.get? ref with
  | none => s
  | some ledger =>
    if ledger.recipients.get? member = some .sending ∨
        ledger.recipients.get? member = some .sent then
      match s.sealedCache.get? ledger.messageId with
      | none => s.mark ref member .failed
      | some (gen, seq, sealed) =>
        (s.skRetryAdd gid member
          { messageId := ledger.messageId, gen, seq, sealed }).mark
            ref member .queued
    else s

def skOfflineRequeue (gid : GroupId) (member : Fingerprint) : SenderKeyService :=
  (s.runtime gid).ledgers.values.foldl (requeueLedger gid member) s

def applyGack (gid : GroupId) (sender : Fingerprint) (id : MessageId) : SenderKeyService :=
  match (s.runtime gid).ledgers.get? id with
  | none => s
  | some ref =>
    match s.ledgers.get? ref with
    | none => s
    | some ledger =>
      if ledger.recipients.get? sender = some .sent then s.mark ref sender .delivered else s

def isDistributed (gid : GroupId) (recipient : Fingerprint) (epoch : ℕ)
    (distribution : Distribution) : Bool :=
  match s.distributed.get? (gid, recipient) with
  | some (e, g, i) => decide (e = epoch ∧ g = distribution.gen ∧ i ≥ distribution.index)
  | none => false

/-- `_send_sk_distribution` up to its first await; no job when there is nothing to hand out. -/
def sendSkDistribution (gid : GroupId) (epoch : ℕ) (recipient : Fingerprint) (index : ℕ)
    (root : SecretKey) : SenderKeyService × Option SkJob :=
  let (distribution, store) := s.store.outgoingDistribution X.toSenderKeyPrimitives gid.val epoch
    s.me.val (some index) root
  -- `gsk_frame` refuses numbers below one
  if s.isDistributed gid recipient epoch distribution ∨
      epoch < 1 ∨ distribution.gen < 1 ∨ distribution.index < 1 then
    ({ s with store }, none)
  else
    ({ s with store },
      some { groupId := gid, epoch, recipient,
             distribution })

def distributionSent (job : SkJob) : SenderKeyService :=
  { s with
    distributed := s.distributed.set (job.groupId, job.recipient)
      (job.epoch, job.distribution.gen, job.distribution.index)
    wire := s.wire ++ [.sk job.groupId job.epoch job.recipient job.distribution] }

def forwardMessage (gid : GroupId) (epoch : ℕ) (recipient : Fingerprint) (message : SealedMessage) :
    SenderKeyService :=
  { s with wire := s.wire ++
      [.skmsg gid epoch recipient message.gen message.seq message.sealed] }

def respondSkDistribution (gid : GroupId) (requester : Fingerprint) (root : SecretKey) :
    SenderKeyService :=
  match s.record? gid with
  | none => s
  | some record =>
    match s.store.outgoingChain gid.val record.epoch with
    | none => s
    | some chain =>
      match s.sendSkDistribution X gid record.epoch requester chain.nextIndex root with
      | (s, none) => s
      | (s, some job) => s.spawn (.respond job .pacing)

def resumeRespond (id : ℕ) (job : SkJob) (stage : Stage) (outcome : Outcome) : SenderKeyService :=
  match stage, outcome with
  | .pacing, .paced => s.suspend id (.respond job .forwarding)
  | .forwarding, .forwarded => (s.distributionSent job).finish id
  | .forwarding, .transportError => s.finish id
  | _, _ => s

def nextLeg (id : ℕ) (t : SendTask) : SenderKeyService :=
  match t.remaining with
  | [] => s.finish id
  | member :: rest =>
    (s.mark t.ledger member .sending).suspend id
      (.send { t with member, remaining := rest } .linking)

def resumeSend (id : ℕ) (t : SendTask) (point : SendPoint) (outcome : Outcome) : SenderKeyService :=
  match point, outcome with
  | .linking, .linked linkEpoch root =>
    match s.requireSendable t.groupId with
    | .error _ => (s.mark t.ledger t.member .failed).nextLeg id t
    | .ok record =>
      -- the epoch moved during the handshake: this leg is dropped
      if linkEpoch ≠ record.epoch then s.nextLeg id t
      else
        match s.sendSkDistribution X t.groupId record.epoch t.member t.message.seq root with
        | (s, none) => s.suspend id (.send t (.messaging record.epoch .pacing))
        | (s, some job) => s.suspend id (.send t (.distributing job .pacing))
  | .linking, .offline =>
    ((s.skRetryAdd t.groupId t.member t.message).mark t.ledger t.member .queued).nextLeg id t
  | .linking, .groupError | .linking, .transportError =>
    (s.mark t.ledger t.member .failed).nextLeg id t
  | .distributing job .pacing, .paced => s.suspend id (.send t (.distributing job .forwarding))
  | .distributing job .forwarding, .forwarded =>
    (s.distributionSent job).suspend id (.send t (.messaging job.epoch .pacing))
  | .distributing job .forwarding, .transportError =>
    s.suspend id (.send t (.messaging job.epoch .pacing))
  | .messaging epoch .pacing, .paced =>
    (s.forwardMessage t.groupId epoch t.member t.message).suspend id
      (.send t (.messaging epoch .forwarding))
  | .messaging _ .forwarding, .forwarded => (s.mark t.ledger t.member .sent).nextLeg id t
  | .messaging _ .forwarding, .transportError => (s.mark t.ledger t.member .failed).nextLeg id t
  | _, _ => s

/-- What one call of `send` draws: an id, the time, a nonce, and a root should it need one. -/
structure Draw where
  messageId : MessageId
  ts : Seconds
  nonce : Nonce
  root : SecretKey

def recipientsOf (record : LocalGroupRecord) : List Fingerprint :=
  record.recipients s.me

def sealText (record : LocalGroupRecord) (chain : OutgoingChain) (seq : ℕ) (text : String)
    (d : Draw) : Except String (Bytes × OutgoingChain) :=
  match gmsgFrame X.dumps record.groupId record.epoch s.me none d.messageId seq
      (s.nameOf record.groupId s.me) text d.ts with
  | .error e => .error e.message
  | .ok frame =>
    match chain.sealAt X.toSenderKeyPrimitives record.groupId.val record.epoch s.me.val seq d.nonce
        frame (groupSkMsgAad record.groupId record.epoch s.me chain.gen seq) with
    | .error e => .error e.message
    | .ok sealed => .ok sealed

def newLedger (record : LocalGroupRecord) (seq : ℕ) (text : String) (d : Draw)
    (recipients : List Fingerprint) : GroupMessageLedger :=
  .waiting d.messageId record.groupId seq text d.ts recipients

/-- The part of `_send_sender_key` that takes the sequence number and finds the chain. -/
def takeSeq (record : LocalGroupRecord) (text : String) (d : Draw) (recipients : List Fingerprint) :
    OutgoingChain × SenderKeyService :=
  let seq := (s.runtime record.groupId).nextGseq
  let (chain, store) := s.store.ensureOutgoing X.toSenderKeyPrimitives record.groupId.val
    record.epoch s.me.val (some seq) d.root
  (chain, { s with
    runtimes := s.runtimes.set record.groupId
      (({ s.runtime record.groupId with nextGseq := seq + 1 }).keepLedger d.messageId s.nextLedger)
    ledgers := s.ledgers.set s.nextLedger (newLedger record seq text d recipients)
    nextLedger := s.nextLedger + 1
    store })

def keepSealed (record : LocalGroupRecord) (chain : OutgoingChain) (message : SealedMessage) :
    SenderKeyService :=
  { s with
    store := { s.store with
      outgoing := s.store.outgoing.set (record.groupId.val, record.epoch) chain }
    sealedCache := ((s.sealedCache.set message.messageId
      (message.gen, message.seq, message.sealed)).moveToEnd message.messageId).dropOldest
        groupLedgerKept }

def sendSenderKey (record : LocalGroupRecord) (text : String) (d : Draw) :
    SenderKeyService × Except GroupError Unit :=
  let recipients := s.recipientsOf record
  if recipients.isEmpty then
    (s, .error { kind := .message,
                 message := "You are the only member — there is nobody to deliver to.",
                 hint := "Invite members first (ghostlink group invite)." })
  else
    let seq := (s.runtime record.groupId).nextGseq
    let ref := s.nextLedger
    let (chain, s) := s.takeSeq X record text d recipients
    match s.sealText X record chain seq text d with
    | .error message =>
      (s, .error { kind := .message, message,
                   hint := "Could not build the sender-key frame." })
    | .ok (sealed, chain') =>
      let message : SealedMessage :=
        { messageId := d.messageId, gen := chain.gen, seq, sealed }
      let s := s.keepSealed record chain' message
      let id := s.nextTask
      (({ s with nextTask := id + 1 }).nextLeg id
        { groupId := record.groupId, message, ledger := ref, member := s.me,
          remaining := recipients }, .ok ())

def send (gid : GroupId) (text : String) (d : Draw) : SenderKeyService × Except GroupError Unit :=
  match s.groups.checkSend s.me gid text with
  | .error e => (s, .error e)
  | .ok record => s.sendSenderKey X record text d

def drainSkRetry (gid : GroupId) (member : Fingerprint) : SenderKeyService :=
  match s.retry.get? (gid, member) with
  | none => s
  | some serial =>
    let q : QueueRef := { groupId := gid, member, serial }
    if (s.deque q).isEmpty then s
    else
      match s.requireSendable gid with
      | .error _ => s
      | .ok record => s.spawn (.drain q (.linking record.epoch))

def drainNext (id : ℕ) (q : QueueRef) (linkEpoch : ℕ) : SenderKeyService :=
  match s.deque q with
  | [] => s.finish id
  | entry :: _ =>
    match s.requireSendable q.groupId with
    | .error _ => s.finish id
    | .ok record =>
      if linkEpoch ≠ record.epoch then s.finish id
      else s.suspend id (.drain q (.messaging record.epoch entry .pacing))

def resumeDrain (id : ℕ) (q : QueueRef) (point : DrainPoint) (outcome : Outcome) :
    SenderKeyService :=
  match point, outcome with
  | .linking epoch, .linked linkEpoch root =>
    match (s.deque q).getLast? with
    -- `queue[-1]` of a queue emptied in the meantime raises and ends the task
    | none => s.finish id
    | some last =>
      match s.sendSkDistribution X q.groupId epoch q.member last.seq root with
      | (s, none) => s.drainNext id q linkEpoch
      | (s, some job) => s.suspend id (.drain q (.distributing linkEpoch job .pacing))
  | .linking _, .offline | .linking _, .groupError | .linking _, .transportError => s.finish id
  | .distributing linkEpoch job .pacing, .paced =>
    s.suspend id (.drain q (.distributing linkEpoch job .forwarding))
  | .distributing linkEpoch job .forwarding, .forwarded =>
    (s.distributionSent job).drainNext id q linkEpoch
  | .distributing linkEpoch _ .forwarding, .transportError => s.drainNext id q linkEpoch
  | .messaging epoch entry .pacing, .paced =>
    (s.forwardMessage q.groupId epoch q.member entry).suspend id
      (.drain q (.messaging epoch entry .forwarding))
  | .messaging epoch entry .forwarding, .forwarded =>
    match s.deque q with
    | [] => s.finish id
    | _ :: rest =>
      ((s.setDeque q rest).markKept q.groupId entry.messageId q.member .sent).drainNext id q epoch
  | .messaging _ _ .forwarding, .transportError => s.finish id
  | _, _ => s

def onRecordState (record : LocalGroupRecord) (event : GroupEvent) : SenderKeyService :=
  let gid := record.groupId
  let subject := event.subjectFingerprint
  let s := { s with store := s.store.pruneEpoch gid.val record.epoch
                    distributed := s.distributed.filter fun key _ => key.1 ≠ gid }
  let s := if event.kind = .left ∨ event.kind = .removed then
      { s with store := s.store.dropSender gid.val subject.val
               retry := s.retry.erase (gid, subject) }
    else s
  if event.kind = .dissolved ∨ subject = record.myFingerprint then
    { s with store := s.store.teardownGroup gid.val
             retry := s.retry.filter fun key _ => key.1 ≠ gid }
  else s

def onGroupEvent (P : Primitives) (s : SenderKeyService) (packet : EventPacket) (now : Moment) :
    SenderKeyService :=
  let (groups, notice) := s.groups.onGroupEvent P packet now
  let s := { s with groups }
  match notice, groups.get packet.group, LocalGroupManager.eventFromPacket P packet with
  | some _, some record, .ok event => s.onRecordState record event
  | _, _, _ => s

inductive Action
  | send (gid : GroupId) (text : String) (d : Draw)
  | drain (gid : GroupId) (member : Fingerprint)
  | respond (gid : GroupId) (requester : Fingerprint) (root : SecretKey)
  | resume (task : ℕ) (outcome : Outcome)
  | groupEvent (packet : EventPacket) (now : Moment)
  | offline (gid : GroupId) (member : Fingerprint)
  | gack (gid : GroupId) (sender : Fingerprint) (id : MessageId)

def step (P : Primitives) (X : ServicePrimitives) (s : SenderKeyService) :
    Action → SenderKeyService
  | .send gid text d => (s.send X gid text d).1
  | .drain gid member => s.drainSkRetry gid member
  | .respond gid requester root => s.respondSkDistribution X gid requester root
  | .resume id outcome =>
    match s.tasks.get? id with
    | none => s
    | some (.send t point) => s.resumeSend X id t point outcome
    | some (.drain q point) => s.resumeDrain X id q point outcome
    | some (.respond job stage) => s.resumeRespond id job stage outcome
  | .groupEvent packet now => s.onGroupEvent P packet now
  | .offline gid member =>
    if (s.record? gid).isSome then s.skOfflineRequeue gid member else s
  | .gack gid sender id => s.applyGack gid sender id

def run (P : Primitives) (X : ServicePrimitives) (s : SenderKeyService) (actions : List Action) :
    SenderKeyService :=
  actions.foldl (step P X) s

end SenderKeyService
end Ghostlink.Groups
