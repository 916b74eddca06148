import Ghostlink.Groups.Outbox
import Ghostlink.Groups.SenderKeyService

/-! The messaging service as a whole. Its two halves share the group records, the ledgers and
what each group's runtime keeps of them; the cipher suite of a group decides which half sends
its messages. The halves are not apart: a relay that throttles an envelope of a sender-key group
makes the service put the message into the pairwise outbox of the member. -/

namespace Ghostlink.Groups
open Collections

def senderKeySuite : String := "senderkey-v1"

structure MessagingService extends OutboxService where
  sk : SenderKeyStore
  skDistributed : Dict (GroupId × Fingerprint) (ℕ × ℕ × ℕ)
  skRetry : Dict (GroupId × Fingerprint) ℕ
  skDeques : Dict QueueRef (List SealedMessage)
  nextDeque : ℕ
  skSealed : Dict MessageId (ℕ × ℕ × Bytes)
  skTasks : Dict ℕ SkTask
  nextSkTask : ℕ
  skWire : List Forward

namespace MessagingService
variable (P : Primitives) (X : ServicePrimitives) (s : MessagingService)

def start (me : Fingerprint) (groups : LocalGroupManager) : MessagingService :=
  { OutboxService.start me groups with
    sk := SenderKeyStore.empty, skDistributed := Dict.empty, skRetry := Dict.empty,
    skDeques := Dict.empty, nextDeque := 0, skSealed := Dict.empty, skTasks := Dict.empty,
    nextSkTask := 0, skWire := [] }

def senderKeys : SenderKeyService :=
  { me := s.me, groups := s.groups, store := s.sk,
    runtimes := s.runtimes.mapVals fun _ rt => rt.toGroupRuntime,
    ledgers := s.ledgers, nextLedger := s.nextLedger, distributed := s.skDistributed,
    retry := s.skRetry, deques := s.skDeques, nextDeque := s.nextDeque,
    sealedCache := s.skSealed, tasks := s.skTasks, nextTask := s.nextSkTask, wire := s.skWire }

def withSenderKeys (k : SenderKeyService) : MessagingService :=
  { s with
    groups := k.groups
    runtimes := k.runtimes.mapVals fun gid rt =>
      { toGroupRuntime := rt, outboxes := (s.runtime gid).outboxes }
    ledgers := k.ledgers, nextLedger := k.nextLedger
    sk := k.store, skDistributed := k.distributed, skRetry := k.retry, skDeques := k.deques
    nextDeque := k.nextDeque, skSealed := k.sealedCache, skTasks := k.tasks
    nextSkTask := k.nextTask, skWire := k.wire }

def withOutboxes (o : OutboxService) : MessagingService :=
  { s with toOutboxService := o }

def usesSenderKey (gid : GroupId) : Bool :=
  (s.groups.records.get? gid).any fun record => record.cryptoSuite = senderKeySuite

def attach : MessagingService :=
  { s with closed := false, skDistributed := Dict.empty }

def close : MessagingService :=
  { s with
    closed := true, tasks := Dict.empty, sk := SenderKeyStore.empty
    skDistributed := Dict.empty, skRetry := Dict.empty, skSealed := Dict.empty }

def send (gid : GroupId) (text : String) (d : SenderKeyService.Draw) : MessagingService :=
  match s.groups.checkSend s.me gid text with
  | .error _ => s
  | .ok record =>
    if record.cryptoSuite = senderKeySuite then
      s.withSenderKeys (s.senderKeys.sendSenderKey X record text d).1
    else s.withOutboxes (s.toOutboxService.send gid text d.messageId d.ts).1

def onForwardError (gid : GroupId) (member : Fingerprint) (code : OutboxService.ForwardError)
    (now : Moment) : MessagingService :=
  if code = .offline ∧ s.usesSenderKey gid then
    s.withSenderKeys (s.senderKeys.skOfflineRequeue gid member)
  else s.withOutboxes (s.toOutboxService.onForwardError gid member code now)

def onRecordState (record : LocalGroupRecord) (event : GroupEvent) : MessagingService :=
  let s := s.withSenderKeys (s.senderKeys.onRecordState record event)
  if (event.kind = .left ∨ event.kind = .removed) ∧
      event.subjectFingerprint ≠ record.myFingerprint then
    s.withOutboxes (s.toOutboxService.failQueue record.groupId event.subjectFingerprint)
  else s

def onGroupEvent (packet : EventPacket) (now : Moment) : MessagingService :=
  let (groups, notice) := s.groups.onGroupEvent P packet now
  let s := s.withOutboxes { s.toOutboxService with groups }
  match notice, groups.get packet.group, LocalGroupManager.eventFromPacket P packet with
  | some _, some record, .ok event => s.onRecordState record event
  | _, _, _ => s

/-- `flush` restarts the pump of a member with waiting messages and `drain` the resending of
sealed ones; the source does both on any sign of life, the second in a task of its own. -/
inductive Action
  | attach
  | close
  | send (gid : GroupId) (text : String) (d : SenderKeyService.Draw)
  | flush (gid : GroupId) (member : Fingerprint)
  | drain (gid : GroupId) (member : Fingerprint)
  | respond (gid : GroupId) (requester : Fingerprint) (root : SecretKey)
  | pump (task : ℕ) (outcome : PumpOutcome)
  | resume (task : ℕ) (outcome : Outcome)
  | groupEvent (packet : EventPacket) (now : Moment)
  | forwardError (gid : GroupId) (member : Fingerprint) (code : OutboxService.ForwardError)
      (now : Moment)
  | gack (gid : GroupId) (sender : Fingerprint) (id : MessageId)
  | gread (gid : GroupId) (sender : Fingerprint) (cursor : ℕ)

def step : Action → MessagingService
  | .attach => s.attach
  | .close => s.close
  | .send gid text d => s.send X gid text d
  | .flush gid member => s.withOutboxes (s.toOutboxService.flushMember gid member)
  | .drain gid member => s.withSenderKeys (s.senderKeys.drainSkRetry gid member)
  | .respond gid requester root =>
    s.withSenderKeys (s.senderKeys.respondSkDistribution X gid requester root)
  | .pump id outcome => s.withOutboxes (s.toOutboxService.step P X.dumps (.resume id outcome))
  | .resume id outcome => s.withSenderKeys (s.senderKeys.step P X (.resume id outcome))
  | .groupEvent packet now => s.onGroupEvent P packet now
  | .forwardError gid member code now => s.onForwardError gid member code now
  | .gack gid sender id => s.withOutboxes (s.toOutboxService.applyGack gid sender id)
  | .gread gid sender cursor => s.withOutboxes (s.toOutboxService.applyGread gid sender cursor)

end MessagingService
end Ghostlink.Groups
