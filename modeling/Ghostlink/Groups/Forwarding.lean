import Ghostlink.Groups.Mesh
import Ghostlink.Groups.Outbox
import Ghostlink.Groups.SenderKeyService
import Ghostlink.Groups.WireReadback

/-! Both ends of forwarded group envelopes: the members that build them and `_handle_forward`,
which sends each one through the gates to the handler of its kind. Handling an envelope is one
step here; what it leads to is returned, and the time, a nonce and a chain root are its inputs.
Resynchronisation, notices and history have no part in it. -/

namespace Ghostlink.Groups
open Collections Text
open Messaging (SessionPrimitives Key sealWith openSealed openSealed_sealWith)

def groupSkDistributionBodyMax : ℕ := 1024
def groupSkRootBytes : ℕ := 32
def groupSkreqRateOps : ℕ := 4
def groupSkreqRateWindowSeconds : ℚ := 10
def skreqWindowsMax : ℕ := 64
def groupSkPendingBuckets : ℕ := 64
def groupSkPendingPerSender : ℕ := 16

def groupSkKeyAad (groupId : GroupId) (epoch : ℕ) (sender recipient : Fingerprint) (gen : ℕ) :
    Bytes :=
  let group := groupId.val
  let origin := sender.val
  let target := recipient.val
  ascii s!"ghostlink/group-sk-key/v1|{group}|{epoch}|{origin}|{target}|{gen}"

def distributionRootB64 (root : SecretKey) : String := String.ofList (Base64.encode root.toList)

def parseDistributionRoot (value : String) : Except SenderKeyError SecretKey :=
  match Base64.decode value.toList with
  | none => throw (skError "Distribution root is not valid base64." "Malformed sender-key frame.")
  | some raw =>
    if h : raw.length = groupSkRootBytes then pure ⟨raw.toArray, h⟩
    else throw (skError s!"Distribution root must be {groupSkRootBytes} bytes."
      "Malformed sender-key frame.")

abbrev MemberKey := GroupId × Fingerprint

structure Endpoint where
  me : Fingerprint
  groups : LocalGroupManager
  suite : GroupId → CryptoSuite
  mesh : GroupMeshManager
  store : SenderKeyStore
  skreqWindows : Dict MemberKey (List ℚ)
  distributed : Dict MemberKey (ℕ × ℕ × ℕ)
  pending : Dict MemberKey (List Bytes)

structure StepDraw where
  now : ℚ
  nonce : Nonce
  root : SecretKey

inductive Handled
  | dropped
  | kex (sender : Fingerprint) (epoch : ℕ) (body : Bytes)
  | installed (sender : Fingerprint) (distribution : Distribution) (retry : List Bytes)
  | waiting (sender : Fingerprint) (seq : ℕ) (request : Option GroupForward)
  | message (frame : GroupInnerFrame)
  | receipt (frame : GroupInnerFrame)
  | keyRequest (sender : Fingerprint) (answer : Option GroupForward)
  deriving DecidableEq

namespace Endpoint
variable (S : SessionPrimitives) (W : WirePrimitives) (e : Endpoint)

def linkKey (gid : GroupId) (epoch : ℕ) (peer : Fingerprint) (now : ℚ) : Option Key :=
  ((e.mesh.acceptingLink gid.val epoch peer.val now).bind e.mesh.objects.get?).map
    PairwiseLink.key

def forward (record : LocalGroupRecord) (recipient : Fingerprint) (kind : String) (body : Bytes) :
    GroupForward :=
  { group := record.groupId.val, epoch := record.epoch, sender := e.me.val,
    recipient := recipient.val, kind, body := String.ofList (Base64.encode body) }

def skreqAllowed (key : MemberKey) (now : ℚ) : Bool × Endpoint :=
  let windows :=
    if (e.skreqWindows.get? key).isNone ∧ e.skreqWindows.size ≥ skreqWindowsMax then
      e.skreqWindows.dropOldest (e.skreqWindows.size - 1)
    else e.skreqWindows
  let window := ((e.skreqWindows.get? key).getD []).dropWhile fun stamp =>
    now - stamp > groupSkreqRateWindowSeconds
  if window.length ≥ groupSkreqRateOps then
    (false, { e with skreqWindows := windows.set key window })
  else (true, { e with skreqWindows := windows.set key (window ++ [now]) })

def sendSkreq (record : LocalGroupRecord) (sender : Fingerprint) (x : StepDraw) :
    Option GroupForward × Endpoint :=
  let (allowed, e) := e.skreqAllowed (record.groupId, sender) x.now
  if ¬ allowed then (none, e)
  else
    match e.linkKey record.groupId record.epoch sender x.now with
    | none => (none, e)
    | some key =>
      match gskreqFrame record.groupId record.epoch e.me sender with
      | .error _ => (none, e)
      | .ok inner =>
        let aad := groupMessageAad record.groupId record.epoch e.me sender
        (some (e.forward record sender kindSk (sealWith S key x.nonce inner (ascii aad))), e)

def sendSkDistribution (record : LocalGroupRecord) (recipient : Fingerprint) (key : Key) (index : ℕ)
    (x : StepDraw) : Option GroupForward × Endpoint :=
  let (d, store) := e.store.outgoingDistribution (senderKeyPrimitives S) record.groupId.val
    record.epoch e.me.val (some index) x.root
  let e := { e with store }
  if (e.distributed.get? (record.groupId, recipient)).any fun last =>
      last.1 = record.epoch ∧ last.2.1 = d.gen ∧ last.2.2 ≥ d.index then (none, e)
  else
    match gskFrame record.groupId record.epoch e.me recipient d.gen (distributionRootB64 d.root)
        d.index with
    | .error _ => (none, e)
    | .ok inner =>
      let aad := groupSkKeyAad record.groupId record.epoch e.me recipient d.gen
      match skControlBody d.gen (sealWith S key x.nonce inner aad) with
      | .error _ => (none, e)
      | .ok body =>
        (some (e.forward record recipient kindSk body),
          { e with distributed := e.distributed.set (record.groupId, recipient)
                     (record.epoch, d.gen, d.index) })

def respondSkDistribution (record : LocalGroupRecord) (sender : Fingerprint) (x : StepDraw) :
    Option GroupForward × Endpoint :=
  let (allowed, e) := e.skreqAllowed (record.groupId, sender) x.now
  if ¬ allowed then (none, e)
  else
    match e.linkKey record.groupId record.epoch sender x.now with
    | none => (none, e)
    | some key =>
      match e.store.outgoingChain record.groupId.val record.epoch with
      | none => (none, e)
      | some chain => e.sendSkDistribution S record sender key chain.nextIndex x

def openControl (gid : GroupId) (epoch : ℕ) (sender : Fingerprint) (sealed : Bytes) (gen : ℕ)
    (now : ℚ) : Option Bytes :=
  (e.linkKey gid epoch sender now).bind fun key =>
    (openSealed S key sealed (groupSkKeyAad gid epoch sender e.me gen)).toOption

def installFrame (record : LocalGroupRecord) (sender : Fingerprint) (epoch gen : ℕ)
    (frame : GroupInnerFrame) : Handled × Endpoint :=
  if frame.groupId ≠ record.groupId ∨ frame.epoch ≠ epoch ∨ frame.sender ≠ sender ∨
      frame.frameType ≠ .gsk ∨ frame.gen ≠ gen then (.dropped, e)
  else
    match parseDistributionRoot frame.root with
    | .error _ => (.dropped, e)
    | .ok root =>
      let index := frame.index.toNat
      match e.store.installIncoming (senderKeyPrimitives S)
          { groupId := record.groupId.val, epoch, sender := sender.val, gen } root
          index with
      | (store, .error _) => (.dropped, { e with store })
      | (store, .ok _) =>
        (.installed sender { gen, index, root }
            ((e.pending.get? (record.groupId, sender)).getD []),
          { e with store, pending := e.pending.erase (record.groupId, sender) })

def handleSenderKeyDistribution (record : LocalGroupRecord) (sender : Fingerprint) (epoch : ℕ)
    (body : Bytes) (x : StepDraw) : Handled × Endpoint :=
  if epoch ≠ record.epoch then (.dropped, e)
  else
    match parseSkControlBody body groupSkDistributionBodyMax with
    | .error _ => (.dropped, e)
    | .ok (gen, sealed) =>
      match e.openControl S record.groupId epoch sender sealed gen x.now with
      | none => (.dropped, e)
      | some plaintext =>
        match parseInnerFrame W plaintext with
        | .error _ => (.dropped, e)
        | .ok frame => e.installFrame S record sender epoch gen frame

def bufferPending (key : MemberKey) (body : Bytes) : Endpoint :=
  let buckets :=
    if (e.pending.get? key).isNone ∧ e.pending.size ≥ groupSkPendingBuckets then
      e.pending.dropOldest (e.pending.size - 1)
    else e.pending
  let queue := (e.pending.get? key).getD []
  let queue := if queue.length ≥ groupSkPendingPerSender then queue.drop 1 else queue
  { e with pending := (buckets.set key (queue ++ [body])).moveToEnd key }

def awaitChain (record : LocalGroupRecord) (sender : Fingerprint) (seq : ℕ) (body : Bytes)
    (x : StepDraw) : Handled × Endpoint :=
  let (request, e) := (e.bufferPending (record.groupId, sender) body).sendSkreq S record sender x
  (.waiting sender seq request, e)

def handleSenderKeyMessage (record : LocalGroupRecord) (sender : Fingerprint) (epoch : ℕ)
    (body : Bytes) (x : StepDraw) : Handled × Endpoint :=
  match parseSkmsgBody body (groupMsgMaxBytes + 64) with
  | .error _ => (.dropped, e)
  | .ok (gen, seq, sealed) =>
    match e.store.messageKeyFor (senderKeyPrimitives S)
        { groupId := record.groupId.val, epoch, sender := sender.val, gen } seq with
    | .error err =>
      match err.kind with
      | .missing | .excessiveGap => e.awaitChain S record sender seq body x
      -- an index below one does not pass the parser
      | .replay | .senderKey => (.dropped, e)
    | .ok ((messageKey, _), store) =>
      let e := { e with store }
      match openMessage S messageKey sealed (groupSkMsgAad record.groupId epoch sender gen seq) with
      | .error _ => (.dropped, e)
      | .ok plaintext =>
        match parseInnerFrame W plaintext with
        | .error _ => (.dropped, e)
        | .ok frame =>
          if frame.groupId ≠ record.groupId ∨ frame.epoch ≠ epoch ∨ frame.sender ≠ sender ∨
              frame.recipient ≠ groupBroadcastRecipient ∨ frame.frameType ≠ .gmsg ∨
              frame.gseq ≠ seq then (.dropped, e)
          else (.message frame, e)

def countFailure (gid : GroupId) (epoch : ℕ) (sender : Fingerprint) (now : ℚ) : Endpoint :=
  match e.mesh.acceptingLink gid.val epoch sender.val now with
  | none => e
  | some ref =>
    match e.mesh.objects.get? ref with
    | none => e
    | some link => { e with mesh := { e.mesh with
        objects := e.mesh.objects.set ref { link with aeadFailures := link.aeadFailures + 1 } } }

def dispatchFrame (record : LocalGroupRecord) (sender : Fingerprint) (frame : GroupInnerFrame)
    (x : StepDraw) : Handled × Endpoint :=
  match frame.frameType with
  | .gskreq =>
    if e.suite record.groupId = .senderkeyV1 then
      let (answer, e) := e.respondSkDistribution S record sender x
      (.keyRequest sender answer, e)
    else (.dropped, e)
  | .gack | .gread => (.receipt frame, e)
  | .gmsg => if e.suite record.groupId = .senderkeyV1 then (.dropped, e) else (.message frame, e)
  -- a distribution that arrives this way is taken for a message
  | .gsk => (.message frame, e)

def handleMessage (record : LocalGroupRecord) (sender : Fingerprint) (epoch : ℕ) (sealed : Bytes)
    (x : StepDraw) : Handled × Endpoint :=
  match e.linkKey record.groupId epoch sender x.now with
  | none => (.dropped, e)
  | some key =>
    match openSealed S key sealed (ascii (groupMessageAad record.groupId epoch sender e.me)) with
    | .error _ => (.dropped, e.countFailure record.groupId epoch sender x.now)
    | .ok plaintext =>
      match parseInnerFrame W plaintext with
      | .error _ => (.dropped, e)
      | .ok frame =>
        if frame.groupId ≠ record.groupId ∨ frame.epoch ≠ epoch ∨ frame.sender ≠ sender ∨
            frame.recipient ≠ e.me.val then (.dropped, e)
        else e.dispatchFrame S record sender frame x

def handleKind (record : LocalGroupRecord) (sender : Fingerprint) (epoch : ℕ) (kind : String)
    (body : Bytes) (x : StepDraw) : Handled × Endpoint :=
  if kind = kindKex then (.kex sender epoch body, e)
  else if kind = kindSk ∨ kind = kindSkmsg then
    if e.suite record.groupId ≠ .senderkeyV1 then (.dropped, e)
    else if kind = kindSk then e.handleSenderKeyDistribution S W record sender epoch body x
    else e.handleSenderKeyMessage S W record sender epoch body x
  else e.handleMessage S W record sender epoch body x

/-- `_handle_forward`: the gates before anything is opened, then the dispatch. -/
def handleForward (p : GroupForward) (x : StepDraw) : Handled × Endpoint :=
  match Base64.decode p.body.toList with
  | none => (.dropped, e)
  | some body =>
    if p.recipient ≠ e.me.val then (.dropped, e)
    else
      match (GroupId.ofString? p.group).bind e.groups.records.get? with
      | none => (.dropped, e)
      | some record =>
        match Fingerprint.ofString? p.sender with
        | none => (.dropped, e)
        | some sender =>
          if ¬ record.members.contains sender then (.dropped, e)
          else if record.state ≠ .active then (.dropped, e)
          else if record.suspect then (.dropped, e)
          else e.handleKind S W record sender p.epoch p.kind body x

end Endpoint

end Ghostlink.Groups
