import Ghostlink.Base.Dict
import Ghostlink.Messaging.Handshake
import Mathlib.Data.Rat.Defs

/-! The manager of pairwise links. A link is an object that callers and both of the manager's maps
may refer to, so links live on a heap and the maps hold references; dropping a link overwrites
its key in place. Readings of the clock and the draws of a handshake are arguments. -/

namespace Ghostlink.Groups
open Collections Messaging

abbrev PeerKey := String × String

def maxLinks : ℕ := 8 - 1
def strayKexEviction : ℕ := 256

inductive MeshError
  | message (message hint : String)
  | handshake (e : MessagingError)
  deriving DecidableEq, Repr

def groupLinkContext (groupId : String) (epoch : ℤ) : String :=
  s!"ghostlink/group/v1|{groupId}|{epoch}"

structure PairwiseLink where
  groupId : String
  epoch : ℤ
  peerFingerprint : String
  peerPubkeyHex : String
  key : Key
  initiator : Bool
  createdMono : ℚ
  aeadFailures : ℕ

def zeroKey : Key := Vector.replicate 32 0

namespace PairwiseLink

def zeroize (link : PairwiseLink) : PairwiseLink := { link with key := zeroKey }

def place (link : PairwiseLink) : PeerKey := (link.groupId, link.peerFingerprint)

end PairwiseLink

structure PendingHandshake where
  hello : HandshakeInitiator
  peerFingerprint : String
  peerPubkeyHex : String
  epoch : ℤ
  deadlineMono : ℚ

structure GroupMeshManager where
  drainSeconds : ℚ
  kexTimeout : ℚ
  links : Dict PeerKey ℕ
  draining : Dict PeerKey (ℕ × ℚ)
  pending : Dict PeerKey PendingHandshake
  groupEpochs : Dict String ℤ
  objects : Dict ℕ PairwiseLink
  next : ℕ

namespace GroupMeshManager
variable (S : SessionPrimitives) (lower : String → String) (m : GroupMeshManager)

def start (drainSeconds kexTimeout : ℚ) : GroupMeshManager :=
  { drainSeconds, kexTimeout, links := Dict.empty,
    draining := Dict.empty, pending := Dict.empty, groupEpochs := Dict.empty,
    objects := Dict.empty, next := 0 }

def initiates (ownPubkeyHex peerPubkeyHex : String) : Bool :=
  lower ownPubkeyHex < lower peerPubkeyHex

def zeroize (ref : ℕ) : GroupMeshManager :=
  match m.objects.get? ref with
  | none => m
  | some link => { m with objects := m.objects.set ref link.zeroize }

def dropLive (key : PeerKey) : GroupMeshManager × Bool :=
  match m.links.get? key with
  | none => (m, false)
  | some ref => ({ m.zeroize ref with links := m.links.erase key }, true)

def dropDraining (key : PeerKey) : GroupMeshManager × Bool :=
  match m.draining.get? key with
  | none => (m, false)
  | some (ref, _) => ({ m.zeroize ref with draining := m.draining.erase key }, true)

def dropPending (key : PeerKey) : GroupMeshManager × Bool :=
  ({ m with pending := m.pending.erase key }, m.pending.contains key)

def dropLink (key : PeerKey) : GroupMeshManager × Bool :=
  let (m, live) := m.dropLive key
  let (m, drained) := m.dropDraining key
  let (m, waiting) := m.dropPending key
  (m, live || drained || waiting)

def dropEach (drop : GroupMeshManager → PeerKey → GroupMeshManager × Bool)
    (m : GroupMeshManager) (keys : List PeerKey) : GroupMeshManager × ℕ :=
  keys.foldl (fun (m, count) key => let (m, dropped) := drop m key; (m, count + dropped.toNat))
    (m, 0)

def sweepPending (now : ℚ) : GroupMeshManager :=
  { m with pending := m.pending.filter fun _ p => !(now ≥ p.deadlineMono) }

def requireCapacity (groupId : String) (now : ℚ) : GroupMeshManager × Except MeshError Unit :=
  if (m.links.keys.filter fun key => key.1 = groupId).length ≥ maxLinks then
    (m, .error (.message
      s!"The mesh already holds the maximum {maxLinks} links for this group."
      "Link capacity is bounded at members-1 by design."))
  else if m.links.size + m.pending.size > strayKexEviction then
    let m := m.sweepPending now
    if m.links.size + m.pending.size > strayKexEviction then
      (m, .error (.message "Too many outstanding mesh handshakes."
        "KEX flood guard tripped — try again shortly."))
    else (m, .ok ())
  else (m, .ok ())

def drainOlder (groupId : String) (epoch : ℤ) (deadline : ℚ) (m : GroupMeshManager)
    (entry : PeerKey × ℕ) : GroupMeshManager :=
  if entry.1.1 = groupId ∧ (m.objects.get? entry.2).any (fun link => link.epoch < epoch) then
    { m with draining := m.draining.set entry.1 (entry.2, deadline)
             links := m.links.erase entry.1 }
  else m

def observeEpoch (groupId : String) (epoch : ℤ) (now : ℚ) : GroupMeshManager × List PeerKey :=
  if (m.groupEpochs.get? groupId).any fun current => epoch ≤ current then (m, [])
  else
    let m := { m with groupEpochs := m.groupEpochs.set groupId epoch }
    let m := m.links.entries.foldl (drainOlder groupId epoch (now + m.drainSeconds)) m
    let old (key : PeerKey) (p : PendingHandshake) : Bool := key.1 = groupId ∧ p.epoch < epoch
    ({ m with pending := m.pending.filter fun key p => !old key p }, (m.pending.filter old).keys)

def installLink (key : PeerKey) (sessionKey : Key) (epoch : ℤ) (peerPubkeyHex : String)
    (initiator : Bool) (now : ℚ) : GroupMeshManager × ℕ :=
  let m := (m.dropLink key).1
  let link : PairwiseLink :=
    { groupId := key.1, epoch, peerFingerprint := key.2,
      peerPubkeyHex := lower peerPubkeyHex, key := sessionKey, initiator,
      createdMono := now, aeadFailures := 0 }
  ({ m with objects := m.objects.set m.next link, links := m.links.set key m.next,
            next := m.next + 1 }, m.next)

structure HelloDraw where
  privateKey : Key
  nonce : HelloNonce
  checked : ℚ
  swept : ℚ
  started : ℚ

def helloFor (groupId : String) (epoch : ℤ) (peerFingerprint peerPubkeyHex ownPubkeyHex : String)
    (force : Bool) (d : HelloDraw) : GroupMeshManager × Except MeshError (Option KexPayload) :=
  let key : PeerKey := (groupId, peerFingerprint)
  if ¬ initiates lower ownPubkeyHex peerPubkeyHex then
    (m, .error (.message "Only the smaller identity key may initiate a group link."
      "Deterministic initiator selection keeps one link per pair."))
  else if (m.pending.get? key).any fun p => d.checked < p.deadlineMono then (m, .ok none)
  else
    let live := ((m.links.get? key).bind m.objects.get?).any fun link => link.epoch = epoch
    if live ∧ ¬ force then (m, .ok none)
    else
      -- an explicit new pairing: the old key dies with its session
      let m := if live then (m.dropLink key).1 else m
      match m.requireCapacity groupId d.swept with
      | (m, .error e) => (m, .error e)
      | (m, .ok ()) =>
        let hello := HandshakeInitiator.make (groupLinkContext groupId epoch) ""
          (some ownPubkeyHex) d.privateKey d.nonce
        let waiting : PendingHandshake :=
          { hello, peerFingerprint,
            peerPubkeyHex := lower peerPubkeyHex, epoch,
            deadlineMono := d.started + m.kexTimeout }
        ({ m with pending := m.pending.set key waiting }, .ok (some (hello.helloPayload S)))

def substituted : MeshError :=
  .handshake
    { kind := .handshakeFailed
      message := "Handshake identity key does not match the roster identity."
      hint := "A relay or peer substituted identity keys — link refused." }

def unbound : MeshError :=
  .handshake
    { kind := .handshakeFailed
      message := "Group links require identity keys in both directions."
      hint := "Ask the peer to upgrade — group links bind identity keys." }

def presents (payload : KexPayload) (expected : String) : Bool :=
  match payload.idpub with
  | .text s => lower s = expected
  | _ => false

def handleHello (groupId : String) (epoch : ℤ) (peerFingerprint peerPubkeyHex ownPubkeyHex : String)
    (hello : KexPayload) (d : ResponderDraw) (swept installed : ℚ) : GroupMeshManager × Except
    MeshError KexPayload :=
  let key : PeerKey := (groupId, peerFingerprint)
  if initiates lower ownPubkeyHex peerPubkeyHex then
    (m, .error (.handshake
      { kind := .handshakeFailed
        message := "Handshake role violation — the smaller key must initiate."
        hint := "A peer violating deterministic roles is not to be trusted." }))
  else if ¬ presents lower hello (lower peerPubkeyHex) then (m, .error substituted)
  else
    match m.requireCapacity groupId swept with
    | (m, .error e) => (m, .error e)
    | (m, .ok ()) =>
      -- a fresh hello supersedes any old link, whether or not it can be answered
      let m := (m.dropLink key).1
      match HandshakeResponder.answer S (groupLinkContext groupId epoch) "" (some ownPubkeyHex) d
          hello with
      | .error e => (m, .error (.handshake e))
      | .ok (reply, session) =>
        if ¬ session.identityBound then (m, .error unbound)
        else
          ((m.installLink lower key session.sessionKey epoch peerPubkeyHex false installed).1,
            .ok reply)

def handleReply (groupId : String) (epoch : ℤ) (peerFingerprint : String) (reply : KexPayload)
    (installed : ℚ) : GroupMeshManager × Except MeshError ℕ :=
  let key : PeerKey := (groupId, peerFingerprint)
  match m.pending.get? key with
  | none =>
    (m, .error (.handshake
      { kind := .handshakeFailed, message := "Handshake reply without a pending hello."
        hint := "Stale or spoofed handshake traffic is dropped." }))
  | some waiting =>
    if waiting.epoch ≠ epoch then
      (m, .error (.handshake
        { kind := .handshakeFailed, message := "Handshake reply pins a different epoch."
          hint := "A peer or relay re-labeling epochs is not to be trusted." }))
    else if ¬ presents lower reply waiting.peerPubkeyHex then (m, .error substituted)
    else
      let completed := waiting.hello.complete S reply
      let m := { m with pending := m.pending.erase key }
      match completed with
      | .error e => (m, .error (.handshake e))
      | .ok session =>
        if ¬ session.identityBound then (m, .error unbound)
        else
          let (m, ref) := m.installLink lower key session.sessionKey epoch waiting.peerPubkeyHex
            true installed
          (m, .ok ref)

def acceptingLink (groupId : String) (epoch : ℤ) (sender : String) (now : ℚ) : Option ℕ :=
  let pinned (ref : ℕ) : Bool := (m.objects.get? ref).any fun link => link.epoch = epoch
  if (m.groupEpochs.get? groupId).any fun current => epoch > current ∨ epoch < current - 1 then
    none
  else
    match (m.links.get? (groupId, sender)).filter pinned with
    | some ref => some ref
    | none =>
      ((m.draining.get? (groupId, sender)).filter fun entry =>
        pinned entry.1 && now < entry.2).map Prod.fst

def teardownLink (groupId peerFingerprint : String) : GroupMeshManager × Bool :=
  m.dropLink (groupId, peerFingerprint)

def teardownGroup (groupId : String) : GroupMeshManager × ℕ :=
  let own (key : PeerKey) : Bool := key.1 = groupId
  let (m, live) := dropEach dropLink m (m.links.keys.filter own)
  let (m, drained) := dropEach dropDraining m (m.draining.keys.filter own)
  let waiting := (m.pending.keys.filter own).length
  ({ m with pending := m.pending.filter fun key _ => !own key
            groupEpochs := m.groupEpochs.erase groupId }, live + drained + waiting)

def teardownAll : GroupMeshManager × ℕ :=
  let (m, live) := dropEach dropLink m m.links.keys
  let (m, drained) := dropEach dropDraining m m.draining.keys
  ({ m with pending := Dict.empty, groupEpochs := Dict.empty }, live + drained + m.pending.size)

def expire (now : ℚ) : GroupMeshManager × List PeerKey :=
  let closed := (m.draining.filter fun _ entry => now ≥ entry.2).keys
  let m := (dropEach dropDraining m closed).1
  let dead := (m.pending.filter fun _ p => now ≥ p.deadlineMono).keys
  (m.sweepPending now, closed ++ dead)

inductive Op
  | observeEpoch (groupId : String) (epoch : ℤ) (now : ℚ)
  | helloFor (groupId : String) (epoch : ℤ) (peer peerPubkeyHex ownPubkeyHex : String)
      (force : Bool) (d : HelloDraw)
  | handleHello (groupId : String) (epoch : ℤ) (peer peerPubkeyHex ownPubkeyHex : String)
      (hello : KexPayload) (d : ResponderDraw) (swept installed : ℚ)
  | handleReply (groupId : String) (epoch : ℤ) (peer : String) (reply : KexPayload) (installed : ℚ)
  | teardownLink (groupId peer : String)
  | teardownGroup (groupId : String)
  | teardownAll
  | expire (now : ℚ)
  | sweepPending (now : ℚ)

def exec : Op → GroupMeshManager
  | .observeEpoch groupId epoch now => (m.observeEpoch groupId epoch now).1
  | .helloFor groupId epoch peer peerHex ownHex force d =>
    (m.helloFor S lower groupId epoch peer peerHex ownHex force d).1
  | .handleHello groupId epoch peer peerHex ownHex hello d swept installed =>
    (m.handleHello S lower groupId epoch peer peerHex ownHex hello d swept installed).1
  | .handleReply groupId epoch peer reply installed =>
    (m.handleReply S lower groupId epoch peer reply installed).1
  | .teardownLink groupId peer => (m.teardownLink groupId peer).1
  | .teardownGroup groupId => (m.teardownGroup groupId).1
  | .teardownAll => m.teardownAll.1
  | .expire now => (m.expire now).1
  | .sweepPending now => m.sweepPending now

def run (drainSeconds kexTimeout : ℚ) (ops : List Op) : GroupMeshManager :=
  ops.foldl (exec S lower) (start drainSeconds kexTimeout)

end GroupMeshManager
end Ghostlink.Groups
