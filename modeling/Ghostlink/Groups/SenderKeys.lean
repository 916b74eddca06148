import Ghostlink.Base.Dict
import Ghostlink.Base.Ratchet
import Ghostlink.Groups.Identifiers

/-! Sender keys: the outgoing ratchet of a sender, a recipient's view of it, and the store
that keeps one of each per group. HKDF and the message cipher come in as
`SenderKeyPrimitives`; random roots and nonces are arguments of the call that draws them. -/

namespace Ghostlink.Groups
open Collections

abbrev SecretKey := Vector UInt8 32
abbrev Nonce := Vector UInt8 12

structure SenderKeyPrimitives where
  hkdf : SecretKey → Bytes → SecretKey
  encrypt : SecretKey → Nonce → Bytes → Bytes → Bytes

inductive SenderKeyErrorKind
  | senderKey | missing | replay | excessiveGap
  deriving DecidableEq, Repr

structure SenderKeyError where
  kind : SenderKeyErrorKind
  message : String
  hint : String
  deriving DecidableEq, Repr

def groupSkSkippedMax : ℕ := 64

def groupSkMaxReceiverState : ℕ := 8 * 8

def skInfo : String := "ghostlink/group/senderkey/v1"

def ascii (s : String) : Bytes := s.toUTF8.data.toList

structure ChainContext where
  groupId : String
  epoch : ℕ
  sender : String
  gen : ℕ
  deriving DecidableEq, Repr

def ChainContext.info (x : ChainContext) (purpose : String) (index : ℕ) : Bytes :=
  ascii (skInfo ++ "|" ++ "|".intercalate
    [purpose, x.groupId, toString x.epoch, x.sender, toString x.gen, toString index])

def deriveMessageKey (S : SenderKeyPrimitives) (x : ChainContext) (index : ℕ)
    (chainKey : SecretKey) : SecretKey :=
  S.hkdf chainKey (x.info "msg" index)

def advanceChain (S : SenderKeyPrimitives) (x : ChainContext) (index : ℕ)
    (chainKey : SecretKey) : SecretKey :=
  S.hkdf chainKey (x.info "chain" index)

def sealMessage (S : SenderKeyPrimitives) (messageKey : SecretKey) (nonce : Nonce)
    (plaintext aad : Bytes) : Bytes :=
  nonce.toList ++ S.encrypt messageKey nonce plaintext aad

structure Distribution where
  gen : ℕ
  index : ℕ
  root : SecretKey
  deriving DecidableEq

def requireIndex (index : ℕ) : Except SenderKeyError Unit :=
  if index < 1 then
    throw { kind := .senderKey, message := "Sender-key index must be a positive integer.",
            hint := "Malformed frame." }
  else pure ()

structure OutgoingChain where
  groupId : String
  epoch : ℕ
  gen : ℕ
  root : SecretKey
  chain : SecretKey
  nextIndex : ℕ
  deriving DecidableEq

namespace OutgoingChain
variable (S : SenderKeyPrimitives)

/-- A chain that begins at `startIndex` has passed every earlier position unsealed. -/
def make (x : ChainContext) (root : SecretKey) (startIndex : ℕ) : OutgoingChain :=
  let start := if startIndex ≥ 1 then startIndex else 1
  { groupId := x.groupId, epoch := x.epoch, gen := x.gen, root,
    chain := (List.range' 1 (start - 1)).foldl (fun c idx => advanceChain S x idx c) root,
    nextIndex := start }

def sealAt (o : OutgoingChain) (groupId : String) (epoch : ℕ) (sender : String) (index : ℕ)
    (nonce : Nonce) (plaintext aad : Bytes) : Except SenderKeyError (Bytes × OutgoingChain) := do
  requireIndex index
  if index ≠ o.nextIndex then
    throw { kind := .senderKey,
            message := s!"Sender-key index {index} out of order (next is {o.nextIndex}).",
            hint := "Messages must be sealed in chain order." }
  let x : ChainContext := { groupId, epoch, sender, gen := o.gen }
  let messageKey := deriveMessageKey S x index o.chain
  pure (sealMessage S messageKey nonce plaintext aad,
    { o with chain := advanceChain S x index o.chain, nextIndex := index + 1 })

def distribution (o : OutgoingChain) (index : Option ℕ) : Distribution :=
  { gen := o.gen, index := index.getD o.nextIndex, root := o.root }

end OutgoingChain

structure ReceiverChain where
  groupId : String
  sender : String
  epoch : ℕ
  gen : ℕ
  lastSeen : ℕ
  chain : Option SecretKey
  skipped : Dict ℕ SecretKey

namespace ReceiverChain
variable (S : SenderKeyPrimitives)

def make (x : ChainContext) : ReceiverChain :=
  { groupId := x.groupId, sender := x.sender, epoch := x.epoch, gen := x.gen,
    lastSeen := 0, chain := none, skipped := Dict.empty }

def context (r : ReceiverChain) : ChainContext :=
  { groupId := r.groupId, epoch := r.epoch, sender := r.sender, gen := r.gen }

def cacheSkipped (skipped : Dict ℕ SecretKey) (index : ℕ) (messageKey : SecretKey) :
    Dict ℕ SecretKey :=
  if skipped.contains index then skipped.moveToEnd index
  else (skipped.set index messageKey).dropOldest groupSkSkippedMax

def skipThrough (x : ChainContext) :
    List ℕ → SecretKey → Dict ℕ SecretKey → SecretKey × Dict ℕ SecretKey :=
  Ratchet.walk (advanceChain S x) fun k chain skipped =>
    cacheSkipped skipped k (deriveMessageKey S x k chain)

def install (r : ReceiverChain) (root : SecretKey) (index : ℕ) :
    Except SenderKeyError ReceiverChain := do
  requireIndex index
  match r.chain with
  | none =>
    let (chain, skipped) := skipThrough S r.context (List.range' 1 index) root r.skipped
    pure { r with lastSeen := index, chain := some chain, skipped }
  | some own =>
    -- a distribution behind the live chain is ignored
    if index ≤ r.lastSeen then pure r
    else
      let (chain, skipped) := skipThrough S r.context
        (List.range' (r.lastSeen + 1) (index - r.lastSeen)) own r.skipped
      pure { r with lastSeen := index, chain := some chain, skipped }

def messageKeyFor (r : ReceiverChain) (index : ℕ) :
    Except SenderKeyError ((SecretKey × Bool) × ReceiverChain) := do
  requireIndex index
  match r.chain with
  | none =>
    throw { kind := .missing,
            message := "No sender key installed for this sender/epoch/generation.",
            hint := "Request a fresh distribution from the sender." }
  | some own =>
    match r.skipped.get? index with
    | some key => pure ((key, true), { r with skipped := r.skipped.erase index })
    | none =>
      if index ≤ r.lastSeen then
        throw { kind := .replay,
                message := s!"Message index {index} ≤ last seen {r.lastSeen}.",
                hint := "Stale or replayed sender-key message — dropped." }
      let gap := index - r.lastSeen - 1
      if gap > groupSkSkippedMax then
        throw { kind := .excessiveGap,
                message :=
                  s!"Message index {index} jumped ahead by {gap} (> {groupSkSkippedMax}).",
                hint := "Reject the frame; request a fresh distribution if needed." }
      let (chain, skipped) := skipThrough S r.context
        (List.range' (r.lastSeen + 1) gap) own r.skipped
      pure ((deriveMessageKey S r.context index chain, false),
        { r with lastSeen := index, chain := some (advanceChain S r.context index chain),
                 skipped })

def zeroize (r : ReceiverChain) : ReceiverChain := { r with chain := none, skipped := Dict.empty }

end ReceiverChain

structure SenderKeyStore where
  outgoing : Dict (String × ℕ) OutgoingChain
  incoming : Dict (String × String) ReceiverChain
  generations : Dict (String × ℕ) ℕ
  startIndex : Dict (String × ℕ) ℕ

namespace SenderKeyStore
variable (S : SenderKeyPrimitives) (k : SenderKeyStore)

def empty : SenderKeyStore :=
  { outgoing := Dict.empty, incoming := Dict.empty, generations := Dict.empty,
    startIndex := Dict.empty }

/-- `root` is the value `generate_chain_root` draws if a chain has to be created. -/
def ensureOutgoing (groupId : String) (epoch : ℕ) (sender : String) (startIndex : Option ℕ)
    (root : SecretKey) : OutgoingChain × SenderKeyStore :=
  match k.outgoing.get? (groupId, epoch) with
  | some chain => (chain, k)
  | none =>
    let start := startIndex.getD ((k.startIndex.get? (groupId, epoch)).getD 1)
    let gen := (k.generations.get? (groupId, epoch)).getD 0 + 1
    let chain := OutgoingChain.make S
      { groupId, epoch, sender, gen } root start
    (chain, { k with startIndex := k.startIndex.set (groupId, epoch) start,
                     generations := k.generations.set (groupId, epoch) gen,
                     outgoing := k.outgoing.set (groupId, epoch) chain })

def outgoingDistribution (groupId : String) (epoch : ℕ) (sender : String) (index : Option ℕ)
    (root : SecretKey) : Distribution × SenderKeyStore :=
  let (chain, k) := k.ensureOutgoing S groupId epoch sender none root
  (chain.distribution index, k)

def outgoingChain (groupId : String) (epoch : ℕ) : Option OutgoingChain :=
  k.outgoing.get? (groupId, epoch)

def installIncoming (x : ChainContext) (root : SecretKey) (index : ℕ) :
    SenderKeyStore × Except SenderKeyError Unit :=
  let key := (x.groupId, x.sender)
  let installed (k : SenderKeyStore) (receiver : ReceiverChain) :=
    match receiver.install S root index with
    | .ok receiver => ({ k with incoming := k.incoming.set key receiver }, .ok ())
    | .error e => (k, .error e)
  if k.incoming.size ≥ groupSkMaxReceiverState ∧ ¬ k.incoming.contains key then
    (k, .error { kind := .senderKey, message := "Too many active sender-key chains.",
                 hint := "Resource bound exceeded." })
  else
    match k.incoming.get? key with
    | some existing =>
      if existing.epoch = x.epoch ∧ existing.gen = x.gen then installed k existing
      else
        -- the old chain is wiped before the new one is known to install
        installed { k with incoming := k.incoming.set key existing.zeroize } (.make x)
    | none => installed k (.make x)

def messageKeyFor (S : SenderKeyPrimitives) (k : SenderKeyStore) (x : ChainContext)
    (index : ℕ) : Except SenderKeyError ((SecretKey × Bool) × SenderKeyStore) := do
  let missing : SenderKeyError :=
    { kind := .missing, message := "No valid sender key for this epoch/generation.",
      hint := "Request a fresh distribution from the sender." }
  match k.incoming.get? (x.groupId, x.sender) with
  | none => throw missing
  | some receiver =>
    if receiver.epoch ≠ x.epoch ∨ receiver.gen ≠ x.gen then throw missing
    let (result, receiver) ← receiver.messageKeyFor S index
    pure (result, { k with incoming := k.incoming.set (x.groupId, x.sender) receiver })

def pruneEpoch (groupId : String) (epoch : ℕ) : SenderKeyStore :=
  { k with
    outgoing := k.outgoing.filter fun key _ => !(key.1 == groupId && key.2 != epoch)
    incoming := k.incoming.filter fun key chain => !(key.1 == groupId && chain.epoch != epoch) }

def dropSender (groupId sender : String) : SenderKeyStore :=
  { k with incoming := k.incoming.erase (groupId, sender) }

def teardownGroup (groupId : String) : SenderKeyStore :=
  { outgoing := k.outgoing.filter fun key _ => key.1 != groupId
    incoming := k.incoming.filter fun key _ => key.1 != groupId
    generations := k.generations.filter fun key _ => key.1 != groupId
    startIndex := k.startIndex.filter fun key _ => key.1 != groupId }

end SenderKeyStore

end Ghostlink.Groups
