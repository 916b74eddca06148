import Ghostlink.Groups.Forwarding
import Ghostlink.Groups.SizeLimits

/-! Asking a peer for its sender key. The request is sealed as a pairwise control frame, which
only the handler of pairwise messages answers, and it travels under the kind of distributions,
which never reaches that handler. -/

namespace Ghostlink.Groups.Endpoint
open Collections Text
open Messaging (SessionPrimitives Key sealWith openSealed openSealed_sealWith)

variable {S : SessionPrimitives} {W : WirePrimitives} {a b e : Endpoint}
  {ra rb record : LocalGroupRecord} {x y z : StepDraw}

lemma installFrame_ne_keyRequest (S) (e : Endpoint) (record sender epoch gen frame f answer) :
    (e.installFrame S record sender epoch gen frame).1 ≠ .keyRequest f answer := by
  unfold installFrame
  split
  · exact nofun
  · split
    · exact nofun
    · dsimp only
      split <;> exact nofun

lemma handleSenderKeyDistribution_ne_keyRequest (sender epoch body f answer) :
    (e.handleSenderKeyDistribution S W record sender epoch body x).1 ≠ .keyRequest f answer := by
  unfold handleSenderKeyDistribution
  repeat' split
  all_goals first
    | exact installFrame_ne_keyRequest S e record sender epoch _ _ f answer
    | exact nofun

/-- Both members follow the same sender-key group at the same epoch and hold a link there, one
of them when the request is sent and the other when it arrives. -/
structure Paired (a b : Endpoint) (ra rb : LocalGroupRecord) (key : Key) (x y : StepDraw) :
    Prop where
  requester : a.groups.records.get? ra.groupId = some ra
  holder : b.groups.records.get? ra.groupId = some rb
  listed : rb.members.contains a.me
  active : rb.state = .active
  trusted : rb.suspect = false
  suite : b.suite ra.groupId = .senderkeyV1
  epoch : ra.epoch = rb.epoch
  dated : 1 ≤ ra.epoch
  asks : a.linkKey ra.groupId ra.epoch b.me x.now = some key
  hears : b.linkKey ra.groupId ra.epoch a.me y.now = some key

/-- Every request is answered by the holder, and what it then sends lets the requester resolve
an index that the holder's chain has passed. -/
def PullWorks (S : SessionPrimitives) (W : WirePrimitives) (a b : Endpoint)
    (ra rb : LocalGroupRecord) (x y z : StepDraw) : Prop :=
  ∀ p, (a.sendSkreq S ra b.me x).1 = some p →
    ∃ answer, (b.handleForward S W p y).1 = .keyRequest a.me answer ∧
      ∀ chain index, b.store.outgoingChain ra.groupId.val rb.epoch = some chain →
        (b.skreqAllowed (ra.groupId, a.me) y.now).1 → 1 ≤ index →
        index < chain.nextIndex →
        ∃ q result, answer = some q ∧
          ((a.sendSkreq S ra b.me x).2.handleForward S W q z).2.store.messageKeyFor
            (senderKeyPrimitives S)
            { groupId := ra.groupId.val, epoch := ra.epoch, sender := b.me.val, gen := chain.gen }
            index = .ok result

def requestEnvelope (S : SessionPrimitives) (a : Endpoint) (ra : LocalGroupRecord)
    (peer : Fingerprint) (key : Key) (x : StepDraw) : GroupForward :=
  a.forward ra peer kindSk (sealWith S key x.nonce
    (dumpsBytes false (baseFields .gskreq ra.groupId ra.epoch a.me.val peer.val))
    (ascii (groupMessageAad ra.groupId ra.epoch a.me peer)))

lemma gskreqFrame_eq {group epoch} (dated : 1 ≤ epoch) (sender recipient : Fingerprint) :
    gskreqFrame group epoch sender recipient =
      .ok (dumpsBytes false (baseFields .gskreq group epoch sender.val recipient.val)) := by
  rw [gskreqFrame, requireEpoch, if_neg (Nat.not_lt.mpr dated)]
  rfl

lemma skreqAllowed_eq (e : Endpoint) (key now) :
    ∃ windows, (e.skreqAllowed key now).2 = { e with skreqWindows := windows } := by
  unfold skreqAllowed
  dsimp only
  split_ifs <;> exact ⟨_, rfl⟩

lemma sendSkreq_eq {peer key}
    (link : a.linkKey ra.groupId ra.epoch peer x.now = some key) (dated : 1 ≤ ra.epoch) :
    (a.sendSkreq S ra peer x).1 =
      if (a.skreqAllowed (ra.groupId, peer) x.now).1 then
        some (requestEnvelope S a ra peer key x)
      else none := by
  obtain ⟨windows, after⟩ := skreqAllowed_eq a (ra.groupId, peer) x.now
  unfold sendSkreq
  rcases brake : a.skreqAllowed (ra.groupId, peer) x.now with ⟨allowed, e⟩
  rw [brake] at after
  dsimp only at after ⊢
  subst after
  cases allowed with
  | false => rfl
  | true =>
    have same : linkKey { a with skreqWindows := windows } ra.groupId ra.epoch peer x.now =
        some key := link
    simp only [same, gskreqFrame_eq dated, not_true_eq_false, if_false, if_true]
    rfl

/-- The holder takes the request for a distribution. -/
lemma handleForward_requestEnvelope {key} (paired : Paired a b ra rb key x y) :
    b.handleForward S W (requestEnvelope S a ra b.me key x) y =
      b.handleSenderKeyDistribution S W rb a.me ra.epoch (sealWith S key x.nonce
        (dumpsBytes false (baseFields .gskreq ra.groupId ra.epoch a.me.val b.me.val))
        (ascii (groupMessageAad ra.groupId ra.epoch a.me b.me))) y := by
  have other : kindSk ≠ kindKex := by decide
  have filed := b.groups.filed _ _ paired.holder
  have sender : Fingerprint.ofString? a.me.val = some a.me := dif_pos a.me.2
  simp [handleForward, requestEnvelope, forward, Base64.decode_encode, GroupId.ofString?_val, sender,
    paired.holder, paired.listed, paired.active, paired.trusted, handleKind, other, filed, paired.suite]

/-- The pull works only where nothing is asked: when the requester's own brake holds back. -/
theorem key_pull_works_iff_braked {key : Key} (paired : Paired a b ra rb key x y) :
    PullWorks S W a b ra rb x y z ↔ (a.skreqAllowed (ra.groupId, b.me) x.now).1 = false := by
  have produced := sendSkreq_eq (S := S) paired.asks paired.dated
  constructor
  · intro works
    refine Bool.eq_false_iff.mpr fun allowed => ?_
    rw [allowed, if_pos rfl] at produced
    obtain ⟨answer, routed, -⟩ := works _ produced
    rw [handleForward_requestEnvelope paired] at routed
    exact handleSenderKeyDistribution_ne_keyRequest _ _ _ _ _ routed
  · intro braked p sent
    rw [produced, braked] at sent
    exact nomatch sent

section Pull
open SenderKeyService (trio trioManager)
open GroupAuthority (nightWatch bob)
open Mirror (alice)

def plainLink : Key := Vector.replicate 32 7

def draw : StepDraw := { now := 0, nonce := Vector.replicate 12 0, root := plainLink }

def linkedTo (peer : Fingerprint) : GroupMeshManager :=
  { GroupMeshManager.start 30 10 with
    links := Dict.empty.set (nightWatch.val, peer.val) 0
    objects := Dict.empty.set 0
      { groupId := nightWatch.val, epoch := 2, peerFingerprint := peer.val, peerPubkeyHex := "",
        key := plainLink, initiator := true, createdMono := 0, aeadFailures := 0 }
    next := 1 }

def member (me peer : Fingerprint) (asked : List ℚ) : Endpoint where
  me
  groups := trioManager
  suite _ := .senderkeyV1
  mesh := linkedTo peer
  store := { SenderKeyStore.empty with
    outgoing := Dict.empty.set (nightWatch.val, 2)
      (OutgoingChain.make (senderKeyPrimitives plainCipher)
        { groupId := nightWatch.val, epoch := 2, sender := me.val, gen := 1 } plainLink 2) }
  skreqWindows := Dict.empty.set (nightWatch, bob) asked
  distributed := Dict.empty
  pending := Dict.empty

lemma paired_members (asked) :
    Paired (member alice bob asked) (member bob alice []) trio trio plainLink draw draw where
  requester := rfl
  holder := rfl
  listed := by
    show trio.members.contains alice
    decide
  active := rfl
  trusted := rfl
  suite := rfl
  epoch := rfl
  dated := by decide
  asks := by
    show (((linkedTo bob).acceptingLink nightWatch.val 2 bob.val 0).bind
      (linkedTo bob).objects.get?).map PairwiseLink.key = some plainLink
    decide +kernel
  hears := by
    show (((linkedTo alice).acceptingLink nightWatch.val 2 alice.val 0).bind
      (linkedTo alice).objects.get?).map PairwiseLink.key = some plainLink
    decide +kernel

/-- Bob holds a chain that has passed index 1, and still drops the request as malformed. -/
theorem key_request_dropped :
    Paired (member alice bob []) (member bob alice []) trio trio plainLink draw draw ∧
      (∃ p, ((member alice bob []).sendSkreq plainCipher trio bob draw).1 = some p ∧
        ((member bob alice []).handleForward plainCipher plainWire p draw).1 = .dropped) ∧
      ¬ PullWorks plainCipher plainWire (member alice bob []) (member bob alice []) trio trio draw
        draw draw := by
  have paired := paired_members []
  have sent : ((member alice bob []).sendSkreq plainCipher trio bob draw).1 =
      some (requestEnvelope plainCipher (member alice bob []) trio bob plainLink draw) := by
    refine (sendSkreq_eq paired.asks paired.dated).trans (if_pos ?_)
    decide +kernel
  have dropped : ((member bob alice []).handleForward plainCipher plainWire
      (requestEnvelope plainCipher (member alice bob []) trio bob plainLink draw) draw).1 =
        .dropped := by
    refine (congrArg Prod.fst (handleForward_requestEnvelope paired)).trans ?_
    decide +kernel
  refine ⟨paired, ⟨_, sent, dropped⟩, fun works => ?_⟩
  obtain ⟨answer, routed, -⟩ := works _ sent
  exact nomatch dropped.symm.trans routed

/-- Four requests within the window use up the brake, and nothing is sent. -/
theorem no_request_when_braked :
    PullWorks plainCipher plainWire (member alice bob [0, 0, 0, 0]) (member bob alice []) trio trio
      draw draw draw :=
  (key_pull_works_iff_braked (paired_members [0, 0, 0, 0])).mpr (by decide +kernel)

end Pull

end Ghostlink.Groups.Endpoint
