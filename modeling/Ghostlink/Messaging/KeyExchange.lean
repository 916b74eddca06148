import Ghostlink.Messaging.Handshake
import Mathlib.Tactic

/-! Host and guest agreeing on a session key over two FIFO channels. The host keeps one pending
initiator: a new hello overwrites it and any reply consumes it. The guest's handler sends its
reply and is suspended there before it adopts the key. Both sessions stay open, and no
connection is lost: the host is free to initiate at any moment. -/

namespace Ghostlink.Messaging
open Text Vector HandshakeInitiator

structure SessionPrimitives.KexLaws (S : SessionPrimitives) : Prop extends S.CipherLaws where
  agree : ∀ a b, ∃ secret,
    S.exchange a (S.publicKey b) = some secret ∧ S.exchange b (S.publicKey a) = some secret

def IdentityKey (hex : Option String) : Prop :=
  ∃ raw : Option Bytes, ownIdpub hex = .ok raw ∧ ∀ bytes, raw = some bytes → bytes.length = 32

lemma optionalIdpub_shown (displayName) {hex raw}
    (own : ownIdpub hex = .ok raw) (long : ∀ bytes, raw = some bytes → bytes.length = 32) :
    optionalIdpub (shownFields displayName hex).2 = .ok raw := by
  unfold ownIdpub at own
  split at own
  · exact own
  · exact own
  · rename_i s nonempty
    split at own
    · rename_i bytes decoded
      have known : some bytes = raw := Except.ok.inj own
      have length : bytes.length = 32 := long bytes known.symm
      have shown : (shownFields displayName (some s)).2 = .text s := by
        simp [shownFields]
      rw [shown, ← known]
      simp [optionalIdpub, decodeHex, decoded, length, bind, Except.bind, pure, Except.pure]
    · exact absurd own nofun

section Exchange
variable {S : SessionPrimitives}

lemma decodeHex_toHex (bytes : Bytes) (field) :
    decodeHex (.text (toHex bytes)) field = .ok bytes := by
  simp [decodeHex, fromHex_toHex]

lemma decodeProof_encode (bytes : Bytes) :
    decodeProof (.text (String.ofList (Base64.encode bytes))) = .ok bytes := by
  simp [decodeProof, Base64.decode_encode]

lemma deriveSessionKey_publicKey (a b transcript) :
    deriveSessionKey S a (S.publicKey b).toList transcript =
      (S.exchange a (S.publicKey b)).map fun secret =>
        S.hkdf secret (S.sha256 transcript).toList sessionInfo := by
  have length : (S.publicKey b).toList.length = 32 := length_toList
  have same {h} : (⟨(S.publicKey b).toList.toArray, h⟩ : Key) = S.publicKey b :=
    toArray_inj.mp Array.toArray_toList
  simp only [deriveSessionKey, length, dite_true, same]
  exact Option.map_eq_bind.symm

lemma complete_answer (laws : S.KexLaws) {i : HandshakeInitiator} (unused : i.used = false)
    (hostKey : IdentityKey i.idpubHex) {guestHex} (guestKey : IdentityKey guestHex) (guestName d) :
    ∃ reply secure,
      HandshakeResponder.answer S i.channelId guestName guestHex d (i.helloPayload S) =
        .ok (reply, secure) ∧
      i.complete S reply = .ok { secure with initiator := true } := by
  obtain ⟨hostRaw, ownHost, longHost⟩ := hostKey
  obtain ⟨guestRaw, ownGuest, longGuest⟩ := guestKey
  obtain ⟨secret, hostSecret, guestSecret⟩ := laws.agree i.privateKey d.privateKey
  let t : Transcript :=
    { channelId := i.channelId, helloPub := (S.publicKey i.privateKey).toList
      helloNonce := i.nonce.toList, replyPub := (S.publicKey d.privateKey).toList
      replyNonce := d.nonce.toList, helloIdpub := hostRaw, replyIdpub := guestRaw }
  let key := S.hkdf secret (S.sha256 (buildTranscript t)).toList sessionInfo
  have guestDerives : deriveSessionKey S d.privateKey (S.publicKey i.privateKey).toList
      (buildTranscript t) = some key := by
    rw [deriveSessionKey_publicKey, guestSecret]
    rfl
  have hostDerives : deriveSessionKey S i.privateKey (S.publicKey d.privateKey).toList
      (buildTranscript t) = some key := by
    rw [deriveSessionKey_publicKey, hostSecret]
    rfl
  let proof := sealWith S key d.proofNonce
    (confirmPrefix ++ (S.sha256 (buildTranscript t)).toList) (buildTranscript t)
  let shown := shownFields (strip guestName) guestHex
  refine ⟨{ pub := .text (toHex (S.publicKey d.privateKey).toList)
            nonce := .text (toHex d.nonce.toList)
            proof := .text (String.ofList (Base64.encode proof)), name := shown.1, idpub := shown.2 },
    secureSession S key t false, ?_, ?_⟩
  · have hello : optionalIdpub (shownFields i.displayName i.idpubHex).2 = .ok hostRaw :=
      optionalIdpub_shown _ ownHost longHost
    simp only [HandshakeResponder.answer, helloPayload, decodeHex_toHex, hello,
      ownGuest, bind, Except.bind, guestDerives, t]
    rfl
  · have back : optionalIdpub shown.2 = .ok guestRaw :=
      optionalIdpub_shown _ ownGuest longGuest
    have opened : openSealed S key proof (buildTranscript t) =
        .ok (confirmPrefix ++ (S.sha256 (buildTranscript t)).toList) :=
      openSealed_sealWith laws.toCipherLaws ..
    simp only [complete, unused, decodeHex_toHex, decodeProof_encode, back,
      ownHost, bind, Except.bind, Bool.false_eq_true, if_false, hostDerives, opened, ne_eq,
      not_true_eq_false, t]
    rfl

end Exchange

inductive Role
  | host | guest
  deriving DecidableEq, Repr

structure Profile where
  channel : String
  role : Role
  displayName : String
  idpubHex : Option String
  deriving DecidableEq

structure ChatSession where
  profile : Profile
  initiator : Option HandshakeInitiator := none
  sessionKey : Option Key := none
  secure : Option SecureSession := none
  ready : Bool := false

namespace ChatSession

def setSession (c : ChatSession) (secure : SecureSession) : ChatSession :=
  { c with sessionKey := some secure.sessionKey, secure := some secure, ready := true }

def initiateHandshake (S : SessionPrimitives) (privateKey : Key) (nonce : HelloNonce)
    (c : ChatSession) : ChatSession × KexPayload :=
  let i := make c.profile.channel c.profile.displayName c.profile.idpubHex
    privateKey nonce
  ({ c with initiator := some i, ready := if c.secure.isSome then false else c.ready },
    i.helloPayload S)

def handleKexHello (S : SessionPrimitives) (d : ResponderDraw) (hello : KexPayload)
    (c : ChatSession) : Option (KexPayload × SecureSession) :=
  if c.profile.role = .guest then
    (HandshakeResponder.answer S c.profile.channel c.profile.displayName c.profile.idpubHex d
      hello).toOption
  else none

def handleKexReply (S : SessionPrimitives) (reply : KexPayload) (c : ChatSession) : ChatSession :=
  match c.initiator with
  | none => c
  | some i =>
    -- the initiator is given up before the reply is known to be good
    let c := { c with initiator := none }
    match i.complete S reply with
    | .error _ => c
    | .ok secure => c.setSession secure

end ChatSession

structure KeyExchange where
  host : ChatSession
  guest : ChatSession
  hellos : List KexPayload := []
  answering : List SecureSession := []
  replies : List KexPayload := []

inductive KexAction
  | initiate (privateKey : Key) (nonce : HelloNonce)
  | deliverHello (d : ResponderDraw)
  | replySent (k : ℕ)
  | deliverReply

def KexAction.isInitiate : KexAction → Bool
  | .initiate _ _ => true
  | _ => false

namespace KeyExchange
variable (S : SessionPrimitives) (x : KeyExchange)

def initiate (privateKey : Key) (nonce : HelloNonce) (x : KeyExchange) : KeyExchange :=
  let (host, hello) := x.host.initiateHandshake S privateKey nonce
  { x with host, hellos := x.hellos ++ [hello] }

def deliverHello (d : ResponderDraw) (x : KeyExchange) : KeyExchange :=
  match x.hellos with
  | [] => x
  | hello :: rest =>
    match x.guest.handleKexHello S d hello with
    | none => { x with hellos := rest }
    | some (reply, secure) =>
      { x with hellos := rest, replies := x.replies ++ [reply]
               answering := x.answering ++ [secure] }

/-- The `k`-th suspended handler of the guest goes on; they finish in any order. -/
def replySent (k : ℕ) (x : KeyExchange) : KeyExchange :=
  match x.answering.drop k with
  | [] => x
  | secure :: rest =>
    { x with guest := x.guest.setSession secure, answering := x.answering.take k ++ rest }

def deliverReply : KeyExchange :=
  match x.replies with
  | [] => x
  | reply :: rest => { x with host := x.host.handleKexReply S reply, replies := rest }

def step : KexAction → KeyExchange
  | .initiate privateKey nonce => x.initiate S privateKey nonce
  | .deliverHello d => x.deliverHello S d
  | .replySent k => x.replySent k
  | .deliverReply => x.deliverReply S

def run (actions : List KexAction) : KeyExchange :=
  actions.foldl (step S) x

def Quiet : Prop :=
  x.hellos = [] ∧ x.answering = [] ∧ x.replies = []

instance (x : KeyExchange) : Decidable x.Quiet :=
  inferInstanceAs (Decidable (_ ∧ _ ∧ _))

def Agreed : Prop :=
  x.host.sessionKey.isSome ∧ x.host.sessionKey = x.guest.sessionKey ∧ x.host.ready

instance (x : KeyExchange) : Decidable x.Agreed :=
  inferInstanceAs (Decidable (_ ∧ _ ∧ _))

structure Paired (x : KeyExchange) : Prop where
  channel : x.host.profile.channel = x.guest.profile.channel
  guestRole : x.guest.profile.role = .guest
  hostKey : IdentityKey x.host.profile.idpubHex
  guestKey : IdentityKey x.guest.profile.idpubHex

variable {S : SessionPrimitives}

lemma profile_handleKexReply (reply) (c : ChatSession) :
    (c.handleKexReply S reply).profile = c.profile := by
  unfold ChatSession.handleKexReply
  split
  · rfl
  · split <;> rfl

lemma step_profiles (x : KeyExchange) (a) : (x.step S a).host.profile = x.host.profile ∧
      (x.step S a).guest.profile = x.guest.profile := by
  rcases a with ⟨privateKey, nonce⟩ | d | k | _
  · exact ⟨rfl, rfl⟩
  · show (x.deliverHello S d).host.profile = _ ∧ (x.deliverHello S d).guest.profile = _
    unfold deliverHello
    split
    · exact ⟨rfl, rfl⟩
    · split <;> exact ⟨rfl, rfl⟩
  · show (x.replySent k).host.profile = _ ∧ (x.replySent k).guest.profile = _
    unfold replySent
    split <;> exact ⟨rfl, rfl⟩
  · show (x.deliverReply S).host.profile = _ ∧ (x.deliverReply S).guest.profile = _
    unfold deliverReply
    split
    · exact ⟨rfl, rfl⟩
    · exact ⟨profile_handleKexReply _ _, rfl⟩

variable {x : KeyExchange} {i : HandshakeInitiator}

lemma Paired.step (h : x.Paired) (a) : (x.step S a).Paired := by
  obtain ⟨host, guest⟩ := step_profiles x a
  constructor
  · rw [host, guest, h.channel]
  · rw [guest, h.guestRole]
  · rw [host]
    exact h.hostKey
  · rw [guest]
    exact h.guestKey

lemma Paired.run (h : x.Paired) (actions) : (x.run S actions).Paired := by
  induction actions generalizing x with
  | nil => exact h
  | cons a actions ih => exact ih (h.step a)

/-- Where the exchange opened by one hello of `i` can be while no other hello is sent. -/
inductive Course (S : SessionPrimitives) (i : HandshakeInitiator) (x : KeyExchange) : Prop
  | asked (pending : x.host.initiator = some i) (hellos : x.hellos = [i.helloPayload S])
      (answering : x.answering = []) (replies : x.replies = [])
  | answered (reply : KexPayload) (secure : SecureSession) (pending : x.host.initiator = some i)
      (completes : i.complete S reply = .ok { secure with initiator := true })
      (hellos : x.hellos = []) (answering : x.answering = [secure]) (replies : x.replies = [reply])
  | adopted (reply : KexPayload) (secure : SecureSession) (pending : x.host.initiator = some i)
      (completes : i.complete S reply = .ok { secure with initiator := true })
      (key : x.guest.sessionKey = some secure.sessionKey)
      (hellos : x.hellos = []) (answering : x.answering = []) (replies : x.replies = [reply])
  | completed (secure : SecureSession) (key : x.host.sessionKey = some secure.sessionKey)
      (ready : x.host.ready)
      (hellos : x.hellos = []) (answering : x.answering = [secure]) (replies : x.replies = [])
  | settled (agreed : x.Agreed)
      (hellos : x.hellos = []) (answering : x.answering = []) (replies : x.replies = [])

structure Opening (i : HandshakeInitiator) (x : KeyExchange) : Prop where
  unused : i.used = false
  channel : i.channelId = x.guest.profile.channel
  hostKey : IdentityKey i.idpubHex

lemma handleKexHello_opening (laws : S.KexLaws) (paired : x.Paired) (opening : Opening i x) (d) :
    ∃ reply secure, x.guest.handleKexHello S d (i.helloPayload S) = some (reply, secure) ∧
      i.complete S reply = .ok { secure with initiator := true } := by
  obtain ⟨reply, secure, answers, completes⟩ := complete_answer laws opening.unused
    opening.hostKey paired.guestKey x.guest.profile.displayName d
  refine ⟨reply, secure, ?_, completes⟩
  rw [ChatSession.handleKexHello, if_pos paired.guestRole, ← opening.channel, answers]
  rfl

lemma handleKexReply_completes {c : ChatSession} {reply secure} (pending : c.initiator = some i)
    (completes : i.complete S reply = .ok secure) :
    c.handleKexReply S reply = ({ c with initiator := none } : ChatSession).setSession secure := by
  simp [ChatSession.handleKexReply, pending, completes]

lemma Course.deliverHello (laws : S.KexLaws)
    (paired : x.Paired) (opening : Opening i x) (h : Course S i x) (d) :
    Course S i (x.deliverHello S d) := by
  have idle (empty : x.hellos = []) : x.deliverHello S d = x := by
    simp [KeyExchange.deliverHello, empty]
  have same := h
  cases h with
  | asked pending hellos answering replies =>
    obtain ⟨reply, secure, answers, completes⟩ := handleKexHello_opening laws paired opening d
    simp only [KeyExchange.deliverHello, hellos, answers, answering, replies]
    exact .answered reply secure pending completes rfl rfl rfl
  | answered _ _ _ _ hellos | adopted _ _ _ _ _ hellos | completed _ _ _ hellos | settled _ hellos =>
    rwa [idle hellos]

lemma Course.replySent (h : Course S i x) (k) : Course S i (x.replySent k) := by
  have idle (empty : x.answering = []) : x.replySent k = x := by
    simp [KeyExchange.replySent, empty]
  have lone {secure} (one : x.answering = [secure]) : x.replySent k = x ∨
      x.replySent k = { x with guest := x.guest.setSession secure, answering := [] } := by
    rcases k with _ | k
    · exact .inr (by simp [KeyExchange.replySent, one])
    · exact .inl (by simp [KeyExchange.replySent, one])
  have same := h
  cases h with
  | asked _ _ answering | settled _ _ answering | adopted _ _ _ _ _ _ answering =>
    rwa [idle answering]
  | answered reply secure pending completes hellos answering replies =>
    rcases lone answering with kept | sent
    · rwa [kept]
    · rw [sent]
      exact .adopted reply secure pending completes rfl hellos rfl replies
  | completed secure key ready hellos answering replies =>
    rcases lone answering with kept | sent
    · rwa [kept]
    · rw [sent]
      have agreed : x.host.sessionKey.isSome ∧ x.host.sessionKey = some secure.sessionKey ∧
          x.host.ready := ⟨by rw [key]; rfl, key, ready⟩
      exact .settled agreed hellos rfl replies

lemma Course.deliverReply (h : Course S i x) : Course S i (x.deliverReply S) := by
  have idle (empty : x.replies = []) : x.deliverReply S = x := by
    simp [KeyExchange.deliverReply, empty]
  have taken {reply secure} (pending : x.host.initiator = some i)
      (completes : i.complete S reply = .ok secure) (one : x.replies = [reply]) :
      x.deliverReply S =
        { x with host := ({ x.host with initiator := none } : ChatSession).setSession secure
                 replies := [] } := by
    simp [KeyExchange.deliverReply, one, handleKexReply_completes pending completes]
  have same := h
  cases h with
  | asked _ _ _ replies | completed _ _ _ _ _ replies | settled _ _ _ replies =>
    rwa [idle replies]
  | answered reply secure pending completes hellos answering replies =>
    rw [taken pending completes replies]
    exact .completed secure rfl rfl hellos answering rfl
  | adopted reply secure pending completes key hellos answering replies =>
    rw [taken pending completes replies]
    have agreed : (some secure.sessionKey).isSome ∧
        some secure.sessionKey = x.guest.sessionKey ∧ true := ⟨rfl, key.symm, rfl⟩
    exact .settled agreed hellos answering rfl

lemma Course.step (laws : S.KexLaws)
    (paired : x.Paired) (opening : Opening i x) (h : Course S i x) {a : KexAction}
    (other : a.isInitiate = false) : Course S i (x.step S a) := by
  rcases a with ⟨privateKey, nonce⟩ | d | k | _
  · exact absurd other nofun
  · exact h.deliverHello laws paired opening d
  · exact h.replySent k
  · exact h.deliverReply

lemma Course.run (laws : S.KexLaws)
    (paired : x.Paired) (opening : Opening i x) (h : Course S i x) {actions}
    (others : ∀ a ∈ actions, a.isInitiate = false) : Course S i (x.run S actions) := by
  induction actions generalizing x with
  | nil => exact h
  | cons a actions ih =>
    have guest := (step_profiles (S := S) x a).2
    have opening' : Opening i (x.step S a) :=
      ⟨opening.unused, by rw [guest, opening.channel], opening.hostKey⟩
    exact ih (paired.step a) opening' (h.step laws paired opening (others a (by simp)))
      fun b hb => others b (by simp [hb])

lemma Course.agreed (h : Course S i x) (quiet : x.Quiet) : x.Agreed := by
  obtain ⟨noHello, noHandler, noReply⟩ := quiet
  cases h with
  | asked pending hellos => exact absurd (hellos.symm.trans noHello) nofun
  | answered reply secure pending completes hellos answering =>
    exact absurd (answering.symm.trans noHandler) nofun
  | adopted reply secure pending completes key hellos answering replies =>
    exact absurd (replies.symm.trans noReply) nofun
  | completed secure key ready hellos answering =>
    exact absurd (answering.symm.trans noHandler) nofun
  | settled agreed => exact agreed

lemma Course.start (quiet : x.Quiet) (privateKey nonce) :
    Course S (make x.host.profile.channel x.host.profile.displayName
      x.host.profile.idpubHex privateKey nonce) (x.initiate S privateKey nonce) := by
  obtain ⟨hellos, answering, replies⟩ := quiet
  refine .asked rfl ?_ answering replies
  show x.hellos ++ [_] = [_]
  rw [hellos, List.nil_append]

/-- When the last hello is sent while no earlier exchange is under way, both sides hold one key
and the host is ready as soon as nothing is in flight, whatever happened before. -/
theorem keys_agree_after_lone_hello (laws : S.KexLaws) {x : KeyExchange} (paired : x.Paired)
    (before after : List KexAction) (privateKey : Key) (nonce : HelloNonce)
    (alone : (x.run S before).Quiet) (last : ∀ a ∈ after, a.isInitiate = false)
    (settled : (x.run S (before ++ .initiate privateKey nonce :: after)).Quiet) :
    (x.run S (before ++ .initiate privateKey nonce :: after)).Agreed := by
  set y := x.run S before with hy
  have pairedY : y.Paired := paired.run before
  have split : x.run S (before ++ .initiate privateKey nonce :: after) =
      (y.initiate S privateKey nonce).run S after := by
    rw [run, List.foldl_append, List.foldl_cons]
    rfl
  rw [split] at settled ⊢
  have opening : Opening (make y.host.profile.channel
      y.host.profile.displayName y.host.profile.idpubHex privateKey nonce)
      (y.initiate S privateKey nonce) := ⟨rfl, pairedY.channel, pairedY.hostKey⟩
  have course := (Course.start alone privateKey nonce).run laws
    (pairedY.step (.initiate privateKey nonce)) opening last
  exact course.agreed settled

def addingPrimitives : SessionPrimitives where
  publicKey := id
  exchange a b := some (zipWith (· + ·) a b)
  hkdf secret _ _ := secret
  sha256 _ := replicate 32 0
  encrypt key _ plaintext _ := plaintext ++ key.toList.take 16
  decrypt key _ ciphertext _ :=
    let plaintext := ciphertext.take (ciphertext.length - 16)
    if ciphertext = plaintext ++ key.toList.take 16 then some plaintext else none

lemma addingPrimitives_laws : addingPrimitives.KexLaws where
  opens key nonce plaintext aad := by
    have front : (plaintext ++ key.toList.take 16).take
        ((plaintext ++ key.toList.take 16).length - 16) = plaintext := by
      have tag : (key.toList.take 16).length = 16 := by simp
      rw [List.length_append, tag, Nat.add_sub_cancel, List.take_left]
    simp [addingPrimitives]
  tag key nonce plaintext aad := by
    show (plaintext ++ key.toList.take 16).length = _
    simp
  agree a b := by
    refine ⟨zipWith (· + ·) a b, rfl, ?_⟩
    show some (zipWith (· + ·) b a) = _
    congr 1
    ext k hk
    simp [UInt8.add_comm]

def room : KeyExchange where
  host := { profile := { channel := "ch-1", role := .host, displayName := "Ada", idpubHex := none } }
  guest := { profile := { channel := "ch-1", role := .guest, displayName := "", idpubHex := none } }

lemma room_paired : room.Paired where
  channel := rfl
  guestRole := rfl
  hostKey := ⟨none, rfl, nofun⟩
  guestKey := ⟨none, rfl, nofun⟩

def hello (k : UInt8) : KexAction :=
  .initiate (replicate 32 k) (replicate 16 k)

def answered (k : UInt8) : KexAction :=
  .deliverHello { privateKey := replicate 32 k, nonce := replicate 16 k
                  proofNonce := replicate 12 k }

/-- The first reply meets the second initiator, fails and uses it up; the second reply finds
none. The guest holds a key, the host holds none. -/
theorem overlapping_hellos_disagree :
    addingPrimitives.KexLaws ∧ room.Paired ∧
    let x := room.run addingPrimitives [hello 1, hello 2, answered 3, answered 4, .replySent 0,
      .replySent 0, .deliverReply, .deliverReply]
    x.Quiet ∧ x.guest.sessionKey = some (replicate 32 6) ∧ x.host.sessionKey = none ∧
      x.host.ready = false ∧ ¬ x.Agreed := by
  refine ⟨addingPrimitives_laws, room_paired, ?_⟩
  decide +kernel

theorem repeated_exchange_agrees :
    let x := room.run addingPrimitives
      ([hello 1, answered 3, .deliverReply, .replySent 0] ++
        hello 2 :: [answered 4, .deliverReply, .replySent 0])
    x.Quiet ∧ x.Agreed := by
  have settled : (room.run addingPrimitives
      ([hello 1, answered 3, .deliverReply, .replySent 0] ++
        hello 2 :: [answered 4, .deliverReply, .replySent 0])).Quiet := by
    decide +kernel
  exact ⟨settled, keys_agree_after_lone_hello addingPrimitives_laws room_paired
    [hello 1, answered 3, .deliverReply, .replySent 0] [answered 4, .deliverReply, .replySent 0]
    _ _ (by decide +kernel) (by decide) settled⟩

end KeyExchange

end Ghostlink.Messaging
