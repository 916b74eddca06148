import Ghostlink.Base.Base64
import Ghostlink.Base.Text

/-! The two-message key exchange and the sealing of payloads under the key it gives. X25519,
HKDF, SHA-256 and the cipher come in as `SessionPrimitives`; ephemeral keys and nonces are
arguments of the call that draws them. -/

namespace Ghostlink.Messaging
open Text

abbrev Bytes := List UInt8
abbrev Key := Vector UInt8 32
abbrev Nonce := Vector UInt8 12
abbrev HelloNonce := Vector UInt8 16

structure SessionPrimitives where
  publicKey : Key → Key
  exchange : Key → Key → Option Key
  hkdf : Key → Bytes → Bytes → Key
  sha256 : Bytes → Key
  encrypt : Key → Nonce → Bytes → Bytes → Bytes
  decrypt : Key → Nonce → Bytes → Bytes → Option Bytes

inductive MessagingErrorKind
  | handshakeFailed | decryption | value
  deriving DecidableEq, Repr

structure MessagingError where
  kind : MessagingErrorKind
  message : String
  hint : String
  deriving DecidableEq, Repr

def utf8 (s : String) : Bytes := s.toUTF8.data.toList

def nonceBytes : ℕ := 12

def sealWith (S : SessionPrimitives) (key : Key) (nonce : Nonce) (plaintext aad : Bytes) : Bytes :=
  nonce.toList ++ S.encrypt key nonce plaintext aad

def openSealed (S : SessionPrimitives) (key : Key) (sealed aad : Bytes) :
    Except MessagingError Bytes :=
  if h : nonceBytes < sealed.length then
    let nonce : Nonce := ⟨(sealed.take nonceBytes).toArray, by
      rw [List.size_toArray, List.length_take]
      exact Nat.min_eq_left h.le⟩
    match S.decrypt key nonce (sealed.drop nonceBytes) aad with
    | some plaintext => .ok plaintext
    | none => .error
        { kind := .decryption
          message := "Message integrity check failed — the ciphertext was modified " ++
            "or the keys do not match."
          hint := "Drop the frame, notify the user, and re-run the handshake " ++
            "if it repeats. Do not retry decryption with the same input." }
  else .error
    { kind := .decryption
      message := "Encrypted payload is too short to contain a nonce and tag."
      hint := "The frame was truncated or corrupted before verification." }

structure SessionPrimitives.CipherLaws (S : SessionPrimitives) : Prop where
  opens : ∀ key nonce plaintext aad,
    S.decrypt key nonce (S.encrypt key nonce plaintext aad) aad = some plaintext
  tag : ∀ key nonce plaintext aad,
    (S.encrypt key nonce plaintext aad).length = plaintext.length + 16

section Sealing
variable {S : SessionPrimitives} (laws : S.CipherLaws) (key : Key) (nonce : Nonce)
  (plaintext aad : Bytes)
include laws

lemma length_sealWith : (sealWith S key nonce plaintext aad).length = plaintext.length + 28 := by
  rw [sealWith, List.length_append, laws.tag, Vector.length_toList]
  omega

lemma openSealed_sealWith :
    openSealed S key (sealWith S key nonce plaintext aad) aad = .ok plaintext := by
  have long : nonceBytes < (sealWith S key nonce plaintext aad).length := by
    rw [length_sealWith laws]
    exact Nat.lt_of_lt_of_le (by decide) (Nat.le_add_left _ _)
  have front : (sealWith S key nonce plaintext aad).take nonceBytes = nonce.toList :=
    List.take_left' Vector.length_toList
  have back : (sealWith S key nonce plaintext aad).drop nonceBytes =
      S.encrypt key nonce plaintext aad := List.drop_left' Vector.length_toList
  have array : ((sealWith S key nonce plaintext aad).take nonceBytes).toArray = nonce.toArray := by
    rw [front]
    exact Array.toArray_toList
  have same {h} : (⟨((sealWith S key nonce plaintext aad).take nonceBytes).toArray, h⟩ : Nonce) =
      nonce := Vector.toArray_inj.mp array
  simp [openSealed, long, back, same, laws.opens]

end Sealing

inductive KexValue
  | absent | text (s : String) | other
  deriving DecidableEq, Repr

structure KexPayload where
  pub : KexValue
  nonce : KexValue
  proof : KexValue
  name : KexValue
  idpub : KexValue
  deriving DecidableEq, Repr

def handoffHint : String := "The peer does not speak the GhostLink handoff protocol."

def decodeHex (raw : KexValue) (field : String) : Except MessagingError Bytes :=
  match raw with
  | .text s =>
    match fromHex s with
    | some bytes => .ok bytes
    | none => .error { kind := .handshakeFailed, hint := handoffHint
                       message := s!"Handshake field '{field}' is not valid hex." }
  | _ => .error { kind := .handshakeFailed, hint := handoffHint
                  message := s!"Handshake field '{field}' is missing." }

def decodeProof (raw : KexValue) : Except MessagingError Bytes :=
  match raw with
  | .text s =>
    match Base64.decode s.toList with
    | some bytes => .ok bytes
    | none => .error { kind := .handshakeFailed, hint := handoffHint
                       message := "Handshake proof is not valid base64." }
  | _ => .error { kind := .handshakeFailed, hint := handoffHint
                  message := "Handshake field 'proof' is missing." }

def optionalIdpub (raw : KexValue) : Except MessagingError (Option Bytes) := do
  match raw with
  | .absent => pure none
  | raw =>
    let decoded ← decodeHex raw "idpub"
    if decoded.length ≠ 32 then
      throw { kind := .handshakeFailed, message := "Handshake identity key must be 32 bytes."
              hint := handoffHint }
    pure (some decoded)

def ownIdpub (hex : Option String) : Except MessagingError (Option Bytes) :=
  match hex with
  | none | some "" => .ok none
  | some s =>
    match fromHex s with
    | some bytes => .ok (some bytes)
    | none => .error { kind := .value, hint := ""
                       message := "non-hexadecimal number found in fromhex() arg" }

def confirmPrefix : Bytes := utf8 "ghostlink-confirm/v1|"

structure Transcript where
  channelId : String
  helloPub : Bytes
  helloNonce : Bytes
  replyPub : Bytes
  replyNonce : Bytes
  helloIdpub : Option Bytes
  replyIdpub : Option Bytes

def buildTranscript (t : Transcript) : Bytes :=
  utf8 "GL3|" ++ utf8 t.channelId ++ utf8 "|" ++ t.helloPub ++ t.helloNonce ++ t.replyPub ++
    t.replyNonce ++ (t.helloIdpub.elim [] fun key => utf8 "|" ++ key) ++
    (t.replyIdpub.elim [] fun key => utf8 "|" ++ key)

def sessionInfo : Bytes := utf8 "ghostlink/session/v1"

def deriveSessionKey (S : SessionPrimitives) (privateKey : Key) (peerPublic transcript : Bytes) :
    Option Key := do
  if h : peerPublic.length = 32 then
    let secret ← S.exchange privateKey ⟨peerPublic.toArray, by rw [List.size_toArray, h]⟩
    return S.hkdf secret (S.sha256 transcript).toList sessionInfo
  else none

def transcriptFingerprint (S : SessionPrimitives) (transcript : Bytes) : String :=
  let digest := (toHex (S.sha256 transcript).toList).toUpper.toList
  " ".intercalate ((List.range 8).map fun i => String.ofList ((digest.drop (4 * i)).take 4))

structure SecureSession where
  sessionKey : Key
  transcript : Bytes
  conversationId : String
  fingerprint : String
  initiator : Bool
  identityBound : Bool
  deriving DecidableEq

def secureSession (S : SessionPrimitives) (key : Key) (t : Transcript) (initiator : Bool) :
    SecureSession :=
  let transcript := buildTranscript t
  { sessionKey := key
    transcript
    conversationId := "conv_" ++ takeChars 12 (toHex (S.sha256 transcript).toList)
    fingerprint := transcriptFingerprint S transcript
    initiator
    identityBound := t.helloIdpub.isSome && t.replyIdpub.isSome }

def invalidKey : MessagingError :=
  { kind := .handshakeFailed, message := "The peer's handshake key is invalid."
    hint := "Abort the conversation; the peer is not running GhostLink v3 handshake." }

def shownFields (displayName : String) (idpubHex : Option String) : KexValue × KexValue :=
  (if displayName = "" then .absent else .text displayName,
    match idpubHex with
    | none | some "" => .absent
    | some hex => .text hex)

structure HandshakeInitiator where
  channelId : String
  displayName : String
  idpubHex : Option String
  privateKey : Key
  nonce : HelloNonce
  used : Bool
  deriving DecidableEq

namespace HandshakeInitiator

def make (channelId displayName : String) (idpubHex : Option String) (privateKey : Key)
    (nonce : HelloNonce) : HandshakeInitiator :=
  { channelId, displayName := strip displayName, idpubHex,
    privateKey, nonce, used := false }

def helloPayload (S : SessionPrimitives) (i : HandshakeInitiator) : KexPayload :=
  let (name, idpub) := shownFields i.displayName i.idpubHex
  { pub := .text (toHex (S.publicKey i.privateKey).toList), nonce := .text (toHex i.nonce.toList)
    proof := .absent, name, idpub }

def complete (S : SessionPrimitives) (i : HandshakeInitiator) (reply : KexPayload) :
    Except MessagingError SecureSession := do
  if i.used then
    throw { kind := .handshakeFailed, message := "Handshake instances are single-use."
            hint := "Create a fresh handshake for every conversation." }
  let replyPub ← decodeHex reply.pub "pub"
  let replyNonce ← decodeHex reply.nonce "nonce"
  let proof ← decodeProof reply.proof
  let replyIdpub ← optionalIdpub reply.idpub
  let helloIdpub ← ownIdpub i.idpubHex
  let t : Transcript :=
    { channelId := i.channelId, helloPub := (S.publicKey i.privateKey).toList
      helloNonce := i.nonce.toList, replyPub, replyNonce
      helloIdpub, replyIdpub }
  let transcript := buildTranscript t
  match deriveSessionKey S i.privateKey replyPub transcript with
  | none => throw invalidKey
  | some key =>
    match openSealed S key proof transcript with
    | .error _ =>
      throw { kind := .handshakeFailed, message := "Handshake proof failed AEAD verification."
              hint := "The keys derived by both sides differ — possible MITM or " ++
                "protocol mismatch. Compare safety codes out-of-band." }
    | .ok opened =>
      if opened ≠ confirmPrefix ++ (S.sha256 transcript).toList then
        throw { kind := .handshakeFailed
                message := "Handshake proof does not commit to this conversation."
                hint := "Abort the conversation and verify the room identifier." }
      pure (secureSession S key t true)

end HandshakeInitiator

structure ResponderDraw where
  privateKey : Key
  nonce : HelloNonce
  proofNonce : Nonce

def HandshakeResponder.answer (S : SessionPrimitives) (channelId displayName : String)
    (idpubHex : Option String) (d : ResponderDraw) (hello : KexPayload) :
    Except MessagingError (KexPayload × SecureSession) := do
  let helloPub ← decodeHex hello.pub "pub"
  let helloNonce ← decodeHex hello.nonce "nonce"
  let helloIdpub ← optionalIdpub hello.idpub
  let replyIdpub ← ownIdpub idpubHex
  let publicRaw := (S.publicKey d.privateKey).toList
  let t : Transcript :=
    { channelId, helloPub, helloNonce
      replyPub := publicRaw, replyNonce := d.nonce.toList
      helloIdpub, replyIdpub }
  let transcript := buildTranscript t
  match deriveSessionKey S d.privateKey helloPub transcript with
  | none => throw invalidKey
  | some key =>
    let proof := sealWith S key d.proofNonce
      (confirmPrefix ++ (S.sha256 transcript).toList) transcript
    let (name, idpub) := shownFields (strip displayName) idpubHex
    pure ({ pub := .text (toHex publicRaw), nonce := .text (toHex d.nonce.toList)
            proof := .text (String.ofList (Base64.encode proof)), name, idpub },
      secureSession S key t false)

end Ghostlink.Messaging
