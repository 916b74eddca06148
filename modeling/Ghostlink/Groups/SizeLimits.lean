import Ghostlink.Groups.Outbox
import Ghostlink.Groups.SenderKeyAlignment
import Ghostlink.Groups.WireReadback

/-! The ceilings that one message meets on its way: on the text, on the envelope that the relay
forwards, on the sealed bytes inside a sender-key body, and on the frame that is read at the
end. Which texts pass all of them is a question of how long their JSON form is. -/

namespace Ghostlink.Groups
open Collections Text List LocalGroupManager
open Json (quotedSize decimalSize)
open Messaging (SessionPrimitives Key sealWith openSealed length_sealWith openSealed_sealWith)
open String (ofList toList_ofList)

/-- What a message is built with besides its text. The key is the pairwise link's, or the
message key at the index of the message. -/
structure MessageDraw where
  messageId : MessageId
  gseq : ℕ
  ts : Seconds
  gen : ℕ
  key : Key
  nonce : Nonce

inductive SendFailure
  | group (e : GroupError)
  | senderKey (e : SenderKeyError)

def forwardOf (record : LocalGroupRecord) (recipient : Fingerprint) (kind : String)
    (body : Bytes) : GroupForward :=
  { group := record.groupId.val, epoch := record.epoch, sender := record.myFingerprint.val,
    recipient := recipient.val, kind, body := ofList (Base64.encode body) }

section Envelopes
variable (S : SessionPrimitives) (W : WirePrimitives) (m : LocalGroupManager)
  (record : LocalGroupRecord) (recipient : Fingerprint) (text : String) (d : MessageDraw)

def meshEnvelope : Except SendFailure GroupForward := do
  let frame ← (gmsgFrame (gmsgBytes W) record.groupId record.epoch record.myFingerprint
    (some recipient) d.messageId d.gseq (m.nameOf record.groupId record.myFingerprint) text
    d.ts).mapError .group
  let aad := groupMessageAad record.groupId record.epoch record.myFingerprint recipient
  pure (forwardOf record recipient kindMsg (sealWith S d.key d.nonce frame (ascii aad)))

def senderKeyEnvelope (me : Fingerprint) : Except SendFailure GroupForward := do
  let frame ← (gmsgFrame (gmsgBytes W) record.groupId record.epoch me none d.messageId d.gseq
    (m.nameOf record.groupId me) text d.ts).mapError fun e => .group
      { kind := .message, message := e.message, hint := "Could not build the sender-key frame." }
  let aad := groupSkMsgAad record.groupId record.epoch me d.gen d.gseq
  let body ← (skmsgBody d.gen d.gseq
    (sealMessage (senderKeyPrimitives S) d.key d.nonce frame aad)).mapError .senderKey
  pure (forwardOf record recipient kindSkmsg body)

def envelope (suite : CryptoSuite) (me : Fingerprint) : Except SendFailure GroupForward :=
  match suite with
  | .meshV1 => meshEnvelope S W m record recipient text d
  | .senderkeyV1 => senderKeyEnvelope S W m record recipient text d me

end Envelopes

structure KeyRing where
  link : Key
  message : ℕ → ℕ → Option SecretKey

def KeyRing.Opens (ring : KeyRing) (suite : CryptoSuite) (d : MessageDraw) : Prop :=
  match suite with
  | .meshV1 => ring.link = d.key
  | .senderkeyV1 => ring.message d.gen d.gseq = some d.key

section Reading
variable (S : SessionPrimitives) (W : WirePrimitives) (ring : KeyRing) (group : GroupId)
  (epoch : ℕ) (sender me : Fingerprint) (body : Bytes)

def readMesh : Option GroupInnerFrame :=
  match openSealed S ring.link body (ascii (groupMessageAad group epoch sender me)) with
  | .error _ => none
  | .ok plaintext => (parseInnerFrame W plaintext).toOption

def readSenderKey : Option GroupInnerFrame :=
  match parseSkmsgBody body (groupMsgMaxBytes + 64) with
  | .error _ => none
  | .ok (gen, seq, sealed) =>
    match ring.message gen seq with
    | none => none
    | some messageKey =>
      match openMessage S messageKey sealed (groupSkMsgAad group epoch sender gen seq) with
      | .error _ => none
      | .ok plaintext => (parseInnerFrame W plaintext).toOption

def readEnvelope (suite : CryptoSuite) : Option GroupInnerFrame :=
  match suite with
  | .meshV1 => readMesh S W ring group epoch sender me body
  | .senderkeyV1 => readSenderKey S W ring group epoch sender body

end Reading

structure Carries (record : LocalGroupRecord) (text : String) (d : MessageDraw)
    (frame : GroupInnerFrame) : Prop where
  group : frame.groupId = record.groupId
  epoch : frame.epoch = record.epoch
  sender : frame.sender = record.myFingerprint
  id : frame.messageId = d.messageId.val
  gseq : frame.gseq = d.gseq
  text : frame.text = text

def Arrives (S : SessionPrimitives) (W : WirePrimitives) (m : LocalGroupManager)
    (me : Fingerprint) (record : LocalGroupRecord) (recipient : Fingerprint) (text : String)
    (d : MessageDraw) (ring : KeyRing) (suite : CryptoSuite) : Prop :=
  ∃ p body frame, envelope S W m record recipient text d suite me = .ok p ∧
    validateGroupForward W.toPrimitives p = .ok () ∧ Base64.decode p.body.toList = some body ∧
    readEnvelope S W ring record.groupId record.epoch record.myFingerprint recipient body suite =
      some frame ∧
    Carries record text d frame

def frameSize (W : WirePrimitives) (f : GmsgFields) : ℕ :=
  86 + quotedSize f.group.val + decimalSize f.epoch + quotedSize f.sender.val +
    quotedSize f.recipient + quotedSize f.id.val + decimalSize f.gseq +
    quotedSize f.name + quotedSize f.text + utf8Length (W.reprFloat f.ts).toList

lemma length_gmsgBytes (W f) : (gmsgBytes W f).length = frameSize W f := by
  have key (k : String) (v : Json) :
      Json.fieldSize false (k, v) = quotedSize k + utf8Length (Json.dumps false v) + 2 := by
    rw [Json.fieldSize, Json.utf8Length_quote]
  have version : utf8Length (Json.dumps false (.int 1)) = 1 := by decide
  have literal : utf8Length (Json.dumps false (.float (W.reprFloat f.ts))) =
      utf8Length (W.reprFloat f.ts).toList := by rw [Json.dumps]
  have nonempty : gmsgFields W f ≠ [] := cons_ne_nil _ _
  rw [gmsgBytes, length_dumpsBytes, Json.utf8Length_obj nonempty]
  simp only [gmsgFields, baseFields, cons_append, nil_append, map_cons,
    map_nil, sum_cons, sum_nil, key, Json.utf8Length_int, Json.utf8Length_str,
    version, literal, FrameType.value, frameSize, show quotedSize "v" = 3 from rfl,
    show quotedSize "t" = 3 from rfl, show quotedSize "GMSG" = 6 from rfl,
    show quotedSize "group" = 7 from rfl, show quotedSize "epoch" = 7 from rfl,
    show quotedSize "from" = 6 from rfl, show quotedSize "to" = 4 from rfl,
    show quotedSize "id" = 4 from rfl, show quotedSize "gseq" = 6 from rfl,
    show quotedSize "name" = 6 from rfl, show quotedSize "text" = 6 from rfl,
    show quotedSize "ts" = 4 from rfl]
  omega

def skmsgSize (gen seq sealedSize : ℕ) : ℕ :=
  18 + decimalSize gen + decimalSize seq + 4 * ((sealedSize + 2) / 3)

lemma length_skmsgBody (gen seq) (sealed : Bytes) :
    (dumpsBytes true (skmsgFields gen seq sealed)).length = skmsgSize gen seq sealed.length := by
  have content : utf8Length (Json.dumps true (b64text sealed)) =
      4 * ((sealed.length + 2) / 3) + 2 := by
    rw [b64text, Json.dumps, Json.utf8Length_quote_plain, toList_ofList,
      Base64.length_encode]
    rw [toList_ofList]
    exact fun c mem => plain_of_mem_base64 mem
  have nonempty : skmsgFields gen seq sealed ≠ [] := cons_ne_nil _ _
  rw [length_dumpsBytes, Json.utf8Length_obj nonempty]
  simp only [skmsgFields, map_cons, map_nil, sum_cons, sum_nil,
    Json.fieldSize, Json.utf8Length_int, content, skmsgSize,
    show utf8Length (Json.quote true "g") = 3 from rfl,
    show utf8Length (Json.quote true "s") = 3 from rfl,
    show utf8Length (Json.quote true "f") = 3 from rfl]
  omega

def addressee (suite : CryptoSuite) (recipient : Fingerprint) : Option Fingerprint :=
  match suite with
  | .meshV1 => some recipient
  | .senderkeyV1 => none

def sentFields (m : LocalGroupManager) (record : LocalGroupRecord) (recipient : Fingerprint)
    (text : String) (d : MessageDraw) (suite : CryptoSuite) : GmsgFields :=
  { group := record.groupId, epoch := record.epoch, sender := record.myFingerprint,
    recipient := (addressee suite recipient).elim groupBroadcastRecipient Subtype.val,
    id := d.messageId, gseq := d.gseq,
    name := m.nameOf record.groupId record.myFingerprint, text, ts := d.ts }

def Fits (W : WirePrimitives) (suite : CryptoSuite) (gen : ℕ) (f : GmsgFields) : Prop :=
  match suite with
  | .meshV1 => frameSize W f + 28 ≤ groupForwardBodyMax
  | .senderkeyV1 => frameSize W f + 28 ≤ groupMsgMaxBytes + 64 ∧
      skmsgSize gen f.gseq (frameSize W f + 28) ≤ groupForwardBodyMax

section Limits
variable {S : SessionPrimitives} {W : WirePrimitives} {m : LocalGroupManager} {me : Fingerprint}
  {gid : GroupId} {record : LocalGroupRecord} {text : String} {recipient : Fingerprint}
  {d : MessageDraw} {ring : KeyRing} {suite : CryptoSuite}

lemma length_sealMessage (laws : S.CipherLaws) (key nonce) (plaintext aad : Bytes) :
    (sealMessage (senderKeyPrimitives S) key nonce plaintext aad).length =
      plaintext.length + 28 :=
  length_sealWith laws key nonce plaintext aad

lemma openMessage_sealMessage (laws : S.CipherLaws) (key nonce plaintext aad) :
    openMessage S key (sealMessage (senderKeyPrimitives S) key nonce plaintext aad) aad =
      .ok plaintext := by
  have long : ¬ (sealMessage (senderKeyPrimitives S) key nonce plaintext aad).length ≤
      Messaging.nonceBytes := by
    rw [length_sealMessage laws, Messaging.nonceBytes]
    omega
  have opened : openSealed S key (sealMessage (senderKeyPrimitives S) key nonce plaintext aad)
      aad = .ok plaintext := openSealed_sealWith laws key nonce plaintext aad
  simp only [openMessage, long, if_false, opened]
  rfl

lemma gmsgFrame_sent (W) (accepted : m.checkSend me gid text = .ok record)
    (dated : 1 ≤ record.epoch) (recipient) (d : MessageDraw) (suite) :
    gmsgFrame (gmsgBytes W) record.groupId record.epoch record.myFingerprint
        (addressee suite recipient) d.messageId d.gseq
        (m.nameOf record.groupId record.myFingerprint) text d.ts =
      .ok (gmsgBytes W (sentFields m record recipient text d suite)) := by
  obtain ⟨sendable, short⟩ := checkSend_ok accepted
  obtain ⟨member, -, named⟩ := nameOf_me sendable
  have mine := (requireSendable_ok sendable).2.2.1
  rw [← mine] at named
  rw [sentFields, named]
  exact gmsgFrame_member (gmsgBytes W) record.groupId record.myFingerprint (fun _ => dated)
    d.messageId d.gseq member d.ts short

lemma parseInnerFrame_sent (lawful : W.Lawful) (accepted : m.checkSend me gid text = .ok record)
    (dated : 1 ≤ record.epoch) (time : W.Readable d.ts)
    (short : frameSize W (sentFields m record recipient text d suite) ≤ groupMsgMaxBytes * 3) :
    ∃ frame, parseInnerFrame W (gmsgBytes W (sentFields m record recipient text d suite)) =
      .ok frame ∧ Carries record text d frame := by
  obtain ⟨sendable, bounded⟩ := checkSend_ok accepted
  obtain ⟨member, -, named⟩ := nameOf_me sendable
  have mine := (requireSendable_ok sendable).2.2.1
  rw [← mine] at named
  have valid : validateGroupDisplayName (m.nameOf record.groupId record.myFingerprint)
      "display name" = .ok (m.nameOf record.groupId record.myFingerprint) := by
    rw [named]
    exact member.named
  have addressed : (sentFields m record recipient text d suite).recipient =
        groupBroadcastRecipient ∨
      ∃ g : Fingerprint, (sentFields m record recipient text d suite).recipient = g.val := by
    cases suite with
    | meshV1 => exact .inr ⟨recipient, rfl⟩
    | senderkeyV1 => exact .inl rfl
  rw [← length_gmsgBytes] at short
  obtain ⟨ts, parsed⟩ := parseInnerFrame_gmsg lawful
    dated addressed valid (Nat.not_lt.mp bounded) time short
  exact ⟨_, parsed, ⟨rfl, rfl, rfl, rfl, rfl, rfl⟩⟩

lemma arrives_iff {kind} {raw : Bytes} (lawful : W.Lawful) (dated : 1 ≤ record.epoch)
    (built : envelope S W m record recipient text d suite me =
      .ok (forwardOf record recipient kind raw))
    (message : kind = kindMsg ∨ kind = kindSkmsg) (nonempty : raw ≠ []) :
    Arrives S W m me record recipient text d ring suite ↔
      raw.length ≤ groupForwardBodyMax ∧
        ∃ frame, readEnvelope S W ring record.groupId record.epoch record.myFingerprint recipient
          raw suite = some frame ∧ Carries record text d frame := by
  have relay : validateGroupForward W.toPrimitives (forwardOf record recipient kind raw) =
      .ok () ↔ raw.length ≤ groupForwardBodyMax :=
    validateGroupForward_eq_ok lawful.upper dated message nonempty
  have decoded : Base64.decode (forwardOf record recipient kind raw).body.toList = some raw := by
    rw [forwardOf, toList_ofList, Base64.decode_encode]
  constructor
  · rintro ⟨p, body, frame, sent, passed, bytes, read, carried⟩
    cases built.symm.trans sent
    cases decoded.symm.trans bytes
    exact ⟨relay.mp passed, frame, read, carried⟩
  · rintro ⟨short, frame, read, carried⟩
    exact ⟨_, raw, frame, built, relay.mpr short, decoded, read, carried⟩

lemma mesh_arrives_iff (laws : S.CipherLaws) (lawful : W.Lawful)
    (accepted : m.checkSend me gid text = .ok record) (dated : 1 ≤ record.epoch)
    (time : W.Readable d.ts) (held : ring.link = d.key) :
    Arrives S W m me record recipient text d ring .meshV1 ↔
      frameSize W (sentFields m record recipient text d .meshV1) + 28 ≤ groupForwardBodyMax := by
  set frame := gmsgBytes W (sentFields m record recipient text d .meshV1) with hframe
  set aad := ascii (groupMessageAad record.groupId record.epoch record.myFingerprint recipient)
  have sent : gmsgFrame (gmsgBytes W) record.groupId record.epoch record.myFingerprint
      (some recipient) d.messageId d.gseq (m.nameOf record.groupId record.myFingerprint) text
      d.ts = .ok frame := gmsgFrame_sent W accepted dated recipient d .meshV1
  have length : (sealWith S d.key d.nonce frame aad).length =
      frameSize W (sentFields m record recipient text d .meshV1) + 28 := by
    rw [length_sealWith laws, hframe, length_gmsgBytes]
  have nonempty : sealWith S d.key d.nonce frame aad ≠ [] := by
    rw [← length_pos_iff, length]
    omega
  have built : envelope S W m record recipient text d .meshV1 me =
      .ok (forwardOf record recipient kindMsg (sealWith S d.key d.nonce frame aad)) := by
    rw [envelope, meshEnvelope, sent]
    rfl
  rw [arrives_iff lawful dated built (.inl rfl) nonempty, length]
  refine and_iff_left_of_imp fun short => ?_
  have readable : frameSize W (sentFields m record recipient text d .meshV1) ≤
      groupMsgMaxBytes * 3 := by
    rw [groupForwardBodyMax] at short
    rw [groupMsgMaxBytes]
    omega
  obtain ⟨inner, parsed, carried⟩ := parseInnerFrame_sent lawful accepted dated time readable
  refine ⟨inner, ?_, carried⟩
  simp only [readEnvelope, readMesh, held]
  rw [openSealed_sealWith laws]
  simp only [hframe, parsed]
  rfl

lemma senderKeyEnvelope_eq {frame body}
    (sent : gmsgFrame (gmsgBytes W) record.groupId record.epoch me none d.messageId d.gseq
      (m.nameOf record.groupId me) text d.ts = .ok frame)
    (enclosed : skmsgBody d.gen d.gseq (sealMessage (senderKeyPrimitives S) d.key d.nonce frame
      (groupSkMsgAad record.groupId record.epoch me d.gen d.gseq)) = .ok body) :
    senderKeyEnvelope S W m record recipient text d me =
      .ok (forwardOf record recipient kindSkmsg body) := by
  rw [senderKeyEnvelope, sent]
  show ((skmsgBody d.gen d.gseq (sealMessage (senderKeyPrimitives S) d.key d.nonce frame
    (groupSkMsgAad record.groupId record.epoch me d.gen d.gseq))).mapError SendFailure.senderKey >>= _) =
    _
  rw [enclosed]
  rfl

lemma senderKey_arrives_iff (laws : S.CipherLaws) (lawful : W.Lawful)
    (accepted : m.checkSend me gid text = .ok record) (dated : 1 ≤ record.epoch)
    (numbered : 1 ≤ d.gseq) (generation : 1 ≤ d.gen) (time : W.Readable d.ts)
    (held : ring.message d.gen d.gseq = some d.key) :
    Arrives S W m me record recipient text d ring .senderkeyV1 ↔
      frameSize W (sentFields m record recipient text d .senderkeyV1) + 28 ≤
          groupMsgMaxBytes + 64 ∧
        skmsgSize d.gen d.gseq
            (frameSize W (sentFields m record recipient text d .senderkeyV1) + 28) ≤
          groupForwardBodyMax := by
  have mine : record.myFingerprint = me :=
    (requireSendable_ok (checkSend_ok accepted).1).2.2.1
  subst mine
  set frame := gmsgBytes W (sentFields m record recipient text d .senderkeyV1) with hframe
  set aad := groupSkMsgAad record.groupId record.epoch record.myFingerprint d.gen d.gseq with haad
  set sealed := sealMessage (senderKeyPrimitives S) d.key d.nonce frame aad with hsealed
  have sent : gmsgFrame (gmsgBytes W) record.groupId record.epoch record.myFingerprint none
      d.messageId d.gseq (m.nameOf record.groupId record.myFingerprint) text d.ts = .ok frame :=
    gmsgFrame_sent W accepted dated recipient d .senderkeyV1
  have length : sealed.length =
      frameSize W (sentFields m record recipient text d .senderkeyV1) + 28 := by
    rw [hsealed, length_sealMessage laws, hframe, length_gmsgBytes]
  have nonempty : sealed ≠ [] := by
    rw [← length_pos_iff, length]
    omega
  have outer := length_skmsgBody d.gen d.gseq sealed
  have outerNonempty : dumpsBytes true (skmsgFields d.gen d.gseq sealed) ≠ [] := by
    rw [← length_pos_iff, outer, skmsgSize]
    omega
  have built : envelope S W m record recipient text d .senderkeyV1 record.myFingerprint =
      .ok (forwardOf record recipient kindSkmsg
        (dumpsBytes true (skmsgFields d.gen d.gseq sealed))) := by
    exact senderKeyEnvelope_eq sent (skmsgBody_eq generation numbered sealed)
  rw [arrives_iff lawful dated built (.inr rfl) outerNonempty, outer, length,
    and_comm]
  refine and_congr_left fun _ => ?_
  rw [← length]
  simp only [readEnvelope, readSenderKey]
  constructor
  · rintro ⟨inner, read, -⟩
    -- only a body within the reader's bound is read at all
    cases parsed : parseSkmsgBody (dumpsBytes true (skmsgFields d.gen d.gseq sealed))
        (groupMsgMaxBytes + 64) with
    | error e =>
      simp [parsed] at read
    | ok r => exact ((parseSkmsgBody_eq generation numbered nonempty).mp parsed).1
  · intro short
    have parsed : parseSkmsgBody (dumpsBytes true (skmsgFields d.gen d.gseq sealed))
        (groupMsgMaxBytes + 64) = .ok (d.gen, d.gseq, sealed) :=
      (parseSkmsgBody_eq generation numbered nonempty).mpr ⟨short, rfl⟩
    have readable : frameSize W (sentFields m record recipient text d .senderkeyV1) ≤
        groupMsgMaxBytes * 3 := by
      rw [length] at short
      simp only [groupMsgMaxBytes] at short ⊢
      omega
    obtain ⟨inner, read, carried⟩ := parseInnerFrame_sent lawful accepted dated time readable
    refine ⟨inner, ?_, carried⟩
    simp only [parsed, held]
    rw [← haad, openMessage_sealMessage laws]
    simp only [hframe, read]
    rfl

/-- An accepted text arrives exactly when its frame is short enough for the suite. -/
theorem accepted_text_arrives_iff_fits (laws : S.CipherLaws) (lawful : W.Lawful)
    (accepted : m.checkSend me gid text = .ok record) (dated : 1 ≤ record.epoch)
    (numbered : 1 ≤ d.gseq) (generation : 1 ≤ d.gen) (time : W.Readable d.ts)
    (held : ring.Opens suite d) :
    Arrives S W m me record recipient text d ring suite ↔
      Fits W suite d.gen (sentFields m record recipient text d suite) := by
  cases suite with
  | meshV1 => exact mesh_arrives_iff laws lawful accepted dated time held
  | senderkeyV1 =>
    exact senderKey_arrives_iff laws lawful accepted dated numbered generation time held

end Limits

section Repeated
open SenderKeyService (trio trioManager)
open GroupAuthority (nightWatch bob)
open Mirror (alice)

def plainCipher : SessionPrimitives where
  publicKey := id
  exchange _ _ := none
  hkdf key _ _ := key
  sha256 _ := Vector.replicate 32 0
  encrypt _ _ plaintext _ := plaintext ++ List.replicate 16 0
  decrypt _ _ ciphertext _ := some (ciphertext.take (ciphertext.length - 16))

lemma plainCipher_laws : plainCipher.CipherLaws where
  opens key nonce plaintext aad := by
    show some ((plaintext ++ List.replicate 16 0).take
      ((plaintext ++ List.replicate 16 0).length - 16)) = some plaintext
    rw [length_append, length_replicate, Nat.add_sub_cancel, take_left]
  tag key nonce plaintext aad := by
    show (plaintext ++ List.replicate 16 0).length = _
    rw [length_append, length_replicate]

def plainWire : WirePrimitives where
  upper s := s
  int s := some (Nat.ofDigitChars 10 s.toList 0 : ℤ)
  sha256 _ := Vector.replicate 32 0
  ed25519Verify _ _ _ := true
  b64encode _ := ""
  b64decode _ := none
  strOther _ := "1.5"
  float _ := some (3 / 2)
  reprFloat _ := "1.5"

lemma plainWire_lawful : plainWire.Lawful where
  upper f := rfl
  int n := by
    show some ((Nat.ofDigitChars 10 (ofList (Nat.toDigits 10 n)).toList 0 : ℕ) : ℤ) = _
    rw [toList_ofList, Nat.ofDigitChars_ten_toDigits]

lemma plainWire_readable (ts) : plainWire.Readable ts where
  literal := ⟨1, ['5'], by decide, all_eq_true.mp (by decide), rfl⟩
  reads := ⟨3 / 2, rfl⟩

lemma plainDraw_id : isValidMessageId "gmsg_0000000000000000" := by decide

def plainDraw : MessageDraw where
  messageId := ⟨"gmsg_0000000000000000", plainDraw_id⟩
  gseq := 1
  ts := 3 / 2
  gen := 1
  key := Vector.replicate 32 0
  nonce := Vector.replicate 12 0

def plainRing : KeyRing := { link := plainDraw.key, message := fun _ _ => some plainDraw.key }

def repeated (n : ℕ) (c : Char) : String := ofList (List.replicate n c)

lemma utf8ByteSize_repeated (n) (c : Char) : (repeated n c).utf8ByteSize = n * c.utf8Size := by
  rw [utf8ByteSize_eq, repeated, toList_ofList, utf8Length, map_replicate,
    sum_replicate_nat]

lemma quotedSize_repeated (n c) :
    quotedSize (repeated n c) = n * Json.escapedSize c + 2 := by
  rw [quotedSize, repeated, toList_ofList, map_replicate,
    sum_replicate_nat]

lemma checkSend_repeated {n} {c : Char} (positive : 0 < n) (visible : isSpace c = false)
    (short : n * c.utf8Size ≤ groupMsgMaxBytes) :
    trioManager.checkSend alice nightWatch (repeated n c) = .ok trio := by
  have stripped : strip (repeated n c) = repeated n c := by
    refine strip_of_forall fun d mem => ?_
    rw [repeated, toList_ofList] at mem
    rw [eq_of_mem_replicate mem, visible]
  have nonempty : repeated n c ≠ "" := by
    intro empty
    have chars := congrArg String.toList empty
    rw [repeated, toList_ofList] at chars
    exact Nat.ne_of_gt positive ((replicate_eq_nil_iff c).mp chars)
  have sendable : trioManager.requireSendable alice nightWatch = .ok trio := by rfl
  have bounded : ¬ (repeated n c).utf8ByteSize > groupMsgMaxBytes := by
    rw [utf8ByteSize_repeated]
    exact Nat.not_lt.mpr short
  simp only [checkSend, sendable, stripped, nonempty, bounded]
  rfl

lemma frameSize_repeated (n c suite) :
    frameSize plainWire (sentFields trioManager trio bob (repeated n c) plainDraw suite) =
      168 + quotedSize ((addressee suite bob).elim groupBroadcastRecipient Subtype.val) +
        (n * Json.escapedSize c + 2) := by
  have group : quotedSize trio.groupId.val = 25 := by decide
  have epoch : decimalSize trio.epoch = 1 := by decide
  have sender : quotedSize trio.myFingerprint.val = 21 := by decide
  have id : quotedSize plainDraw.messageId.val = 23 := by decide
  have gseq : decimalSize plainDraw.gseq = 1 := by decide
  have name : quotedSize (trioManager.nameOf trio.groupId trio.myFingerprint) = 8 := by decide
  have time : utf8Length (plainWire.reprFloat plainDraw.ts).toList = 3 := by rfl
  simp only [frameSize, sentFields, quotedSize_repeated, group, epoch, sender, id, gseq, name, time]
  omega

/-- The longest plain text under sender keys, and control characters over the mesh. -/
theorem accepted_texts_lost :
    (trioManager.checkSend alice nightWatch (repeated 4096 'a') = .ok trio ∧
      bob ∈ trio.recipients alice ∧ plainRing.Opens .senderkeyV1 plainDraw ∧
      ¬ Arrives plainCipher plainWire trioManager alice trio bob (repeated 4096 'a') plainDraw
        plainRing .senderkeyV1) ∧
    (trioManager.checkSend alice nightWatch (repeated 1000 '\x01') = .ok trio ∧
      bob ∈ trio.recipients alice ∧ plainRing.Opens .meshV1 plainDraw ∧
      ¬ Arrives plainCipher plainWire trioManager alice trio bob (repeated 1000 '\x01') plainDraw
        plainRing .meshV1) := by
  have plain : trioManager.checkSend alice nightWatch (repeated 4096 'a') = .ok trio :=
    checkSend_repeated (by decide) (by decide) (by decide)
  have control : trioManager.checkSend alice nightWatch (repeated 1000 '\x01') = .ok trio :=
    checkSend_repeated (by decide) (by decide) (by decide)
  have listed : bob ∈ trio.recipients alice := by decide
  refine ⟨⟨plain, listed, rfl, ?_⟩, ⟨control, listed, rfl, ?_⟩⟩
  · rw [senderKey_arrives_iff plainCipher_laws plainWire_lawful plain (by decide) (by decide)
      (by decide) (plainWire_readable _) rfl, frameSize_repeated]
    decide
  · rw [mesh_arrives_iff plainCipher_laws plainWire_lawful control (by decide)
      (plainWire_readable _) rfl, frameSize_repeated]
    decide

theorem long_text_arrives :
    Arrives plainCipher plainWire trioManager alice trio bob (repeated 3900 'a') plainDraw
        plainRing .senderkeyV1 ∧
      Arrives plainCipher plainWire trioManager alice trio bob (repeated 4096 'a') plainDraw
        plainRing .meshV1 := by
  have shorter : trioManager.checkSend alice nightWatch (repeated 3900 'a') = .ok trio :=
    checkSend_repeated (by decide) (by decide) (by decide)
  have longer : trioManager.checkSend alice nightWatch (repeated 4096 'a') = .ok trio :=
    checkSend_repeated (by decide) (by decide) (by decide)
  have opens : ∀ suite, plainRing.Opens suite plainDraw := by
    intro suite
    cases suite <;> rfl
  constructor
  · refine (accepted_text_arrives_iff_fits plainCipher_laws plainWire_lawful shorter (by decide)
      (by decide) (by decide) (plainWire_readable _) (opens _)).mpr ?_
    rw [Fits, frameSize_repeated]
    decide
  · refine (accepted_text_arrives_iff_fits plainCipher_laws plainWire_lawful longer (by decide)
      (by decide) (by decide) (plainWire_readable _) (opens _)).mpr ?_
    rw [Fits, frameSize_repeated]
    decide

end Repeated

end Ghostlink.Groups
