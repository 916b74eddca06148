import Ghostlink.Groups.Record

/-! The client's lifecycle manager as far as a relay can drive it: it signs canonical events
on request, and takes in committed events. -/

namespace Ghostlink.Groups
open Collections Text

structure LocalIdentity where
  publicKeyHex : String
  sign : ByteArray → ByteArray

def LocalIdentity.fingerprint (P : Primitives) (identity : LocalIdentity) : Option Fingerprint :=
  (fromHex identity.publicKeyHex).bind (identityFingerprint P)

/-- The manager of one user: the stored identity, the stored records, each filed under its own
group id, and the last error met while applying events to each. -/
structure LocalGroupManager where
  identity : Option LocalIdentity
  records : Dict GroupId LocalGroupRecord
  applyErrors : Dict GroupId GroupError
  filed : ∀ gid r, records.get? gid = some r → r.groupId = gid

structure EventFields where
  epoch : ℕ
  kind : GroupEventKind
  subject : String
  wallTs : Moment
  signer : String
  signature : Bytes

/-- A relay-sent event; `fields` is empty when one is missing or does not parse, `member` when
there is no descriptor, and an error when the descriptor does not parse. -/
structure EventPacket where
  group : String
  fields : Option EventFields
  member : Option (Except GroupError MemberView)

namespace LocalGroupManager
variable (P : Primitives) (m : LocalGroupManager)

def get (m : LocalGroupManager) (groupId : String) : Option LocalGroupRecord :=
  (GroupId.ofString? groupId).bind m.records.get?

def save (r : LocalGroupRecord) : LocalGroupManager where
  identity := m.identity
  records := m.records.set r.groupId r
  applyErrors := m.applyErrors
  filed gid r' h := by
    rw [Dict.get?_set] at h
    split_ifs at h with heq
    · cases h
      exact heq.symm
    · exact m.filed gid r' h

def markDefunct (gid : GroupId) (now : Moment) : LocalGroupManager :=
  match m.records.get? gid with
  | none => m
  | some r =>
    match r.requireActive with
    | .error _ => m
    | .ok _ => m.save { r with state := .defunct, updatedAt := now }

def parseSignRequest (groupId : String) (message : ByteArray) :
    Option (ℤ × GroupEventKind × String) := do
  let text ← String.fromUTF8? message
  match (text.toList.splitOn '|').map String.ofList with
  | [form, group, epochText, kindText, subjectText, _] =>
    if form ≠ eventPrefix ∨ group ≠ groupId then none
    else
      let epoch ← P.int epochText
      let subject := P.upper (strip subjectText)
      let _ ← Fingerprint.ofString? (P.upper (strip subject))
      let kind ← GroupEventKind.ofValue? kindText
      return (epoch, kind, subject)
  | _ => none

def authorized (r : LocalGroupRecord) (kind : GroupEventKind) (subject : String) : Bool :=
  decide (kind = .left ∧ subject = r.myFingerprint.val ∨ kind ≠ .left ∧ r.isOwner)

def signForRelay (groupId : String) (message : ByteArray) : Option String := do
  let r ← m.get groupId
  if r.state ≠ .active ∨ r.suspect then none
  else
    let (epoch, kind, subject) ← parseSignRequest P groupId message
    if epoch ≠ r.epoch + 1 then none
    else
      let identity ← m.identity
      if identity.fingerprint P ≠ some r.myFingerprint then none
      else if authorized r kind subject then some (P.b64encode (identity.sign message))
      else none

def eventFromPacket (packet : EventPacket) : Except GroupError GroupEvent :=
  let group := packet.group
  match packet.fields with
  | none => .error ⟨.validation, "A group event packet is malformed.",
      "This is a relay protocol violation — the event was dropped."⟩
  | some fields =>
    match GroupId.ofString? packet.group with
    | none => .error ⟨.validation, s!"Event group id '{group}' is malformed.",
        "Group ids look like gl-group-XXXX-XXXX-XXXX."⟩
    | some gid =>
      let epoch := fields.epoch
      if h : fields.epoch < 1 then
        .error ⟨.validation, s!"Event epoch must be ≥ 1, got {epoch}.",
          "Epochs grow monotonically from 1 and never roll back."⟩
      else do
        let subject ← requireValidFingerprint P fields.subject "subject fingerprint"
        let signer ← requireValidFingerprint P fields.signer "signer fingerprint"
        return { groupId := gid, epoch := fields.epoch, kind := fields.kind,
                 subjectFingerprint := subject, wallTs := fields.wallTs,
                 signerFingerprint := signer, signature := fields.signature,
                 epoch_pos := Nat.le_of_not_lt h }

def signingKey (r : LocalGroupRecord) (event : GroupEvent) : Except GroupError String :=
  if event.kind = .left then
    if event.signerFingerprint ≠ event.subjectFingerprint then
      .error ⟨.permission, "A leave event must be signed by the leaving member.",
        "This is a relay protocol violation — treat the roster as suspect."⟩
    else
      match r.members.get? event.subjectFingerprint with
      | none => .error ⟨.state, "A leave event references an identity not on the roster.",
          "This is a relay protocol violation — treat the roster as suspect."⟩
      | some member => do
        let fingerprint ← fingerprintForKeyHex P member.publicKeyHex
        if fingerprint ≠ member.fingerprint then
          throw ⟨.state, "The leaving member's stored key is inconsistent.",
            "The roster is corrupt — re-sync from a trusted relay."⟩
        return member.publicKeyHex
  else if event.signerFingerprint ≠ r.ownerFingerprint then
    .error ⟨.permission, "That event was not signed by the pinned owner.",
      "This is a relay protocol violation — treat the roster as suspect."⟩
  else .ok r.ownerPublicKeyHex

def verifyEventSignature (r : LocalGroupRecord) (event : GroupEvent) : Except GroupError Unit := do
  let keyHex ← signingKey P r event
  if verifySignature P ((fromHex keyHex).getD []) event.signature event.canonical = false then
    throw ⟨.permission, "The group event signature does not verify.",
      "This is a relay protocol violation — treat the roster as suspect."⟩

def verifiedMember (v : MemberView) : Except GroupError GroupMember := do
  let member ← GroupMember.fromEventPayload v
  let fingerprint ← fingerprintForKeyHex P member.publicKeyHex
  if fingerprint ≠ member.fingerprint then
    throw ⟨.state, "A roster member's key does not match their fingerprint.",
      "Treat this relay as untrustworthy — do not trust the roster."⟩
  if (fromHex member.publicKeyHex).bind (identityIdFor P) ≠ some member.handle then
    throw ⟨.state, "A roster member's handle does not match their key.",
      "Treat this relay as untrustworthy — do not trust the roster."⟩
  return member

def joinMemberFromPacket (packet : EventPacket) (event : GroupEvent) :
    Except GroupError GroupMember :=
  match packet.member with
  | none => .error ⟨.state, "A join event lacks its member descriptor.",
      "This is a relay protocol violation — treat the roster as suspect."⟩
  | some raw => do
    let member ← verifiedMember P (← raw)
    if member.fingerprint ≠ event.subjectFingerprint then
      throw ⟨.state, "A join event's member descriptor does not match its subject.",
        "This is a relay protocol violation — treat the roster as suspect."⟩
    return member

def flagSuspect (r : LocalGroupRecord) (e : GroupError) (now : Moment) : LocalGroupManager :=
  { m.save { r with suspect := true, updatedAt := now } with
    applyErrors := m.applyErrors.set r.groupId e }

def vetEvent (r : LocalGroupRecord) (packet : EventPacket) (event : GroupEvent) :
    Except GroupError (Option GroupMember) := do
  verifyEventSignature P r event
  if event.kind = .join then
    let member ← joinMemberFromPacket P packet event
    return some member
  return none

/-- `_on_group_event`: verify, apply and store, or mark the record suspect. The answer is the
notice shown. -/
def onGroupEvent (packet : EventPacket) (now : Moment) : LocalGroupManager × Option String :=
  match m.get packet.group with
  | none => (m, none)
  | some r =>
    match eventFromPacket P packet with
    | .error e => (m.flagSuspect r e now, none)
    | .ok event =>
      if event.epoch ≤ r.epoch then (m, none)
      else if r.state ≠ .active then (m, none)
      else
        match vetEvent P r packet event with
        | .error e => (m.flagSuspect r e now, none)
        | .ok joinMember =>
          match r.applyVerifiedEvent event joinMember now with
          | (r', .error e) => (m.flagSuspect r' e now, none)
          | (r', .ok notice) =>
            ({ m.save r' with applyErrors := m.applyErrors.erase r'.groupId }, some notice)

end LocalGroupManager
end Ghostlink.Groups
