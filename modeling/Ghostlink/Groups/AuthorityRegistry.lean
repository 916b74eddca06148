import Ghostlink.Groups.AuthorityDefs

/-! The registry of live and dissolved groups, and the calls it serves. Random ids and
clock readings are inputs of a call, so a run is a list of calls and nothing else. -/

namespace Ghostlink.Groups
open Collections Text

structure GroupAuthority where
  joinPending : Seconds
  signTimeout : Seconds
  retention : Seconds
  groups : Dict GroupId Group
  dissolved : Dict GroupId Group

namespace GroupAuthority
variable (P : Primitives) (a : GroupAuthority)

def init (joinPending signTimeout retention : Seconds) : GroupAuthority :=
  ⟨joinPending, signTimeout, retention, Dict.empty, Dict.empty⟩

def find? (groupId : String) : Option Group :=
  (GroupId.ofString? groupId).bind a.groups.get?

def require (groupId : String) : Except GroupError Group :=
  match GroupId.ofString? groupId with
  | none => .error ⟨.validation, s!"Group id '{groupId}' is malformed.",
      "Group ids look like gl-group-XXXX-XXXX-XXXX."⟩
  | some gid =>
    match a.groups.get? gid with
    | some g => .ok g
    | none =>
      if a.dissolved.contains gid then
        .error ⟨.dissolved, "This group was dissolved.",
          "Dissolved groups are terminal; create a new group instead."⟩
      else
        .error ⟨.unknown, s!"The relay has no record of group {groupId}.",
          "Groups are hosted per relay; after a relay restart they are gone."⟩

def put (g : Group) : GroupAuthority :=
  { a with groups := a.groups.set g.groupId g }

def onGroup {α : Type} (a : GroupAuthority) (groupId : String)
    (f : Group → Group × Except GroupError α) : GroupAuthority × Except GroupError α :=
  match a.require groupId with
  | .error e => (a, .error e)
  | .ok g => (a.put (f g).1, (f g).2)

def verifyIdentityMaterial (publicKeyHex handle : String) : Except GroupError Fingerprint := do
  if publicKeyHex.toList.length ≠ groupPubkeyHexLength then
    throw ⟨.validation, "A member public key must be 64 hex characters.",
      "Group member keys are Ed25519 public keys."⟩
  let fingerprint ← fingerprintForKeyHex P publicKeyHex
  if isValidIdentityId P handle = false ∨
      (fromHex publicKeyHex).bind (identityIdFor P) ≠ some handle then
    throw ⟨.validation, "The member handle does not match the public key.",
      "Handles are derived from the identity key (GL-XXXX)."⟩
  return fingerprint

def mintUniqueId (drawn : List GroupId) : Except GroupError GroupId :=
  match (drawn.take 64).find? fun c => ¬ a.groups.contains c ∧ ¬ a.dissolved.contains c with
  | some gid => .ok gid
  | none => .error ⟨.state, "Could not mint a unique group id.", "Retry the operation."⟩

def createCheck (name publicKeyHex popSignatureB64 attestNonce handle cryptoSuite : String)
    (drawn : List GroupId) : Except GroupError (String × Fingerprint × GroupId) := do
  let cleanName ← validateGroupName name
  if cryptoSuite ∉ groupCryptoSuites then
    throw ⟨.validation, s!"Unknown crypto suite '{cryptoSuite}'.",
      "Choose one of: " ++ ", ".intercalate groupCryptoSuites ++ "."⟩
  let fingerprint ← verifyIdentityMaterial P publicKeyHex handle
  let pop ← Group.decodeSignature P popSignatureB64
  if verifySignature P ((fromHex publicKeyHex).getD []) pop
      (canonicalCreateForm cleanName attestNonce) = false then
    throw ⟨.permission, "The proof-of-possession signature does not verify.",
      "Group creation requires signing with your identity key."⟩
  let groupId ← a.mintUniqueId drawn
  return (cleanName, fingerprint, groupId)

def newGroup (groupId : GroupId) (fingerprint : Fingerprint)
    (sessionId name publicKeyHex handle displayName cryptoSuite : String) (wall : Moment) : Group :=
  let owner : Member :=
    { fingerprint, handle,
      displayName := takeChars groupNameMaxLen (if displayName = "" then handle else displayName),
      publicKeyHex := publicKeyHex.toLower, role := .owner, joinedEpoch := 1,
      status := .active, sessionId := some sessionId }
  { groupId, name, state := .active, ownerFingerprint := fingerprint,
    ownerPublicKeyHex := publicKeyHex.toLower, epoch := 1, cryptoSuite,
    objects := fun _ => owner, nextRef := 1, members := Dict.empty.set fingerprint 0,
    pendingJoins := Dict.empty, ops := [], events := [], createdAt := wall,
    dissolvedAtMono := none }

def createGroup
    (sessionId name publicKeyHex popSignatureB64 attestNonce handle displayName cryptoSuite : String)
    (drawn : List GroupId) (wall : Moment) : GroupAuthority × Except GroupError GroupSnapshot :=
  match createCheck P a name publicKeyHex popSignatureB64 attestNonce handle cryptoSuite drawn with
  | .error e => (a, .error e)
  | .ok (cleanName, fingerprint, groupId) =>
    let g := newGroup groupId fingerprint sessionId cleanName publicKeyHex handle displayName
      cryptoSuite wall
    (a.put g, .ok g.snapshot)

def beginJoinRedemption (groupId redeemSession inviteId : String) (now : Seconds) :
    GroupAuthority × Except GroupError GroupSnapshot :=
  a.onGroup groupId fun g => g.beginJoinRedemption redeemSession inviteId now

def cancelPendingJoin (groupId redeemSession : String) : GroupAuthority :=
  match a.find? groupId with
  | none => a
  | some g => a.put (g.cancelPendingJoin redeemSession)

def attestedIdentity (groupId publicKeyHex signatureB64 attestNonce handle : String) :
    Except GroupError Fingerprint := do
  let fingerprint ← verifyIdentityMaterial P publicKeyHex handle
  let signature ← Group.decodeSignature P signatureB64
  if verifySignature P ((fromHex publicKeyHex).getD []) signature
      (canonicalAttestForm groupId fingerprint.val attestNonce) = false then
    throw ⟨.permission, "The attestation signature does not verify.",
      "Attestation proves possession of your identity key."⟩
  return fingerprint

def attest
    (sessionId groupId publicKeyHex signatureB64 attestNonce handle displayName opId : String)
    (now : Seconds) : GroupAuthority × Except GroupError AttestOutcome :=
  a.onGroup groupId fun g =>
    g.checked (attestedIdentity P groupId publicKeyHex signatureB64 attestNonce handle) fun f =>
      g.attestAs f sessionId publicKeyHex handle displayName (a.dissolved.contains g.groupId)
        opId now

def requestLeave (groupId sessionId opId : String) (now : Seconds) :
    GroupAuthority × Except GroupError Op :=
  a.onGroup groupId fun g => g.requestLeave sessionId opId now

def requestRemove (groupId sessionId subject opId : String) (now : Seconds) :
    GroupAuthority × Except GroupError Op :=
  a.onGroup groupId fun g => g.requestRemove P sessionId subject opId now

def requestDissolve (groupId sessionId opId : String) (now : Seconds) :
    GroupAuthority × Except GroupError Op :=
  a.onGroup groupId fun g => g.requestDissolve sessionId opId now

def nextSignTask (groupId : String) (clock : Clock) : GroupAuthority × Option SignTask :=
  match a.find? groupId with
  | none => (a, none)
  | some g => (a.put (g.promote clock), (g.promote clock).signTask P)

def submitSignature (groupId sessionId opId signatureB64 : String) (clock : Clock) :
    GroupAuthority × Except GroupError CommittedOp :=
  match a.require groupId with
  | .error e => (a, .error e)
  | .ok g =>
    match g.submitSignature P sessionId opId signatureB64 clock with
    | (g', .ok c) =>
      if c.event.kind = .dissolved then
        ({ a with groups := a.groups.erase g'.groupId,
                  dissolved := a.dissolved.set g'.groupId g' }, .ok c)
      else (a.put g', .ok c)
    | (g', .error e) => (a.put g', .error e)

def sweep (now : Seconds) : GroupAuthority × List ExpiredNotice :=
  ({ a with
      groups := a.groups.mapVals fun _ g => (g.sweep a.joinPending a.signTimeout now).1
      dissolved := a.dissolved.filter fun _ g =>
        match g.dissolvedAtMono with
        | some since => !decide (now - since > a.retention)
        | none => true },
    a.groups.values.flatMap fun g => (g.sweep a.joinPending a.signTimeout now).2)

def disbindSession (sessionId : String) : GroupAuthority :=
  { a with groups := a.groups.mapVals fun _ g => g.disbindSession sessionId }

end GroupAuthority

inductive Call
  | createGroup (sessionId name publicKeyHex popSignatureB64 attestNonce handle displayName
      cryptoSuite : String) (drawn : List GroupId)
  | beginJoinRedemption (groupId redeemSession inviteId : String)
  | cancelPendingJoin (groupId redeemSession : String)
  | attest (sessionId groupId publicKeyHex signatureB64 attestNonce handle displayName
      opId : String)
  | requestLeave (groupId sessionId opId : String)
  | requestRemove (groupId sessionId subject opId : String)
  | requestDissolve (groupId sessionId opId : String)
  | nextSignTask (groupId : String)
  | submitSignature (groupId sessionId opId signatureB64 : String)
  | sweep
  | disbindSession (sessionId : String)

namespace GroupAuthority

def exec (P : Primitives) (a : GroupAuthority) (clock : Clock) :
    Call → GroupAuthority × Option CommittedOp
  | .createGroup sessionId name publicKeyHex pop nonce handle display suite drawn =>
    ((a.createGroup P sessionId name publicKeyHex pop nonce handle display suite drawn
      clock.wall).1, none)
  | .beginJoinRedemption groupId redeemSession inviteId =>
    ((a.beginJoinRedemption groupId redeemSession inviteId clock.mono).1, none)
  | .cancelPendingJoin groupId redeemSession => (a.cancelPendingJoin groupId redeemSession, none)
  | .attest sessionId groupId publicKeyHex sig nonce handle display opId =>
    ((a.attest P sessionId groupId publicKeyHex sig nonce handle display opId clock.mono).1, none)
  | .requestLeave groupId sessionId opId =>
    ((a.requestLeave groupId sessionId opId clock.mono).1, none)
  | .requestRemove groupId sessionId subject opId =>
    ((a.requestRemove P groupId sessionId subject opId clock.mono).1, none)
  | .requestDissolve groupId sessionId opId =>
    ((a.requestDissolve groupId sessionId opId clock.mono).1, none)
  | .nextSignTask groupId => ((a.nextSignTask P groupId clock).1, none)
  | .submitSignature groupId sessionId opId sig =>
    let (a', r) := a.submitSignature P groupId sessionId opId sig clock
    (a', r.toOption)
  | .sweep => ((a.sweep clock.mono).1, none)
  | .disbindSession sessionId => (a.disbindSession sessionId, none)

end GroupAuthority
end Ghostlink.Groups
