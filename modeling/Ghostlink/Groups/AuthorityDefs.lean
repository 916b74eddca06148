import Ghostlink.Base.Dict
import Ghostlink.Groups.Events
import Mathlib.Logic.Function.Basic

/-! The relay-side group authority. A group keeps its member records as objects behind
references, because a queued admission and the roster share one record: writing it through
either is seen through the other, and replacing the roster entry leaves the queued
admission with the old record. -/

namespace Ghostlink.Groups
open Collections Text

def maxGroupMembers : ℕ := 8
def groupMaxPendingOps : ℕ := 8
def groupEventsKept : ℕ := 16
def groupPubkeyHexLength : ℕ := 64
def groupCryptoSuites : List String := ["mesh-v1", "senderkey-v1"]
def defaultCryptoSuite : String := "mesh-v1"

inductive GroupRole
  | owner | member
  deriving DecidableEq, Repr

inductive MemberStatus
  | active | candidate
  deriving DecidableEq, Repr

structure MemberView where
  fingerprint : Fingerprint
  handle : String
  displayName : String
  publicKeyHex : String
  role : GroupRole
  joinedEpoch : ℕ

structure Member where
  fingerprint : Fingerprint
  handle : String
  displayName : String
  publicKeyHex : String
  role : GroupRole
  joinedEpoch : ℕ
  status : MemberStatus
  sessionId : Option String

def Member.view (m : Member) : MemberView :=
  ⟨m.fingerprint, m.handle, m.displayName, m.publicKeyHex, m.role, m.joinedEpoch⟩

structure PendingJoin where
  redeemSession : String
  inviteId : String
  createdMonotonic : Seconds

abbrev Ref := ℕ

inductive OpAction
  | join (candidate : Ref) | left | removed | dissolved
  deriving DecidableEq

def OpAction.kind : OpAction → GroupEventKind
  | .join _ => .join
  | .left => .left
  | .removed => .removed
  | .dissolved => .dissolved

structure Op where
  opId : String
  action : OpAction
  subjectFingerprint : Fingerprint
  signerFingerprint : Fingerprint
  requestedMonotonic : Seconds
  epoch : ℕ := 0
  canonical : ByteArray := ByteArray.empty
  wallTs : Option Moment := none
  awaitingSince : Option Seconds := none

def Op.kind (op : Op) : GroupEventKind := op.action.kind

inductive GroupState
  | active | dissolved
  deriving DecidableEq, Repr

structure Group where
  groupId : GroupId
  name : String
  state : GroupState
  ownerFingerprint : Fingerprint
  ownerPublicKeyHex : String
  epoch : ℕ
  cryptoSuite : String
  objects : Ref → Member
  nextRef : Ref
  members : Dict Fingerprint Ref
  pendingJoins : Dict String PendingJoin
  ops : List Op
  events : List GroupEvent
  createdAt : Moment
  dissolvedAtMono : Option Seconds

structure GroupSnapshot where
  groupId : GroupId
  name : String
  state : GroupState
  epoch : ℕ
  ownerFingerprint : Fingerprint
  ownerPublicKeyHex : String
  cryptoSuite : String
  members : List MemberView
  events : List GroupEvent

inductive AttestRole
  | owner | member | candidate
  deriving DecidableEq, Repr

structure AttestOutcome where
  groupId : GroupId
  role : AttestRole
  epoch : ℕ
  snapshot : Option GroupSnapshot

structure SignTask where
  opId : String
  groupId : GroupId
  kind : GroupEventKind
  subjectFingerprint : Fingerprint
  epoch : ℕ
  signerFingerprint : Fingerprint
  messageB64 : String
  signerSession : Option String

structure CommittedOp where
  event : GroupEvent
  joinMember : Option MemberView
  notifySessions : List String
  unbindSessions : List String

structure ExpiredNotice where
  groupId : GroupId
  code : String
  message : String
  sessionId : Option String

structure Clock where
  mono : Seconds
  wall : Moment

namespace Group
variable (g : Group)

def updateObject (r : Ref) (f : Member → Member) : Group :=
  { g with objects := Function.update g.objects r (f (g.objects r)) }

def member? (f : Fingerprint) : Option Member := (g.members.get? f).map g.objects

def memberValues : List Member := g.members.values.map g.objects

def memberBySession (sessionId : String) : Option Member :=
  g.memberValues.find? fun m => m.sessionId = some sessionId ∧ m.status = .active

def sessionForFingerprint (f : Fingerprint) : Option String :=
  match g.member? f with
  | some m => if m.status = .active then m.sessionId else none
  | none => none

def reservedCount : ℕ :=
  g.memberValues.countP (fun m => m.status = .active) +
    g.memberValues.countP (fun m => m.status = .candidate) + g.pendingJoins.size

def snapshot : GroupSnapshot where
  groupId := g.groupId
  name := g.name
  state := g.state
  epoch := g.epoch
  ownerFingerprint := g.ownerFingerprint
  ownerPublicKeyHex := g.ownerPublicKeyHex
  cryptoSuite := g.cryptoSuite
  members := ((g.memberValues.mergeSort fun a b => a.joinedEpoch ≤ b.joinedEpoch).filter
    fun m => m.status = .active).map Member.view
  events := g.events

def checked {α β : Type} (g : Group) (check : Except GroupError β)
    (k : β → Group × Except GroupError α) : Group × Except GroupError α :=
  match check with
  | .error e => (g, .error e)
  | .ok b => k b

def requireActiveGroup : Except GroupError Unit :=
  if g.state ≠ .active then
    .error ⟨.dissolved, "This group was dissolved.",
      "Dissolved groups are terminal; create a new group instead."⟩
  else .ok ()

def requireMemberSession (sessionId : String) : Except GroupError Member :=
  match g.memberBySession sessionId with
  | none => .error ⟨.notMember, "You are not an attested member of this group.",
      "Attest your identity to the relay first (re-join or re-sync)."⟩
  | some m => .ok m

def enqueueOp (action : OpAction) (subject signer : Fingerprint) (opId : String) (now : Seconds) :
    Group × Except GroupError Op :=
  if g.ops.length ≥ groupMaxPendingOps then
    (g, .error ⟨.conflict, "Too many pending membership operations for this group.",
      "Wait for the pending operations to settle, then retry."⟩)
  else
    match g.ops.find? fun o => o.kind = action.kind ∧ o.subjectFingerprint = subject with
    | some existing => (g, .ok existing)
    | none =>
      let op : Op := { opId, action, subjectFingerprint := subject,
                       signerFingerprint := signer, requestedMonotonic := now }
      ({ g with ops := g.ops ++ [op] }, .ok op)

def abortHeadOp : Group :=
  match g.ops with
  | [] => g
  | op :: rest =>
    match op.action with
    | .join c => { g with ops := rest, members := g.members.erase (g.objects c).fingerprint }
    | _ => { g with ops := rest }

def joinCheck (redeemSession : String) : Except GroupError Unit := do
  g.requireActiveGroup
  if g.pendingJoins.contains redeemSession then
    throw ⟨.conflict, "This session already holds a pending join for the group.",
      "Finish (or let expire) the pending admission before retrying."⟩
  if g.reservedCount ≥ maxGroupMembers then
    throw ⟨.full, "This group is full.",
      "Groups hold at most 8 members, including pending joins."⟩

def beginJoinRedemption (redeemSession inviteId : String) (now : Seconds) :
    Group × Except GroupError GroupSnapshot :=
  g.checked (g.joinCheck redeemSession) fun _ =>
    let g' := { g with pendingJoins :=
      g.pendingJoins.set redeemSession ⟨redeemSession, inviteId, now⟩ }
    (g', .ok g'.snapshot)

def cancelPendingJoin (redeemSession : String) : Group :=
  { g with pendingJoins := g.pendingJoins.erase redeemSession }

def sessionWasRemoved (f : Fingerprint) : Bool :=
  (g.events.filter fun e => e.subjectFingerprint = f).getLast?.map GroupEvent.kind = some .removed

def rebind (r : Ref) (sessionId handle displayName : String) : Group :=
  g.updateObject r fun m =>
    { m with sessionId := some sessionId, handle,
             displayName := if displayName = "" then m.displayName else displayName }

def seatCandidate (f : Fingerprint) (sessionId publicKeyHex handle displayName : String) : Group :=
  let candidate : Member :=
    { fingerprint := f, handle,
      displayName := takeChars groupNameMaxLen (if displayName = "" then handle else displayName),
      publicKeyHex := publicKeyHex.toLower, role := .member, joinedEpoch := 0,
      status := .candidate, sessionId := some sessionId }
  { g with pendingJoins := g.pendingJoins.erase sessionId,
           objects := Function.update g.objects g.nextRef candidate, nextRef := g.nextRef + 1,
           members := g.members.set f g.nextRef }

def admissionCheck (f : Fingerprint) (sessionId : String) (tombstoned : Bool) :
    Except GroupError Unit := do
  if tombstoned ∨ g.state = .dissolved then
    throw ⟨.dissolved, "This group was dissolved.",
      "Dissolved groups are terminal; create a new group instead."⟩
  g.requireActiveGroup
  if ¬ g.pendingJoins.contains sessionId then
    throw (if g.sessionWasRemoved f then
      ⟨.notMember, "This identity was removed from the group.",
        "Re-joining requires a fresh invite from the owner."⟩
    else
      ⟨.notMember, "No pending admission or membership for this identity.",
        "Redeem a group invite first (ghostlink group join gl://join/…)."⟩)

/-- `attest` once the identity is proved: rebind an active member, or turn the session's
pending join into a candidate awaiting the owner. -/
def attestAs (f : Fingerprint) (sessionId publicKeyHex handle displayName : String)
    (tombstoned : Bool) (opId : String) (now : Seconds) : Group × Except GroupError AttestOutcome :=
  match (g.members.get? f).filter fun r => (g.objects r).status = .active with
  | some r =>
    g.checked g.requireActiveGroup fun _ =>
      let g' := g.rebind r sessionId handle displayName
      let role := if f = g.ownerFingerprint then AttestRole.owner else AttestRole.member
      (g', .ok ⟨g'.groupId, role, g'.epoch, some g'.snapshot⟩)
  | none =>
    g.checked (g.admissionCheck f sessionId tombstoned) fun _ =>
      let seated := g.seatCandidate f sessionId publicKeyHex handle displayName
      let (g', queued) := seated.enqueueOp (.join g.nextRef) f g.ownerFingerprint opId now
      (g', queued.map fun _ => ⟨g'.groupId, .candidate, g'.epoch, none⟩)

def leaveCheck (sessionId : String) : Except GroupError Member := do
  g.requireActiveGroup
  let member ← g.requireMemberSession sessionId
  if member.fingerprint = g.ownerFingerprint then
    throw ⟨.permission, "The owner cannot leave their own group.",
      "Dissolve the group instead (ghostlink group dissolve)."⟩
  return member

def requestLeave (sessionId opId : String) (now : Seconds) : Group × Except GroupError Op :=
  g.checked (g.leaveCheck sessionId) fun member =>
    g.enqueueOp .left member.fingerprint member.fingerprint opId now

def removeCheck (P : Primitives) (g : Group) (sessionId subject : String) :
    Except GroupError Member := do
  g.requireActiveGroup
  let subject := P.upper (strip subject)
  let member ← g.requireMemberSession sessionId
  if member.fingerprint ≠ g.ownerFingerprint then
    throw ⟨.permission, "Only the owner may remove members.",
      "Membership authorization is pinned to the owner's identity key."⟩
  match (Fingerprint.ofString? subject).bind g.member? with
  | none => throw ⟨.notMember, s!"{subject} is not an active member of this group.",
      "Only current members can be removed."⟩
  | some target =>
    if target.status ≠ .active then
      throw ⟨.notMember, s!"{subject} is not an active member of this group.",
        "Only current members can be removed."⟩
    if target.fingerprint = g.ownerFingerprint then
      throw ⟨.permission, "The owner cannot remove themself.",
        "Owner departure dissolves the group instead."⟩
    return target

def requestRemove (P : Primitives) (g : Group) (sessionId subject opId : String)
    (now : Seconds) : Group × Except GroupError Op :=
  g.checked (removeCheck P g sessionId subject) fun target =>
    g.enqueueOp .removed target.fingerprint g.ownerFingerprint opId now

def dissolveCheck (sessionId : String) : Except GroupError Unit := do
  g.requireActiveGroup
  let member ← g.requireMemberSession sessionId
  if member.fingerprint ≠ g.ownerFingerprint then
    throw ⟨.permission, "Only the owner may dissolve the group.",
      "Membership authorization is pinned to the owner's identity key."⟩

def requestDissolve (sessionId opId : String) (now : Seconds) : Group × Except GroupError Op :=
  g.checked (g.dissolveCheck sessionId) fun _ =>
    g.enqueueOp .dissolved g.ownerFingerprint g.ownerFingerprint opId now

def promote (clock : Clock) : Group :=
  match g.ops with
  | [] => g
  | head :: rest =>
    if head.awaitingSince.isSome then g
    else
      { g with ops := { head with
          epoch := g.epoch + 1, wallTs := some clock.wall,
          canonical := canonicalEventForm g.groupId (g.epoch + 1) head.kind
            head.subjectFingerprint clock.wall,
          awaitingSince := some clock.mono } :: rest }

def signTask (P : Primitives) (g : Group) : Option SignTask :=
  g.ops.head?.map fun head =>
    { opId := head.opId, groupId := g.groupId, kind := head.kind,
      subjectFingerprint := head.subjectFingerprint, epoch := head.epoch,
      signerFingerprint := head.signerFingerprint, messageB64 := P.b64encode head.canonical,
      signerSession := g.sessionForFingerprint head.signerFingerprint }

def keepLast {α : Type} (n : ℕ) (l : List α) : List α := l.drop (l.length - n)

def committedEvent (op : Op) (signature : Bytes) (clock : Clock) : GroupEvent where
  groupId := g.groupId
  epoch := g.epoch + 1
  kind := op.kind
  subjectFingerprint := op.subjectFingerprint
  wallTs := op.wallTs.getD clock.wall
  signerFingerprint := op.signerFingerprint
  signature
  epoch_pos := Nat.le_add_left 1 g.epoch

def applyAction (op : Op) (now : Seconds) : Group :=
  match op.action with
  | .join c => g.updateObject c fun m => { m with status := .active, joinedEpoch := g.epoch + 1 }
  | .left => { g with members := g.members.erase op.subjectFingerprint }
  | .removed => { g with members := g.members.erase op.subjectFingerprint }
  | .dissolved => { g with state := .dissolved, dissolvedAtMono := some now }

def commit (op : Op) (signature : Bytes) (clock : Clock) : Group :=
  { g.applyAction op clock.mono with
    epoch := g.epoch + 1
    events := keepLast groupEventsKept (g.events ++ [g.committedEvent op signature clock]) }

def boundSessions : List String :=
  (g.memberValues.filterMap Member.sessionId).filter (· ≠ "")

def routingFor (op : Op) (subjectSession : Option String) (event : GroupEvent) : CommittedOp :=
  let unbind :=
    match op.action with
    | .dissolved => g.boundSessions
    | .left => subjectSession.toList
    | .removed => subjectSession.toList
    | .join _ => []
  let joinMember :=
    match op.action with
    | .join c => some (g.objects c).view
    | _ => none
  { event, joinMember,
    notifySessions := (g.boundSessions.filter (· ∉ unbind) ++ unbind).eraseDups,
    unbindSessions := unbind }

def decodeSignature (P : Primitives) (signatureB64 : String) : Except GroupError Bytes :=
  match P.b64decode signatureB64 with
  | none => .error ⟨.validation, "The signature is not valid base64.",
      "Signatures are Ed25519 (64 bytes, base64 encoded)."⟩
  | some signature =>
    if signature.length ≠ 64 then
      .error ⟨.validation, "The signature must decode to exactly 64 bytes.",
        "Signatures are Ed25519 (64 bytes, base64 encoded)."⟩
    else .ok signature

def settleCheck (P : Primitives) (g : Group) (sessionId opId signatureB64 : String) :
    Except GroupError (Op × Member × Bytes) :=
  match g.ops with
  | [] => .error ⟨.conflict, "No such pending operation (stale or already settled).",
      "Operations settle in order; the client may be out of sync."⟩
  | op :: _ => do
    if op.opId ≠ opId then
      throw ⟨.conflict, "No such pending operation (stale or already settled).",
        "Operations settle in order; the client may be out of sync."⟩
    if op.awaitingSince = none then
      throw ⟨.conflict, "This operation is not awaiting a signature yet.",
        "Wait for the signature request before responding."⟩
    if g.sessionForFingerprint op.signerFingerprint ≠ some sessionId then
      throw ⟨.permission, "Only the authorized signer's session may settle this operation.",
        "Membership operations are signed by their authorized identity."⟩
    match g.member? op.signerFingerprint with
    | none => throw ⟨.assertion, "signer is not None", ""⟩
    | some signer =>
      let signature ← decodeSignature P signatureB64
      return (op, signer, signature)

def submitSignature (P : Primitives) (g : Group) (sessionId opId signatureB64 : String)
    (clock : Clock) : Group × Except GroupError CommittedOp :=
  g.checked (settleCheck P g sessionId opId signatureB64) fun (op, signer, signature) =>
    if verifySignature P ((fromHex signer.publicKeyHex).getD []) signature op.canonical then
      let popped := { g with ops := g.ops.tail }
      -- read before the commit drops the member: the departed still gets the final event
      let subjectSession := popped.sessionForFingerprint op.subjectFingerprint
      let g' := popped.commit op signature clock
      (g', .ok (g'.routingFor op subjectSession (popped.committedEvent op signature clock)))
    else
      (g.abortHeadOp, .error ⟨.permission,
        "The submitted signature does not verify; the operation was aborted.",
        "Sign exactly the canonical form the relay presented."⟩)

def expireJoins (joinPending now : Seconds) : Group × List ExpiredNotice :=
  let expired := fun (p : PendingJoin) => decide (now - p.createdMonotonic > joinPending)
  ({ g with pendingJoins := g.pendingJoins.filter fun _ p => !expired p },
    (g.pendingJoins.entries.filter fun e => expired e.2).map fun e =>
      ⟨g.groupId, "group/join-timeout", "The pending admission expired before attestation.",
        some e.1⟩)

def headTimedOut (signTimeout now : Seconds) : Bool :=
  match g.ops.head?.bind Op.awaitingSince with
  | some since => decide (now - since > signTimeout)
  | none => false

def expireHead (signTimeout now : Seconds) : Group × List ExpiredNotice :=
  if g.headTimedOut signTimeout now then
    (g.abortHeadOp, match g.ops.head?.map Op.action with
      | some (.join c) => [⟨g.groupId, "group/join-timeout",
          "The owner did not countersign the admission in time.", (g.objects c).sessionId⟩]
      | _ => [])
  else (g, [])

def sweep (joinPending signTimeout now : Seconds) : Group × List ExpiredNotice :=
  let (g₁, joins) := g.expireJoins joinPending now
  let (g₂, heads) := g₁.expireHead signTimeout now
  (g₂, joins ++ heads)

def disbindSession (sessionId : String) : Group :=
  { g with
    objects := fun r =>
      if r ∈ g.members.values ∧ (g.objects r).sessionId = some sessionId then
        { g.objects r with sessionId := none }
      else g.objects r
    pendingJoins := g.pendingJoins.values.foldl (fun joins p =>
      if p.redeemSession = sessionId then joins.erase p.redeemSession else joins) g.pendingJoins }

end Group
end Ghostlink.Groups
