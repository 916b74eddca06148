import Ghostlink.Groups.AuthorityDefs

/-! The local, client-side record of a group: which verified events it accepts and what they
make of its roster. -/

namespace Ghostlink.Groups
open Collections Text

structure GroupMember where
  fingerprint : Fingerprint
  handle : String
  displayName : String
  publicKeyHex : String
  role : GroupRole
  joinedEpoch : ℕ
  owner_first : role = .owner → joinedEpoch = 1
  joined_pos : 1 ≤ joinedEpoch
  named : validateGroupDisplayName displayName "display name" = .ok displayName

def MemberView.shownName (v : MemberView) : String :=
  if v.displayName = "" then v.handle else v.displayName

def GroupMember.fromEventPayload (v : MemberView) : Except GroupError GroupMember :=
  if howner : v.role = .owner ∧ v.joinedEpoch ≠ 1 then
    .error ⟨.validation, "The owner must join at epoch 1.",
      "The group creator is the first member of the first epoch."⟩
  else if hpos : v.joinedEpoch < 1 then
    .error ⟨.validation, "joined_epoch must be ≥ 1.", "Epochs grow monotonically from 1."⟩
  else
    match named : validateGroupDisplayName v.shownName "display name" with
    | .error e => .error e
    | .ok displayName => .ok
        { fingerprint := v.fingerprint, handle := v.handle, displayName,
          publicKeyHex := v.publicKeyHex.toLower, role := v.role, joinedEpoch := v.joinedEpoch,
          owner_first := fun h => not_not.mp fun hne => howner ⟨h, hne⟩,
          joined_pos := Nat.le_of_not_lt hpos
          named := validateGroupDisplayName_of_ok named }

inductive LocalGroupState
  | active | left | removed | dissolved | defunct
  deriving DecidableEq, Repr

def LocalGroupState.value : LocalGroupState → String
  | .active => "active"
  | .left => "left"
  | .removed => "removed"
  | .dissolved => "dissolved"
  | .defunct => "defunct"

structure LocalGroupRecord where
  groupId : GroupId
  ownerFingerprint : Fingerprint
  ownerPublicKeyHex : String
  myFingerprint : Fingerprint
  epoch : ℕ
  members : Dict Fingerprint GroupMember
  state : LocalGroupState
  updatedAt : Moment
  epochLeapAt : Option Moment
  events : List GroupEvent
  suspect : Bool
  cryptoSuite : String := defaultCryptoSuite

namespace LocalGroupRecord
variable (r : LocalGroupRecord)

def isOwner : Bool :=
  decide (r.myFingerprint = r.ownerFingerprint ∧ r.state = .active)

def requireActive : Except GroupError Unit :=
  let groupId := r.groupId.val
  let state := r.state.value
  if r.state ≠ .active then
    .error ⟨.state, s!"Group {groupId} is {state}; it is no longer usable.",
      "Archived groups are read-only — create a new group to continue."⟩
  else .ok ()

def requireOwnerSigned (event : GroupEvent) (operation : String) : Except GroupError Unit :=
  if event.signerFingerprint ≠ r.ownerFingerprint then
    .error ⟨.state, s!"Only the owner may authorize {operation}.",
      "This event was not signed by the pinned owner key."⟩
  else .ok ()

def applyJoin (event : GroupEvent) (joinMember : Option GroupMember) :
    Except GroupError (LocalGroupRecord × String) := do
  let subject := event.subjectFingerprint.val
  r.requireOwnerSigned event "admissions"
  if r.members.contains event.subjectFingerprint then
    throw ⟨.state, s!"{subject} is already on the roster.",
      "Duplicate admissions are rejected by the state machine."⟩
  match joinMember.filter fun m => m.fingerprint = event.subjectFingerprint with
  | none => throw ⟨.state, "A join event lacks its member descriptor.",
      "This is a relay protocol violation — treat the roster as suspect."⟩
  | some m =>
    return ({ r with members := r.members.set event.subjectFingerprint m },
      m.displayName ++ " joined the group")

/-- The member is gone; a record whose own member is gone is archived in `archived`. -/
def depart (subject : Fingerprint) (archived : LocalGroupState) : LocalGroupRecord :=
  { r with members := r.members.erase subject,
           state := if subject = r.myFingerprint then archived else r.state }

def requireOnRoster (f : Fingerprint) : Except GroupError GroupMember :=
  let subject := f.val
  match r.members.get? f with
  | none => .error ⟨.state, s!"{subject} is not on the roster.",
      "The roster is inconsistent — re-sync with the relay."⟩
  | some m => .ok m

def applyLeft (event : GroupEvent) : Except GroupError (LocalGroupRecord × String) := do
  let m ← r.requireOnRoster event.subjectFingerprint
  if event.signerFingerprint ≠ event.subjectFingerprint then
    throw ⟨.state, "A leave event must be signed by the leaving member.",
      "This is a relay protocol violation — treat the roster as suspect."⟩
  return (r.depart event.subjectFingerprint .left, m.displayName ++ " left the group")

def applyRemoved (event : GroupEvent) : Except GroupError (LocalGroupRecord × String) := do
  let m ← r.requireOnRoster event.subjectFingerprint
  r.requireOwnerSigned event "removals"
  if event.subjectFingerprint = r.ownerFingerprint then
    throw ⟨.state, "The owner cannot be removed from their own group.",
      "Owner departure dissolves the group instead."⟩
  return (r.depart event.subjectFingerprint .removed,
    m.displayName ++ " was removed from the group")

def applyDissolved (event : GroupEvent) : Except GroupError (LocalGroupRecord × String) := do
  r.requireOwnerSigned event "dissolution"
  if event.subjectFingerprint ≠ r.ownerFingerprint then
    throw ⟨.state, "Dissolution must reference the owner.",
      "This is a relay protocol violation — treat the roster as suspect."⟩
  return ({ r with state := .dissolved }, "The owner dissolved the group")

def applyEventSemantics (event : GroupEvent) (joinMember : Option GroupMember) :
    Except GroupError (LocalGroupRecord × String) :=
  match event.kind with
  | .join => r.applyJoin event joinMember
  | .left => r.applyLeft event
  | .removed => r.applyRemoved event
  | .dissolved => r.applyDissolved event

def advance (event : GroupEvent) (now : Moment) : LocalGroupRecord :=
  { r with
    epoch := event.epoch
    epochLeapAt := some now
    updatedAt := now
    events := Group.keepLast groupEventsKept (r.events ++ [event]) }

/-- `apply_verified_event`: a refused event changes nothing, except that an epoch gap makes the
roster suspect. -/
def applyVerifiedEvent (event : GroupEvent) (joinMember : Option GroupMember) (now : Moment) :
    LocalGroupRecord × Except GroupError String :=
  let offered := event.epoch
  let current := r.epoch
  let eventGroup := event.groupId.val
  match r.requireActive with
  | .error e => (r, .error e)
  | .ok _ =>
    if event.groupId ≠ r.groupId then
      (r, .error ⟨.state, s!"Event for {eventGroup} does not belong to this record.",
        "This is a bug — events are routed by group id."⟩)
    else if event.epoch ≤ r.epoch then
      (r, .error ⟨.epoch, s!"Stale epoch {offered} (current {current}); refusing to roll back.",
        "Duplicate or replayed events are dropped, never re-applied."⟩)
    else if event.epoch > r.epoch + 1 then
      ({ r with suspect := true },
        .error ⟨.epoch, s!"Epoch gap {current} → {offered}; roster state is unverifiable.",
          "Re-sync with the relay (group info) before trusting this roster."⟩)
    else
      match r.applyEventSemantics event joinMember with
      | .error e => (r, .error e)
      | .ok (r', notice) => (r'.advance event now, .ok notice)

def receive (c : CommittedOp) (now : Moment) : LocalGroupRecord × Except GroupError String :=
  match c.joinMember.mapM GroupMember.fromEventPayload with
  | .error e => (r, .error e)
  | .ok joinMember => r.applyVerifiedEvent c.event joinMember now

end LocalGroupRecord
end Ghostlink.Groups
