import Ghostlink.Base.Runs
import Ghostlink.Invites.Authority

/-! The client's own record of its invites: the records and their state machine, the document form
in which the registry stores them, and the manager that creates, tracks and retires them. Storage
that fails is not modelled. Every reading of the local clock is an input, and so is the relay. -/

namespace Ghostlink.Invites
open Collections Text Checks

structure Datetime where
  moment : Instant
  aware : Bool
  deriving DecidableEq, Repr

/-- `lower` leaves ASCII texts without capitals alone, and a date and time that has been written
is read back. -/
structure RecordPrimitives extends InvitePrimitives where
  isoformat : Datetime → String
  fromisoformat : String → Option Datetime
  parseInt : String → Option ℤ
  lower_plain : ∀ s : String, (∀ c ∈ s.toList, c.toNat < 128 ∧ c.toLower = c) → lower s = s
  fromisoformat_isoformat : ∀ d, fromisoformat (isoformat d) = some d

inductive RecordFault
  | config (message hint : String)
  | state (message hint : String)
  | unknown (message hint : String)
  | invite (fault : InviteFault)
  | isoformat
  | relay (message : String)
  deriving DecidableEq, Repr

inductive InviteState
  | created | active | redeeming | redeemed | expired | revoked
  deriving DecidableEq, Repr

namespace InviteState

def value : InviteState → String
  | .created => "created"
  | .active => "active"
  | .redeeming => "redeeming"
  | .redeemed => "redeemed"
  | .expired => "expired"
  | .revoked => "revoked"

def all : List InviteState := [.created, .active, .redeeming, .redeemed, .expired, .revoked]

def ofValue (text : String) : Option InviteState := all.find? fun state => state.value = text

def terminal : List InviteState := [.redeemed, .expired, .revoked]

def transitions : InviteState → List InviteState
  | .created => [.active, .expired, .revoked]
  | .active => [.redeeming, .expired, .revoked]
  | .redeeming => [.redeemed, .active, .expired, .revoked]
  | .redeemed => []
  | .expired => [.revoked]
  | .revoked => []

end InviteState

def maxSessionBindingLength : ℕ := 32

structure InviteRecord where
  inviteId : String
  roomId : String
  tokenHash : String
  createdAt : Datetime
  expiresAt : Datetime
  maxRedemptions : ℤ
  redemptions : ℤ := 0
  state : InviteState := .created
  sessionBinding : String := ""
  relayUrl : String := ""
  protocolVersion : ℤ := 1
  kind : String := "chat"
  groupId : String := ""
  deriving DecidableEq, Repr

inductive Value
  | text (s : String)
  | number (n : ℤ)
  deriving DecidableEq, Repr

def Value.str : Value → String
  | .text s => s
  | .number n => toString n

abbrev Document := List (String × Value)

def corruptHint : String :=
  "The invites store is corrupt; clear the secure_invites store to reset."

def Document.str (data : Document) (field fallback : String) : String :=
  ((data.lookup field).map Value.str).getD fallback

namespace InviteRecord

def bindingAllowed (binding : String) : Bool :=
  binding = "" || binding.length ≤ maxSessionBindingLength && binding.toList.all (33 ≤ ·.toNat)

def init (S : RecordPrimitives) (a : InviteRecord) : Except RecordFault InviteRecord := do
  if isValidInviteId S.toInvitePrimitives a.inviteId = false then
    throw (.config s!"Invite id '{a.inviteId}' is malformed."
      "Invite ids look like gi_<10 lowercase hex>.")
  if a.kind = "group" ∧ Groups.isValidGroupId a.groupId = false then
    throw (.config s!"Invite group '{a.groupId}' is not a valid group id."
      "Groups use the gl-group-XXXX-XXXX-XXXX format.")
  if a.kind ≠ "group" ∧ isValidRoomId a.roomId = false then
    throw (.config s!"Invite room '{a.roomId}' is not a valid room id."
      "Rooms use the gl-room-XXXX-XXXX-XXXX format.")
  if a.createdAt.aware = false then
    throw (.config "Invite timestamp 'created_at' must be timezone-aware."
      "GhostLink stores invite times in UTC.")
  if a.expiresAt.aware = false then
    throw (.config "Invite timestamp 'expires_at' must be timezone-aware."
      "GhostLink stores invite times in UTC.")
  if a.expiresAt.moment ≤ a.createdAt.moment then
    throw (.config "An invite's deadline must be after its creation time."
      "Create invites with a positive lifetime.")
  if a.maxRedemptions < 1 then
    throw (.config "Redemption limit must be an integer ≥ 1." "One-time invites use a limit of 1.")
  if a.redemptions < 0 ∨ a.maxRedemptions < a.redemptions then
    throw (.config "Redemption count must fit within the invite's limit."
      "This invite record is inconsistent — remove it and recreate.")
  if bindingAllowed a.sessionBinding = false then
    throw (.config s!"Session binding must be ≤ {maxSessionBindingLength} visible characters."
      "GhostLink binds invites to conversation or session identifiers only.")
  pure { a with
    roomId := if a.kind = "group" then "" else a.roomId
    groupId := if a.kind = "group" then a.groupId else "" }

def transition (r : InviteRecord) (target : InviteState) : Except RecordFault InviteRecord :=
  if target ∈ r.state.transitions then .ok { r with state := target }
  else .error (.state
    ("Invite " ++ r.inviteId ++ " cannot move " ++ r.state.value ++ " → " ++ target.value ++ ".")
    (if r.state ∈ InviteState.terminal then
      "This invite has already been consumed, expired, or revoked."
    else "Check the invite lifecycle order."))

def isDue (r : InviteRecord) (now : Instant) : Bool := decide (r.expiresAt.moment ≤ now)

def toDict (S : RecordPrimitives) (r : InviteRecord) : Document :=
  [("v", .number 1), ("invite_id", .text r.inviteId), ("room_id", .text r.roomId),
    ("token_hash", .text r.tokenHash), ("created_at", .text (S.isoformat r.createdAt)),
    ("expires_at", .text (S.isoformat r.expiresAt)), ("max_redemptions", .number r.maxRedemptions),
    ("redemptions", .number r.redemptions), ("state", .text r.state.value),
    ("session_binding", .text r.sessionBinding), ("relay_url", .text r.relayUrl),
    ("protocol_version", .number r.protocolVersion), ("kind", .text r.kind),
    ("group_id", .text r.groupId)]

def expected : List String :=
  ["created_at", "expires_at", "invite_id", "max_redemptions", "room_id", "token_hash"]

def readState (data : Document) : Except RecordFault InviteState :=
  match InviteState.ofValue (data.str "state" "created") with
  | some state => .ok state
  | none => .error (.config "A stored invite holds an unknown lifecycle state." corruptHint)

def readMoment (S : RecordPrimitives) (data : Document) (field : String) :
    Except RecordFault Datetime :=
  match S.fromisoformat (data.str field "") with
  | some d => .ok { d with aware := true }
  | none => .error .isoformat

def readInt (S : RecordPrimitives) (data : Document) (field : String) (fallback : ℤ) :
    Except RecordFault ℤ :=
  match data.lookup field with
  | none => .ok fallback
  | some (.number n) => .ok n
  | some (.text s) =>
    match S.parseInt s with
    | some n => .ok n
    | none => .error (.config "A stored invite holds non-integer counters." corruptHint)

def fromDict (S : RecordPrimitives) (data : Document) : Except RecordFault InviteRecord := do
  let missing := expected.filter fun field => (data.lookup field).isNone
  if missing ≠ [] then
    throw (.config ("A stored invite record is missing field(s): " ++ ", ".intercalate missing ++
      ".") corruptHint)
  let state ← readState data
  let createdAt ← readMoment S data "created_at"
  let expiresAt ← readMoment S data "expires_at"
  let maxRedemptions ← readInt S data "max_redemptions" 0
  let redemptions ← readInt S data "redemptions" 0
  let protocolVersion ← readInt S data "protocol_version" 1
  let kind := data.str "kind" "chat"
  if kind ≠ "chat" ∧ kind ≠ "group" then
    throw (.config "A stored invite holds an unknown kind." corruptHint)
  init S
    { inviteId := data.str "invite_id" ""
      roomId := data.str "room_id" ""
      tokenHash := data.str "token_hash" ""
      createdAt
      expiresAt
      maxRedemptions
      redemptions
      state
      sessionBinding := data.str "session_binding" ""
      relayUrl := data.str "relay_url" ""
      protocolVersion
      kind
      groupId := data.str "group_id" "" }

end InviteRecord

structure LocalInviteRegistry where
  backend : Dict String Document

namespace LocalInviteRegistry
variable (S : RecordPrimitives) (g : LocalInviteRegistry)

def save (r : InviteRecord) : LocalInviteRegistry :=
  ⟨g.backend.set r.inviteId (r.toDict S)⟩

def lookupKey (inviteId : String) : String := S.lower (strip inviteId)

def get (g : LocalInviteRegistry) (inviteId : String) :
    Except RecordFault (Option InviteRecord) :=
  match g.backend.get? (lookupKey S inviteId) with
  | none => .ok none
  | some raw => (InviteRecord.fromDict S raw).map some

def listAll : Except RecordFault (List InviteRecord) := do
  let records ← g.backend.values.mapM (InviteRecord.fromDict S)
  pure (records.mergeSort fun a b => decide (b.createdAt.moment ≤ a.createdAt.moment))

def expireDue (r : InviteRecord) (now : Instant) : LocalInviteRegistry × InviteRecord :=
  if r.state = .active ∧ r.isDue now then
    let r := { r with state := .expired }
    (g.save S r, r)
  else (g, r)

def expireEach (g : LocalInviteRegistry) (now : Instant) :
    List InviteRecord → LocalInviteRegistry × List InviteRecord
  | [] => (g, [])
  | r :: rs =>
    let first := g.expireDue S r now
    let rest := expireEach first.1 now rs
    (rest.1, if r.state = .active ∧ r.isDue now then first.2 :: rest.2 else rest.2)

def refreshExpired (now : Instant) : Except RecordFault (LocalInviteRegistry × List InviteRecord) := do
  let records ← g.listAll S
  pure (g.expireEach S now records)

def delete (inviteId : String) : LocalInviteRegistry × Bool :=
  let key := lookupKey S inviteId
  if g.backend.contains key then (⟨g.backend.erase key⟩, true) else (g, false)

def purgeEach (g : LocalInviteRegistry) (cutoff : Instant) :
    List InviteRecord → LocalInviteRegistry × ℕ
  | [] => (g, 0)
  | r :: rs =>
    if r.state ∈ InviteState.terminal ∧ r.expiresAt.moment < cutoff then
      let deleted := g.delete S r.inviteId
      let rest := purgeEach deleted.1 cutoff rs
      (rest.1, if deleted.2 then rest.2 + 1 else rest.2)
    else purgeEach g cutoff rs

def purgeTerminal (retention : ℤ) (now : Instant) : Except RecordFault (LocalInviteRegistry × ℕ) := do
  let records ← g.listAll S
  pure (g.purgeEach S (now - retention) records)

end LocalInviteRegistry

def inviteProtocolVersion : ℤ := 3

def formatInviteLink (S : InvitePrimitives) (token : String) : Except InviteFault String := do
  let normalized ← normalizeInviteToken S token
  pure ("gl://join/" ++ normalized)

structure CreateRequest where
  token : String
  roomId : String
  ttlSeconds : Seconds
  maxRedemptions : ℤ
  kind : String
  groupId : String

structure MintArgs where
  ttlSeconds : Seconds
  maxRedemptions : ℤ
  roomId : Option String
  relayUrl : String
  kind : String
  groupId : String

/-- `held` are the record objects that calls have returned; `register_with_relay` takes one of
them and changes it. -/
structure SecureInviteManager where
  registry : LocalInviteRegistry
  tokens : Dict String String
  held : List InviteRecord

inductive Reply
  | minted (record : InviteRecord) (link : String)
  | granted (grant : InviteGrant)
  | record (record : InviteRecord)
  | records (records : List InviteRecord)
  | count (removed : ℕ)
  | nothing
  deriving DecidableEq, Repr

def Reply.handedOut : Reply → List InviteRecord
  | .minted r _ => [r]
  | .record r => [r]
  | .records rs => rs
  | _ => []

inductive Operation
  /-- The draws of the token and of a room, and the two readings of the clock. -/
  | mint (args : MintArgs) (token room : String) (created deadline : Instant)
  | registerWithRelay (held : ℕ) (client : CreateRequest → Except RecordFault InviteGrant)
  | revokeViaRelay (inviteId : String) (now : Instant)
      (client : String → Except RecordFault Unit)
  | markRedeemed (inviteId sessionBinding : String) (now : Instant)
  | recordIncomingRedemption (inviteId roomId : String) (expiresAt : Datetime) (relayUrl : String)
      (now : Instant)
  | bindSession (inviteId sessionBinding : String) (now : Instant)
  | noteLocalRedeemed (inviteId sessionBinding : String) (now : Instant)
  | get (inviteId : String) (now : Instant)
  | require (inviteId : String) (now : Instant)
  | list (clock : ℕ → Instant)
  | revokeLocal (inviteId : String) (now : Instant)
  | applyRetention (retention : ℤ) (now later : Instant)
  | refreshExpired (now : Instant)
  /-- The process ends and another starts: tokens and record objects are gone. -/
  | restart

namespace SecureInviteManager
variable (S : RecordPrimitives) (m : SecureInviteManager)

abbrev Outcome := SecureInviteManager × Except RecordFault Reply

def start : SecureInviteManager := ⟨⟨Dict.empty⟩, Dict.empty, []⟩

def save (m : SecureInviteManager) (r : InviteRecord) : SecureInviteManager :=
  { m with registry := m.registry.save S r }

def expiryFromNow (seconds : Seconds) (now : Instant) : Except RecordFault Datetime :=
  if seconds ≤ 0 then
    .error (.invite (.validation "An invite's lifetime must be positive."
      "Choose at least one second, e.g. --expires 30s."))
  else .ok ⟨now + timedelta seconds, true⟩

def mintRecord (args : MintArgs) (token room : String) (created deadline : Instant) :
    Except RecordFault InviteRecord := do
  let inviteId ← (inviteIdForToken S.toInvitePrimitives token).mapError .invite
  let tokenHash ← (tokenHashFor S.toInvitePrimitives token).mapError .invite
  let expiresAt ← expiryFromNow args.ttlSeconds deadline
  InviteRecord.init S
    { inviteId
      roomId := if args.kind = "group" then "" else args.roomId.getD room
      tokenHash
      createdAt := ⟨created, true⟩
      expiresAt
      maxRedemptions := args.maxRedemptions
      relayUrl := args.relayUrl
      protocolVersion := inviteProtocolVersion
      kind := args.kind
      groupId := args.groupId }

def mint (args : MintArgs) (token room : String) (created deadline : Instant) : Outcome :=
  match mintRecord S args token room created deadline with
  | .error fault => (m, .error fault)
  | .ok record =>
    ({ m with tokens := m.tokens.set record.inviteId token },
      ((formatInviteLink S.toInvitePrimitives token).mapError .invite).map (.minted record))

def foldExpiry (r : InviteRecord) (now : Instant) : SecureInviteManager × InviteRecord :=
  let folded := m.registry.expireDue S r now
  ({ m with registry := folded.1 }, folded.2)

def get (m : SecureInviteManager) (inviteId : String) (now : Instant) :
    SecureInviteManager × Except RecordFault (Option InviteRecord) :=
  match m.registry.get S inviteId with
  | .error fault => (m, .error fault)
  | .ok none => (m, .ok none)
  | .ok (some r) =>
    let folded := m.foldExpiry S r now
    (folded.1, .ok (some folded.2))

def consult (inviteId : String) (now : Instant) (absent : Except RecordFault Reply)
    (next : SecureInviteManager → InviteRecord → Outcome) : Outcome :=
  match m.get S inviteId now with
  | (m, .error fault) => (m, .error fault)
  | (m, .ok none) => (m, absent)
  | (m, .ok (some r)) => next m r

def noInvite (inviteId : String) : Except RecordFault Reply :=
  .error (.unknown s!"No invite found for '{inviteId}'."
    "Run 'ghostlink invite list' to see your invites.")

def heldRecord (i : ℕ) (r : InviteRecord) : SecureInviteManager :=
  { m with held := m.held.set i r }

def createRequest (token : String) (r : InviteRecord) : CreateRequest where
  token
  roomId := r.roomId
  ttlSeconds := max 1 (((r.expiresAt.moment - r.createdAt.moment : ℤ) : ℚ) / 1000000)
  maxRedemptions := r.maxRedemptions
  kind := r.kind
  groupId := r.groupId

def heldToken (inviteId : String) : Except RecordFault String :=
  match m.tokens.get? inviteId with
  | some token => .ok token
  | none => .error (.state s!"No token held for invite {inviteId}."
      "Tokens stay in memory — recreated invites need new mints.")

def registered (r : InviteRecord) (client : CreateRequest → Except RecordFault InviteGrant) :
    Except RecordFault (InviteGrant × InviteRecord) := do
  let token ← m.heldToken r.inviteId
  let grant ← client (createRequest token r)
  let active ← r.transition .active
  pure (grant, { active with expiresAt := ⟨grant.expiresAt, true⟩ })

def registerWithRelay (i : ℕ) (r : InviteRecord)
    (client : CreateRequest → Except RecordFault InviteGrant) : Outcome :=
  match m.registered r client with
  | .error fault => (m, .error fault)
  | .ok (grant, r) => ((m.save S r).heldRecord i r, .ok (.granted grant))

def revoked (r : InviteRecord) : Except RecordFault InviteRecord :=
  if r.state = .revoked ∨ r.state = .redeemed then .ok r else r.transition .revoked

def forget (inviteId : String) : SecureInviteManager :=
  { m with tokens := m.tokens.erase inviteId }

def askToRevoke (inviteId : String) (client : String → Except RecordFault Unit) :
    Except RecordFault Unit :=
  match m.tokens.get? inviteId with
  | some token => client token
  | none => .ok ()

def revokeViaRelay (inviteId : String) (now : Instant) (client : String → Except RecordFault Unit) :
    Outcome :=
  m.consult S inviteId now (noInvite inviteId) fun m r =>
    match m.askToRevoke r.inviteId client >>= fun _ => revoked r with
    | .error fault => (m, .error fault)
    | .ok r => ((m.save S r).forget r.inviteId, .ok (.record r))

def redeemed (r : InviteRecord) : Except RecordFault InviteRecord := do
  let r ← if r.state = .active then r.transition .redeeming else pure r
  r.transition .redeemed

def markRedeemed (inviteId sessionBinding : String) (now : Instant) : Outcome :=
  m.consult S inviteId now (noInvite inviteId) fun m r =>
    match redeemed r with
    | .error fault => (m, .error fault)
    | .ok r =>
      let r := { r with sessionBinding }
      (m.save S r, .ok (.record r))

def incomingRecord (inviteId roomId : String) (expiresAt : Datetime) (relayUrl : String)
    (now : Instant) : Except RecordFault InviteRecord :=
  InviteRecord.init S
    { inviteId
      roomId
      tokenHash := ""
      createdAt := ⟨now, true⟩
      expiresAt
      maxRedemptions := 1
      redemptions := 1
      state := .redeemed
      relayUrl
      protocolVersion := inviteProtocolVersion }

def recordIncomingRedemption (inviteId roomId : String) (expiresAt : Datetime) (relayUrl : String)
    (now : Instant) : Outcome :=
  match incomingRecord S inviteId roomId expiresAt relayUrl now with
  | .error fault => (m, .error fault)
  | .ok r => (m.save S r, .ok (.record r))

def bindSession (inviteId sessionBinding : String) (now : Instant) : Outcome :=
  m.consult S inviteId now (.ok .nothing) fun m r =>
    (m.save S { r with sessionBinding }, .ok .nothing)

def noteLocalRedeemed (inviteId sessionBinding : String) (now : Instant) : Outcome :=
  m.consult S inviteId now (.ok .nothing) fun m r =>
    match redeemed r with
    | .error fault => (m, .error fault)
    | .ok r =>
      let r := { r with redemptions := r.maxRedemptions, sessionBinding }
      (m.save S r, .ok .nothing)

def foldEach (m : SecureInviteManager) (clock : ℕ → Instant) :
    List InviteRecord → SecureInviteManager × List InviteRecord
  | [] => (m, [])
  | r :: rs =>
    let first := m.foldExpiry S r (clock 0)
    let rest := foldEach first.1 (fun n => clock (n + 1)) rs
    (rest.1, first.2 :: rest.2)

def list (clock : ℕ → Instant) : Outcome :=
  match m.registry.listAll S with
  | .error fault => (m, .error fault)
  | .ok records =>
    let folded := m.foldEach S clock records
    (folded.1, .ok (.records folded.2))

def revokeLocal (inviteId : String) (now : Instant) : Outcome :=
  m.consult S inviteId now (noInvite inviteId) fun m r =>
    if r.state = .revoked then (m, .ok (.record r))
    else if r.state = .redeemed then
      (m, .error (.state s!"Invite {inviteId} was already redeemed — revocation is moot."
        "A consumed invite cannot be used again anyway."))
    else
      match r.transition .revoked with
      | .error fault => (m, .error fault)
      | .ok r => (m.save S r, .ok (.record r))

def refreshExpired (m : SecureInviteManager) (now : Instant) : Outcome :=
  match m.registry.refreshExpired S now with
  | .error fault => (m, .error fault)
  | .ok (registry, moved) => ({ m with registry }, .ok (.records moved))

def purgeTerminal (m : SecureInviteManager) (retention : ℤ) (now : Instant) : Outcome :=
  match m.registry.purgeTerminal S retention now with
  | .error fault => (m, .error fault)
  | .ok (registry, removed) => ({ m with registry }, .ok (.count removed))

def applyRetention (retention : ℤ) (now later : Instant) : Outcome :=
  match m.refreshExpired S now with
  | (m, .error fault) => (m, .error fault)
  | (m, .ok _) => m.purgeTerminal S retention later

def perform : Operation → Outcome
  | .mint args token room created deadline => m.mint S args token room created deadline
  | .registerWithRelay i client =>
    match m.held[i]? with
    | none => (m, .ok .nothing)
    | some r => m.registerWithRelay S i r client
  | .revokeViaRelay inviteId now client => m.revokeViaRelay S inviteId now client
  | .markRedeemed inviteId sessionBinding now => m.markRedeemed S inviteId sessionBinding now
  | .recordIncomingRedemption inviteId roomId expiresAt relayUrl now =>
    m.recordIncomingRedemption S inviteId roomId expiresAt relayUrl now
  | .bindSession inviteId sessionBinding now => m.bindSession S inviteId sessionBinding now
  | .noteLocalRedeemed inviteId sessionBinding now =>
    m.noteLocalRedeemed S inviteId sessionBinding now
  | .get inviteId now => m.consult S inviteId now (.ok .nothing) fun m r => (m, .ok (.record r))
  | .require inviteId now =>
    m.consult S inviteId now (noInvite inviteId) fun m r => (m, .ok (.record r))
  | .list clock => m.list S clock
  | .revokeLocal inviteId now => m.revokeLocal S inviteId now
  | .applyRetention retention now later => m.applyRetention S retention now later
  | .refreshExpired now => m.refreshExpired S now
  | .restart => ({ m with tokens := Dict.empty, held := [] }, .ok .nothing)

def handOut (records : List InviteRecord) : SecureInviteManager :=
  { m with held := m.held ++ records }

def step (operation : Operation) : SecureInviteManager :=
  match m.perform S operation with
  | (m, .error _) => m
  | (m, .ok reply) => m.handOut reply.handedOut

def run (operations : List Operation) : SecureInviteManager := operations.foldl (step S) start

end SecureInviteManager
end Ghostlink.Invites
