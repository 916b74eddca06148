import Ghostlink.Base.Dict
import Ghostlink.Invites.Tokens
import Ghostlink.Transport.Connection

/-! The relay client's requests. A request registers a waiter under a key, sends its packet and
waits for its future; the reader completes the future that it finds under the key of an inbound
packet, and every way out of the request removes what is registered under its key. A list of
events is an interleaving of the requests' coroutines, the reader, the timers and `disconnect`. A
future is named by the number of its request. -/

namespace Ghostlink.Requests
open Collections Text Invites
open Connection (ConnectionState)

inductive ErrorType
  | relay | transport | connectionTimeout
  | invite | inviteExpired | inviteAlreadyUsed | inviteRevoked | inviteUnknown | invitePermission
  | group | groupUnknown | groupFull | groupPermission | groupNotMember | groupDissolved
  | groupValidation | groupConflict | groupJoinTimeout | groupOffline | groupRateLimit
  deriving DecidableEq, Repr

structure Fault where
  type : ErrorType
  message : String
  hint : String
  deriving DecidableEq, Repr

def inviteErrorMap : List (String × ErrorType) :=
  [("invite/expired", .inviteExpired), ("invite/already-used", .inviteAlreadyUsed),
    ("invite/revoked", .inviteRevoked), ("invite/unknown", .inviteUnknown),
    ("invite/not-creator", .invitePermission)]

def groupErrorMap : List (String × ErrorType) :=
  [("group/unknown", .groupUnknown), ("group/full", .groupFull),
    ("group/not-owner", .groupPermission), ("group/not-member", .groupNotMember),
    ("group/dissolved", .groupDissolved), ("group/invalid", .groupValidation),
    ("group/conflict", .groupConflict), ("group/join-timeout", .groupJoinTimeout),
    ("group/signature", .groupPermission), ("group/state", .groupConflict),
    ("group/offline", .groupOffline), ("group/rate", .groupRateLimit)]

def isGroupCode (code : String) : Bool := "group/".toList.isPrefixOf code.toList

inductive InviteAnswer
  | inviteGranted | inviteState | redeemed
  deriving DecidableEq, Repr

/-- An ERROR packet. Only `code` and `message` are validated; the others are there when they are
texts. -/
structure ErrorPacket where
  code : String
  message : String
  channel : Option String
  invite : Option String
  group : Option String
  member : Option String
  deriving DecidableEq, Repr

inductive Packet
  | attached (channel : String) (peers : ℕ)
  | inviteAnswer (type : InviteAnswer) (invite : String)
  | groupGranted (group : String)
  | groupAttested (group : String)
  | groupRoster (group : String)
  | groupEvent (group kind subject : String)
  | error (packet : ErrorPacket)
  deriving DecidableEq, Repr

def Packet.peers : Packet → ℕ
  | .attached _ peers => peers
  | _ => 0

inductive InviteRequest
  | inviteCreate | inviteQuery | inviteRevoke | redeem
  deriving DecidableEq, Repr

def InviteRequest.value : InviteRequest → String
  | .inviteCreate => "INVITE_CREATE"
  | .inviteQuery => "INVITE_QUERY"
  | .inviteRevoke => "INVITE_REVOKE"
  | .redeem => "REDEEM"

inductive GroupRequest
  | groupAttest | groupState
  deriving DecidableEq, Repr

def GroupRequest.value : GroupRequest → String
  | .groupAttest => "GROUP_ATTEST"
  | .groupState => "GROUP_STATE"

inductive Call
  | attach (channel role : String)
  | inviteRoundtrip (inviteId : String) (type : InviteRequest)
  | groupCreate
  | groupRoundtrip (type : GroupRequest) (group : String)
  | waitGroupEvent (groupId kind subjectFingerprint : String)
  deriving DecidableEq, Repr

inductive Key
  | attach (channel : String)
  | invite (inviteId : String)
  | group (futureKey : String)
  | create
  | event (key : String × String × String)
  deriving DecidableEq, Repr

def futureKey (type : GroupRequest) (group : String) : String := type.value ++ ":" ++ group

def Call.key : Call → Key
  | .attach channel _ => .attach channel
  | .inviteRoundtrip inviteId _ => .invite inviteId
  | .groupCreate => .create
  | .groupRoundtrip type group => .group (futureKey type group)
  | .waitGroupEvent groupId kind subject => .event (groupId, kind, subject)

inductive Completion
  | result (packet : Packet)
  | exception (fault : Fault)
  | cancelled
  deriving DecidableEq, Repr

inductive Outcome
  | peers (count : ℕ)
  | returned (packet : Packet)
  | raised (fault : Fault)
  | cancelled
  deriving DecidableEq, Repr

inductive Interrupt
  | timedOut | cancelled
  deriving DecidableEq, Repr

inductive Place
  | sending
  | waiting (interrupt : Option Interrupt)
  | ended (outcome : Outcome)
  deriving DecidableEq, Repr

structure Request where
  call : Call
  future : Option Completion
  place : Place
  deriving DecidableEq, Repr

def Place.live : Place → Bool
  | .ended _ => false
  | _ => true

def Request.complete (r : Request) (completion : Option Completion) : Request :=
  { r with future := r.future <|> completion }

inductive Wake
  | sent
  | sendFailed (fault : Fault)
  | sendCancelled
  | woken
  deriving DecidableEq, Repr

def Call.timeoutError : Call → Fault
  | .attach channel _ => ⟨.connectionTimeout,
      s!"Relay did not confirm the attach to {channel} in time.",
      "The relay may be overloaded; check relay-status and retry."⟩
  | .inviteRoundtrip _ type => ⟨.connectionTimeout,
      "Relay did not answer the " ++ type.value ++ " request in time.",
      "The relay may be overloaded; check relay-status and retry."⟩
  | .groupCreate => ⟨.connectionTimeout,
      "Relay did not answer the GROUP_CREATE request in time.",
      "The relay may be overloaded; check relay-status and retry."⟩
  | .groupRoundtrip type _ => ⟨.connectionTimeout,
      "Relay did not answer the " ++ type.value ++ " request in time.",
      "The relay may be overloaded; check relay-status and retry."⟩
  | .waitGroupEvent _ kind _ => ⟨.groupJoinTimeout,
      s!"No {kind} event for the group arrived in time.",
      "The owner may be offline; membership operations need their countersign."⟩

def Call.result (call : Call) (packet : Packet) : Outcome :=
  match call with
  | .attach _ _ => .peers packet.peers
  | _ => .returned packet

/-- What the request comes to, if the coroutine leaves its `try` block when it is resumed. -/
def Request.conclusion (r : Request) (wake : Wake) : Option Outcome :=
  match r.place, wake with
  | .sending, .sendFailed fault => some (.raised fault)
  | .sending, .sendCancelled => some .cancelled
  | .waiting (some .timedOut), .woken => some (.raised r.call.timeoutError)
  | .waiting (some .cancelled), .woken => some .cancelled
  | .waiting none, .woken => r.future.map fun
      | .result packet => r.call.result packet
      | .exception fault => .raised fault
      | .cancelled => .cancelled
  | _, _ => none

structure RelayClient where
  pendingAttaches : Dict String ℕ
  pendingInvites : Dict String ℕ
  pendingGroups : Dict String ℕ
  pendingGroupCreate : Option ℕ
  pendingGroupEvents : Dict (String × String × String) ℕ
  attachments : Dict String String
  state : ConnectionState
  isUsable : Bool
  requests : List Request

inductive Event
  | call (call : Call)
  | resume (request : ℕ) (wake : Wake)
  | expire (request : ℕ)
  | cancel (request : ℕ)
  | receive (packet : Packet)
  | disconnect
  | link (state : ConnectionState) (usable : Bool)

namespace RelayClient
variable (repr : String → String) (c : RelayClient)

def start : RelayClient where
  pendingAttaches := Dict.empty
  pendingInvites := Dict.empty
  pendingGroups := Dict.empty
  pendingGroupCreate := none
  pendingGroupEvents := Dict.empty
  attachments := Dict.empty
  state := .disconnected
  isUsable := false
  requests := []

def registered : Key → Option ℕ
  | .attach channel => c.pendingAttaches.get? channel
  | .invite inviteId => c.pendingInvites.get? inviteId
  | .group key => c.pendingGroups.get? key
  | .create => c.pendingGroupCreate
  | .event key => c.pendingGroupEvents.get? key

def register (key : Key) (i : ℕ) : RelayClient :=
  match key with
  | .attach channel => { c with pendingAttaches := c.pendingAttaches.set channel i }
  | .invite inviteId => { c with pendingInvites := c.pendingInvites.set inviteId i }
  | .group key => { c with pendingGroups := c.pendingGroups.set key i }
  | .create => { c with pendingGroupCreate := some i }
  | .event key => { c with pendingGroupEvents := c.pendingGroupEvents.set key i }

def pop (key : Key) : RelayClient :=
  match key with
  | .attach channel => { c with pendingAttaches := c.pendingAttaches.erase channel }
  | .invite inviteId => { c with pendingInvites := c.pendingInvites.erase inviteId }
  | .group key => { c with pendingGroups := c.pendingGroups.erase key }
  | .create => { c with pendingGroupCreate := none }
  | .event key => { c with pendingGroupEvents := c.pendingGroupEvents.erase key }

def settle (i : ℕ) (completion : Completion) : RelayClient :=
  { c with requests := c.requests.modify i (·.complete (some completion)) }

def answer (key : Key) (completion : Completion) : RelayClient :=
  match c.registered key with
  | none => c
  | some i => c.settle i completion

def reject (key : Key) (fault : Fault) : RelayClient :=
  match c.registered key with
  | none => c
  | some i => (c.pop key).settle i (.exception fault)

def refusal : Call → Option Fault
  | .attach channel role =>
    if role ≠ "host" ∧ role ≠ "guest" then
      some ⟨.relay, "Role must be 'host' or 'guest', got " ++ repr role ++ ".",
        "Pick the host side when you created the room, guest when joining."⟩
    else if isValidRoomId channel = false then
      some ⟨.relay, s!"'{channel}' is not a valid room identifier.",
        "Channels use the gl-room-XXXX-XXXX-XXXX format."⟩
    else if c.isUsable = false then
      some ⟨.transport, s!"Cannot attach to {channel}: connection is " ++ c.state.value ++ ".",
        "Connect to the relay before attaching to a channel."⟩
    else none
  | .inviteRoundtrip _ type =>
    if c.isUsable = false then
      some ⟨.transport, "Cannot send " ++ type.value ++ ": connection is " ++ c.state.value ++ ".",
        "Connect to the relay before issuing invite operations."⟩
    else none
  | .groupCreate =>
    if c.isUsable = false then
      some ⟨.transport, "Cannot send GROUP_CREATE: connection is " ++ c.state.value ++ ".",
        "Connect to the relay before issuing group operations."⟩
    else if c.pendingGroupCreate.isSome then
      some ⟨.groupConflict, "Another group creation is already in flight.",
        "Wait for it to finish before creating another group."⟩
    else none
  | .groupRoundtrip type _ =>
    if c.isUsable = false then
      some ⟨.transport, "Cannot send " ++ type.value ++ ": connection is " ++ c.state.value ++ ".",
        "Connect to the relay before issuing group operations."⟩
    else none
  | .waitGroupEvent _ _ _ => none

def firstPlace : Call → Place
  | .waitGroupEvent _ _ _ => .waiting none
  | _ => .sending

def begin (call : Call) : RelayClient :=
  match c.refusal repr call with
  | some fault => { c with requests := c.requests ++ [⟨call, none, .ended (.raised fault)⟩] }
  | none =>
    let future := c.requests.length
    let waiting : Request := ⟨call, none, firstPlace call⟩
    { c with requests := c.requests ++ [waiting] }.register call.key future

def put (i : ℕ) (r : Request) : RelayClient :=
  { c with requests := c.requests.set i r }

/-- The `finally` block of a request. Only GROUP_CREATE looks whose waiter it removes. -/
def unregister (i : ℕ) (call : Call) : RelayClient :=
  if call = .groupCreate ∧ c.pendingGroupCreate ≠ some i then c else c.pop call.key

def recordAttachment (call : Call) (outcome : Outcome) : RelayClient :=
  match call, outcome with
  | .attach channel role, .peers _ => { c with attachments := c.attachments.set channel role }
  | _, _ => c

def finish (i : ℕ) (r : Request) (outcome : Outcome) : RelayClient :=
  (((c.unregister i r.call).recordAttachment r.call outcome).put i
    { r with place := .ended outcome })

def proceed (i : ℕ) (r : Request) (wake : Wake) : RelayClient :=
  match r.conclusion wake with
  | some outcome => c.finish i r outcome
  | none =>
    if r.place = .sending ∧ wake = .sent then c.put i { r with place := .waiting none } else c

def interrupt (i : ℕ) (r : Request) (cause : Interrupt) : RelayClient :=
  match r.place with
  | .waiting earlier =>
    if cause = .timedOut ∧ earlier ≠ none then c
    else c.put i { r.complete (some .cancelled) with place := .waiting (some cause) }
  | _ => c

/-- `_route_group_forward_error`: refusals of a forwarded message concern no request. -/
def isForwardError (e : ErrorPacket) : Bool :=
  isGroupCode e.code && e.member.isSome && e.group.isSome

def rejectPendingAttach (e : ErrorPacket) : RelayClient :=
  match e.channel with
  | none => c
  | some channel => c.reject (.attach channel)
      ⟨.relay, s!"Relay refused attachment to {channel}: " ++ e.message ++ ".",
        "Verify the room identifier and that fewer than two peers are attached."⟩

def inviteFault (e : ErrorPacket) : Fault :=
  if isGroupCode e.code then
    ⟨(groupErrorMap.lookup e.code).getD .group, e.message, "See ghostlink group list."⟩
  else
    ⟨(inviteErrorMap.lookup e.code).getD .invite, e.message, "Ask the host for a fresh invite."⟩

def rejectPendingInvite (e : ErrorPacket) : RelayClient :=
  match e.invite with
  | none => c
  | some invite => c.reject (.invite invite) (inviteFault e)

def groupFault (e : ErrorPacket) : Option Fault :=
  match groupErrorMap.lookup e.code with
  | some type => some ⟨type, e.message, "See ghostlink group list."⟩
  | none =>
    if isGroupCode e.code ∨ e.code = "protocol/unsupported" then
      some ⟨.group, e.message, "See ghostlink group list."⟩
    else none

def rejectEach (keys : List Key) (fault : Fault) : RelayClient :=
  keys.foldl (fun c key => c.reject key fault) c

def rejectGroupWaiters (group : String) (fault : Fault) : RelayClient :=
  let c := c.rejectEach [.group (futureKey .groupAttest group),
    .group (futureKey .groupState group)] fault
  c.rejectEach ((c.pendingGroupEvents.keys.filter (·.1 = group)).map .event) fault

def rejectPendingGroup (e : ErrorPacket) : RelayClient :=
  match groupFault e with
  | none => c
  | some fault =>
    let c := match e.group with
      | none => c
      | some group => c.rejectGroupWaiters group fault
    c.answer .create (.exception fault)

def receive (packet : Packet) : RelayClient :=
  match packet with
  | .attached channel _ => c.answer (.attach channel) (.result packet)
  | .inviteAnswer _ invite => c.answer (.invite invite) (.result packet)
  | .groupGranted _ => c.answer .create (.result packet)
  | .groupAttested group => c.answer (.group (futureKey .groupAttest group)) (.result packet)
  | .groupRoster group => c.answer (.group (futureKey .groupState group)) (.result packet)
  | .groupEvent group kind subject => c.answer (.event (group, kind, subject)) (.result packet)
  | .error e =>
    if isForwardError e then c
    else ((c.rejectPendingAttach e).rejectPendingInvite e).rejectPendingGroup e

def discarded : List ℕ :=
  c.pendingInvites.values ++ c.pendingGroups.values ++ c.pendingGroupCreate.toList ++
    c.pendingGroupEvents.values

def disconnect : RelayClient :=
  { c.discarded.foldl (fun c i => c.settle i .cancelled) c with
    pendingInvites := Dict.empty
    pendingGroups := Dict.empty
    pendingGroupCreate := none
    pendingGroupEvents := Dict.empty }

def step : Event → RelayClient
  | .call call => c.begin repr call
  | .resume i wake => (c.requests[i]?.map fun r => c.proceed i r wake).getD c
  | .expire i => (c.requests[i]?.map fun r => c.interrupt i r .timedOut).getD c
  | .cancel i => (c.requests[i]?.map fun r => c.interrupt i r .cancelled).getD c
  | .receive packet => c.receive packet
  | .disconnect => c.disconnect
  | .link state usable => { c with state, isUsable := usable }

def run (events : List Event) : RelayClient := events.foldl (step repr) start

end RelayClient
end Ghostlink.Requests
