import Ghostlink.Invites.Authority

/-! The relay's rendezvous channels. Each client has one coroutine: it reads a packet, runs the
handler up to its first send, and waits there while other clients' coroutines run; when the
client is gone it leaves the client's channels one by one, waiting at the notice to each peer. A
list of events is an interleaving of these coroutines, with what each send comes to. Sends that
the invite registry's other users make are not modelled, only their calls. -/

namespace Ghostlink.Relay
open Collections Text Invites

abbrev ClientId := ℕ

def channelCapacity : ℕ := 2
def inviteProtocolVersion : ℕ := 3

structure Channel where
  channelId : String
  members : Dict ClientId String

def Channel.new (channelId : String) : Channel := ⟨channelId, Dict.empty⟩

def Channel.counterparty (ch : Channel) (client : ClientId) : Option (ClientId × String) :=
  ch.members.entries.find? fun member => member.1 ≠ client

structure ClientContext where
  session : Option String
  protocolVersion : ℕ
  closed : Option Bool
  attachments : Dict String String

inductive Packet
  | attached (channel role : String) (peers : ℕ)
  | redeemed (invite room : String) (expiresAt : Option Instant)
  | forward (channel body : String)
  | peer (channel event : String)
  | channelError (code message channel : String)
  | inviteError (code message invite : String)
  deriving DecidableEq

structure Send where
  target : ClientId
  packet : Packet
  deriving DecidableEq

/-- Where a client's coroutine waits: for a packet, at the last send of a handler, at a notice to
the peer (whose failure is ignored), at the send of ATTACHED or of REDEEMED, or, when the client is
gone, at the notice to the peer on a channel it has left, with the channels still to leave. -/
inductive Task
  | reading
  | answering
  | notifying
  | attaching (channel : String)
  | admitting (room : String)
  | leaving (rest : List String)
  deriving DecidableEq

structure RelayServer where
  clients : Dict ClientId ClientContext
  channels : Dict String Channel
  invites : InviteAuthority
  nextClientId : ClientId
  tasks : Dict ClientId Task

inductive Request
  | attach (channel role : String)
  | detach (channel : String)
  | forward (channel body : String)
  | redeem (token : String) (time later : Seconds)

inductive Event
  | connect
  | hello (client : ClientId) (session : String) (version : ℕ)
  | request (client : ClientId) (request : Request)
  | resume (client : ClientId) (sent : Bool)
  | hangup (client : ClientId)
  /-- The client's coroutine is cancelled where it waits, when the relay shuts down. -/
  | cancel (client : ClientId)
  | closes (client : ClientId)
  | registry (call : InviteAuthority.InviteCall)

namespace RelayServer
variable (s : RelayServer)

def start (invites : InviteAuthority) : RelayServer where
  clients := Dict.empty
  channels := Dict.empty
  invites
  nextClientId := 0
  tasks := Dict.empty

def updateContext (client : ClientId) (f : ClientContext → ClientContext) : RelayServer :=
  match s.clients.get? client with
  | none => s
  | some context => { s with clients := s.clients.set client (f context) }

def channelFull (channelId : String) : String :=
  s!"Channel {channelId} already has {channelCapacity} participants."

def attachMembership (client : ClientId) (channelId role : String) : RelayServer × Option String :=
  let channel := (s.channels.get? channelId).getD (.new channelId)
  if channel.members.contains client = false ∧ channelCapacity ≤ channel.members.size then
    (s, some (channelFull channelId))
  else
    let channel := { channel with members := channel.members.set client role }
    ({ s with channels := s.channels.set channelId channel }.updateContext client fun context =>
      { context with attachments := context.attachments.set channelId role }, none)

def notifyPeerJoined (client : ClientId) (channelId : String) : Option Send := do
  let channel ← s.channels.get? channelId
  let (other, _) ← channel.counterparty client
  let _ ← s.clients.get? other
  pure { target := other, packet := .peer channelId "joined" }

def notifyPeerLeft (channelId : String) : Option Send := do
  let channel ← s.channels.get? channelId
  let remaining ← channel.members.keys.head?
  let _ ← s.clients.get? remaining
  pure { target := remaining, packet := .peer channelId "left" }

def leaveChannel (client : ClientId) (channelId : String) : RelayServer × Option Send :=
  match s.channels.get? channelId with
  | none => (s, none)
  | some channel =>
    if channel.members.contains client = false then (s, none)
    else
      let channel := { channel with members := channel.members.erase client }
      let s := s.updateContext client fun context =>
        { context with attachments := context.attachments.erase channelId }
      if channel.members.size = 0 then
        ({ s with channels := s.channels.erase channelId }, none)
      else
        let s := { s with channels := s.channels.set channelId channel }
        (s, s.notifyPeerLeft channelId)

def leaveAll (client : ClientId) : List String → RelayServer → RelayServer × Option Send
  | [], s => ({ s with tasks := s.tasks.erase client }, none)
  | channelId :: rest, s =>
    match s.leaveChannel client channelId with
    | (s, some send) => ({ s with tasks := s.tasks.set client (.leaving rest) }, some send)
    | (s, none) => leaveAll client rest s

def detachClient (client : ClientId) : RelayServer × Option Send :=
  let attachments := (s.clients.get? client).elim [] fun context => context.attachments.keys
  leaveAll client attachments { s with clients := s.clients.erase client }

def waitAt (client : ClientId) (task : Task) : RelayServer :=
  { s with tasks := s.tasks.set client task }

def reply (client : ClientId) (packet : Packet) : RelayServer × Option Send :=
  (s.waitAt client .answering, some { target := client, packet })

def handleAttach (client : ClientId) (channelId role : String) : RelayServer × Option Send :=
  match s.attachMembership client channelId role with
  | (s, some message) => s.reply client (.channelError "relay/channel-full" message channelId)
  | (s, none) =>
    let others := (s.channels.get? channelId).elim 0 fun channel => channel.members.size - 1
    (s.waitAt client (.attaching channelId),
      some { target := client, packet := .attached channelId role others })

def notifying (client : ClientId) (notice : Option Send) : RelayServer × Option Send :=
  match notice with
  | none => (s.waitAt client .reading, none)
  | some send => (s.waitAt client .notifying, some send)

def handleDetach (client : ClientId) (context : ClientContext) (channelId : String) :
    RelayServer × Option Send :=
  if context.attachments.contains channelId = false then
    s.reply client (.channelError "relay/not-attached" s!"Not attached to channel {channelId}."
      channelId)
  else
    let (s, notice) := s.leaveChannel client channelId
    s.notifying client notice

def handleForward (client : ClientId) (channelId body : String) : RelayServer × Option Send :=
  match (s.channels.get? channelId).filter fun channel => channel.members.contains client with
  | none =>
    s.reply client (.channelError "relay/not-attached"
      s!"Attach to channel {channelId} before forwarding." channelId)
  | some channel =>
    match channel.counterparty client with
    | none =>
      s.reply client (.channelError "relay/no-peer"
        s!"No peer is attached to channel {channelId}; payload dropped." channelId)
    | some (other, _) =>
      match (s.clients.get? other).filter fun target => target.closed = some false with
      | none =>
        s.reply client (.channelError "relay/no-peer"
          s!"The peer on channel {channelId} is unreachable; payload dropped." channelId)
      | some _ =>
        (s.waitAt client .answering, some { target := other, packet := .forward channelId body })

def publicInviteId (S : InvitePrimitives) (token : String) : String :=
  match inviteIdForToken S (S.upper (strip token)) with
  | .ok inviteId => inviteId
  | .error _ =>
    inviteIdPrefix ++ takeChars 10 (toHex (S.sha256 (utf8Encode (S.upper (strip token)).toList)).toList)

def verdictCode : RedemptionVerdict → String
  | .unknown => "invite/unknown"
  | .expired => "invite/expired"
  | .revoked => "invite/revoked"
  | .alreadyUsed => "invite/already-used"
  | .redeemed => ""

def verdictMessage : RedemptionVerdict → String
  | .unknown => "The relay has no record of that invite."
  | .expired => "This invite has expired."
  | .revoked => "This invite was revoked by its creator."
  | .alreadyUsed => "This invite has already been used."
  | .redeemed => "Redeemed."

inductive Redemption
  | refused (code message invite : String)
  | admitted (invite room : String) (expiresAt : Option Instant)
  | group
  | raised
  deriving DecidableEq

def invitesSession (context : ClientContext) : String := context.session.getD "none"

/-- The part of `_handle_redeem` up to its first send: the invite is consumed, and then the client
is attached to its room. -/
def redeemChat (S : InvitePrimitives) (s : RelayServer) (client : ClientId)
    (context : ClientContext) (token : String) (time later : Seconds) : RelayServer × Redemption :=
  if context.protocolVersion < inviteProtocolVersion then
    (s, .refused "protocol/unsupported" "Invite operations require relay protocol v3."
      (publicInviteId S token))
  else
    match s.invites.lookup S token with
    | .error _ => (s, .raised)
    | .ok peek =>
      if peek.any fun peek => peek.kind = "group" then (s, .group)
      else
        let (invites, result) := s.invites.redeem S token (invitesSession context) time later
        let s := { s with invites }
        match result with
        | .error _ => (s, .raised)
        | .ok result =>
          match result.verdict, result.roomId with
          | .redeemed, some room =>
            match s.attachMembership client room "guest" with
            | (s, some message) => (s, .refused "invite/room-full" message result.inviteId)
            | (s, none) => (s, .admitted result.inviteId room result.expiresAt)
          | verdict, _ =>
            (s, .refused (verdictCode verdict) (verdictMessage verdict) result.inviteId)

def handleRedeem (S : InvitePrimitives) (s : RelayServer) (client : ClientId)
    (context : ClientContext) (token : String) (time later : Seconds) :
    RelayServer × Option Send :=
  match s.redeemChat S client context token time later with
  | (s, .refused code message invite) => s.reply client (.inviteError code message invite)
  | (s, .admitted invite room expiresAt) =>
    (s.waitAt client (.admitting room),
      some { target := client, packet := .redeemed invite room expiresAt })
  | (s, .group) => (s, none)
  | (s, .raised) => s.detachClient client

def handle (S : InvitePrimitives) (s : RelayServer) (client : ClientId) (context : ClientContext) :
    Request → RelayServer × Option Send
  | .attach channel role => s.handleAttach client channel role
  | .detach channel => s.handleDetach client context channel
  | .forward channel body => s.handleForward client channel body
  | .redeem token time later => s.handleRedeem S client context token time later

def resume (client : ClientId) (sent : Bool) : Task → RelayServer × Option Send
  | .reading => (s, none)
  | .answering => if sent then (s.waitAt client .reading, none) else s.detachClient client
  | .notifying => (s.waitAt client .reading, none)
  | .attaching channel =>
    if sent then s.notifying client (s.notifyPeerJoined client channel) else s.detachClient client
  | .admitting room =>
    if sent then
      let others := (s.channels.get? room).elim 0 fun channel => channel.members.size - 1
      (s.waitAt client (.attaching room),
        some { target := client, packet := .attached room "guest" others })
    else s.detachClient client
  | .leaving rest => leaveAll client rest s

def step (S : InvitePrimitives) (s : RelayServer) : Event → RelayServer × Option Send
  | .connect =>
    let client := s.nextClientId + 1
    let context : ClientContext :=
      { session := none, protocolVersion := 1, closed := none, attachments := Dict.empty }
    ({ s with clients := s.clients.set client context, nextClientId := client
              tasks := s.tasks.set client .reading }, none)
  | .hello client session version =>
    (s.updateContext client fun context =>
      { context with session := some session, protocolVersion := version, closed := some false },
      none)
  | .request client request =>
    match s.tasks.get? client, s.clients.get? client with
    | some .reading, some context => s.handle S client context request
    | _, _ => (s, none)
  | .resume client sent => (s.tasks.get? client).elim (s, none) fun task => s.resume client sent task
  | .hangup client =>
    match s.tasks.get? client with
    | some .reading => s.detachClient client
    | _ => (s, none)
  | .cancel client =>
    match s.tasks.get? client with
    | none => (s, none)
    | some (.leaving _) => ({ s with tasks := s.tasks.erase client }, none)
    | some _ => s.detachClient client
  | .closes client => (s.updateContext client fun context => { context with closed := some true }, none)
  | .registry call => ({ s with invites := s.invites.step S call }, none)

def run (S : InvitePrimitives) (s : RelayServer) (events : List Event) : RelayServer :=
  events.foldl (fun s e => (s.step S e).1) s

end RelayServer
end Ghostlink.Relay
