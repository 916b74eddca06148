import Ghostlink.Relay.Channels

/-! Who is on a channel is kept twice, by the channel and by the client. However the coroutines of
the relay are interleaved, the two agree for every connected client, no channel is empty or has
more than two members, and a FORWARD goes to nobody but the other member. -/

namespace Ghostlink.Relay
open Collections Text Invites List Option Dict

namespace RelayServer

def role? (s : RelayServer) (client : ClientId) (channelId : String) : Option String :=
  (s.channels.get? channelId).bind fun channel => channel.members.get? client

/-- Every channel has one or two members, and what a connected client is attached to is what
lists it as a member, with the same role. -/
structure Coherent (s : RelayServer) : Prop where
  sizes : ∀ channelId channel, s.channels.get? channelId = some channel →
    1 ≤ channel.members.size ∧ channel.members.size ≤ channelCapacity
  attached : ∀ client context, s.clients.get? client = some context →
    ∀ channelId, context.attachments.get? channelId = s.role? client channelId

structure Sound (s : RelayServer) : Prop extends s.Coherent where
  membersKnown : ∀ client channelId role, s.role? client channelId = some role →
    client ≤ s.nextClientId
  clientsKnown : ∀ client context, s.clients.get? client = some context → client ≤ s.nextClientId

section
variable {s t : RelayServer} {client : ClientId} {channelId role : String}

lemma sound_start (invites) : (start invites).Sound where
  sizes := by
    intro channelId channel found
    cases found
  attached := by
    intro client context found
    cases found
  membersKnown := by
    intro client channelId role found
    cases found
  clientsKnown := by
    intro client context found
    cases found

lemma Sound.congr (h : s.Sound) (clients : t.clients = s.clients)
    (channels : t.channels = s.channels) (next : t.nextClientId = s.nextClientId) : t.Sound where
  sizes := by
    rw [channels]
    exact h.sizes
  attached := by
    intro client context found channelId
    rw [clients] at found
    rw [role?, channels]
    exact h.attached client context found channelId
  membersKnown := by
    intro client channelId role found
    rw [role?, channels] at found
    rw [next]
    exact h.membersKnown client channelId role found
  clientsKnown := by
    rw [clients, next]
    exact h.clientsKnown

lemma Sound.waitAt (h : s.Sound) (client task) :
    (s.waitAt client task).Sound := h.congr rfl rfl rfl

variable (f : ClientContext → ClientContext) (S : InvitePrimitives)

@[simp] lemma updateContext_channels : (s.updateContext client f).channels = s.channels := by
  rw [updateContext]
  split <;> rfl

@[simp] lemma updateContext_nextClientId :
    (s.updateContext client f).nextClientId = s.nextClientId := by
  rw [updateContext]
  split <;> rfl

lemma get?_updateContext (other) : (s.updateContext client f).clients.get? other =
      if other = client then (s.clients.get? client).map f else s.clients.get? other := by
  rw [updateContext]
  cases found : s.clients.get? client with
  | none =>
    split_ifs with same
    · simp [same, found]
    · rfl
  | some =>
    rw [map_some]
    exact get?_set ..

lemma Sound.updateContext (h : s.Sound) {f}
    (same : ∀ context, (f context).attachments = context.attachments) :
    (s.updateContext client f).Sound where
  sizes := by
    rw [updateContext_channels]
    exact h.sizes
  attached := by
    intro other context found channelId
    rw [role?, updateContext_channels]
    rw [get?_updateContext] at found
    split_ifs at found with this
    · obtain ⟨before, known, rfl⟩ := map_eq_some_iff.mp found
      rw [same, this]
      exact h.attached client before known channelId
    · exact h.attached other context found channelId
  membersKnown := by
    intro other channelId role found
    rw [role?, updateContext_channels] at found
    rw [updateContext_nextClientId]
    exact h.membersKnown other channelId role found
  clientsKnown := by
    intro other context found
    rw [updateContext_nextClientId]
    rw [get?_updateContext] at found
    split_ifs at found with this
    · obtain ⟨before, known, -⟩ := map_eq_some_iff.mp found
      rw [this]
      exact h.clientsKnown client before known
    · exact h.clientsKnown other context found

def joined (s : RelayServer) (client : ClientId) (channelId role : String) : RelayServer :=
  let channel := (s.channels.get? channelId).getD (.new channelId)
  { s with
    channels := s.channels.set channelId
      { channel with members := channel.members.set client role } }.updateContext client
    fun context => { context with attachments := context.attachments.set channelId role }

lemma role?_joined (other place) : (s.joined client channelId role).role? other place =
      if place = channelId ∧ other = client then some role else s.role? other place := by
  rw [role?, joined, updateContext_channels, get?_set, role?]
  by_cases here : place = channelId
  · subst here
    rw [if_pos rfl, bind_some, get?_set]
    by_cases this : other = client
    · rw [if_pos this, if_pos ⟨rfl, this⟩]
    · rw [if_neg this, if_neg fun both => this both.2]
      cases s.channels.get? place with
      | none | some => rfl
  · rw [if_neg here, if_neg fun both => here both.1]

lemma attachMembership_eq (client channelId role) :
    s.attachMembership client channelId role = (s, some (channelFull channelId)) ∧
        ((s.channels.get? channelId).getD (.new channelId)).members.contains client = false ∧
        channelCapacity ≤ ((s.channels.get? channelId).getD (.new channelId)).members.size ∨
      s.attachMembership client channelId role = (s.joined client channelId role, none) ∧
        (((s.channels.get? channelId).getD (.new channelId)).members.contains client ∨
          ((s.channels.get? channelId).getD (.new channelId)).members.size < channelCapacity) := by
  simp only [attachMembership]
  split_ifs with full
  · exact .inl ⟨rfl, full⟩
  · refine .inr ⟨rfl, ?_⟩
    rwa [not_and_or, Bool.not_eq_false, Nat.not_le] at full

lemma Sound.joined (h : s.Sound) {context} (connected : s.clients.get? client = some context)
    (room : ((s.channels.get? channelId).getD (.new channelId)).members.contains client ∨
      ((s.channels.get? channelId).getD (.new channelId)).members.size < channelCapacity) :
    (s.joined client channelId role).Sound where
  sizes := by
    intro place channel found
    rw [RelayServer.joined, updateContext_channels, get?_set] at found
    split_ifs at found with here
    · cases found
      have least : ((s.channels.get? channelId).getD (.new channelId)).members.size ≤
          channelCapacity := by
        cases there : s.channels.get? channelId with
        | none => exact Nat.zero_le _
        | some channel => exact (h.sizes channelId channel there).2
      generalize ((s.channels.get? channelId).getD (.new channelId)).members = members at room least
      cases present : members.get? client with
      | none =>
        rw [size_set_of_none _ _ present]
        refine ⟨Nat.le_add_left .., room.resolve_left fun contains => ?_⟩
        simp [Dict.contains, present] at contains
      | some before =>
        rw [size_set_of_some _ _ present]
        refine ⟨Nat.one_le_iff_ne_zero.mpr fun empty => ?_, least⟩
        have mem := (get?_eq_some_iff members client before).mp present
        simp [length_eq_zero_iff.mp empty] at mem
    · exact h.sizes place channel found
  attached := by
    intro other context found place
    rw [role?_joined]
    rw [RelayServer.joined, get?_updateContext] at found
    split_ifs at found with this
    · obtain ⟨before, known, rfl⟩ := map_eq_some_iff.mp found
      have old := h.attached client before known place
      rw [get?_set, this]
      by_cases here : place = channelId
      · rw [if_pos here, if_pos ⟨here, rfl⟩]
      · rwa [if_neg here, if_neg fun both => here both.1]
    · rw [if_neg fun both => this both.2]
      exact h.attached other context found place
  membersKnown := by
    intro other place role' found
    rw [RelayServer.joined, updateContext_nextClientId]
    rw [role?_joined] at found
    split_ifs at found with this
    · rw [this.2]
      exact h.clientsKnown client context connected
    · exact h.membersKnown other place role' found
  clientsKnown := by
    intro other context' found
    rw [RelayServer.joined, updateContext_nextClientId]
    rw [RelayServer.joined, get?_updateContext] at found
    split_ifs at found with this
    · rw [this]
      exact h.clientsKnown client context connected
    · exact h.clientsKnown other context' found

lemma Sound.attachMembership (h : s.Sound) {context}
    (connected : s.clients.get? client = some context) (channelId role) :
    (s.attachMembership client channelId role).1.Sound := by
  obtain ⟨full, -⟩ | ⟨done, room⟩ := attachMembership_eq client channelId role
  · rwa [full]
  · rw [done]
    exact h.joined connected room

def left (s : RelayServer) (client : ClientId) (channelId : String) (channel : Channel) :
    RelayServer :=
  let channel := { channel with members := channel.members.erase client }
  let s := s.updateContext client fun context =>
    { context with attachments := context.attachments.erase channelId }
  if channel.members.size = 0 then { s with channels := s.channels.erase channelId }
  else { s with channels := s.channels.set channelId channel }

lemma leaveChannel_eq (client channelId) : s.leaveChannel client channelId = (s, none) ∨
      ∃ channel, s.channels.get? channelId = some channel ∧
        channel.members.contains client ∧
        (s.leaveChannel client channelId).1 = s.left client channelId channel := by
  rw [leaveChannel]
  cases found : s.channels.get? channelId with
  | none => exact .inl rfl
  | some channel =>
    simp only
    split_ifs with out last
    · exact .inl rfl
    · refine .inr ⟨channel, rfl, Bool.eq_true_of_not_eq_false out, ?_⟩
      rw [left]
      simp [if_pos last]
    · refine .inr ⟨channel, rfl, Bool.eq_true_of_not_eq_false out, ?_⟩
      rw [left]
      simp [if_neg last]

lemma get?_channels_left (place) (channel : Channel) :
    (s.left client channelId channel).channels.get? place =
      if place = channelId then
        if (channel.members.erase client).size = 0 then none
        else some { channel with members := channel.members.erase client }
      else s.channels.get? place := by
  by_cases last : (channel.members.erase client).size = 0
  · simp only [left, if_pos last, updateContext_channels]
    exact get?_erase ..
  · simp only [left, if_neg last, updateContext_channels]
    exact get?_set ..

lemma get?_clients_left (other channel) : (s.left client channelId channel).clients.get? other =
      if other = client then (s.clients.get? client).map fun context =>
        { context with attachments := context.attachments.erase channelId }
      else s.clients.get? other := by
  rw [left]
  split_ifs <;> simp_all only [get?_updateContext, if_true, if_false]

lemma nextClientId_left (channel) :
    (s.left client channelId channel).nextClientId = s.nextClientId := by
  rw [left]
  split_ifs <;> exact updateContext_nextClientId _

lemma get?_of_size_eq_zero {members : Dict ClientId String} (empty : members.size = 0)
    (other) : members.get? other = none := by
  cases found : members.get? other with
  | none => rfl
  | some role =>
    have mem := (get?_eq_some_iff members other role).mp found
    simp [length_eq_zero_iff.mp empty] at mem

variable {channel : Channel}

lemma role?_left (found : s.channels.get? channelId = some channel) (other place) :
    (s.left client channelId channel).role? other place =
      if place = channelId ∧ other = client then none else s.role? other place := by
  rw [role?, get?_channels_left, role?]
  by_cases here : place = channelId
  · subst here
    rw [if_pos rfl, found, bind_some]
    have erased := get?_erase channel.members client other
    split_ifs with last both both
    · rfl
    · rw [bind_none, ← get?_of_size_eq_zero last other, erased,
        if_neg fun this => both ⟨rfl, this⟩]
    · rw [bind_some, erased, if_pos both.2]
    · rw [bind_some, erased, if_neg fun this => both ⟨rfl, this⟩]
  · rw [if_neg here, if_neg fun both => here both.1]

lemma Sound.left (h : s.Sound) (found : s.channels.get? channelId = some channel) :
    (s.left client channelId channel).Sound where
  sizes := by
    intro place channel' known
    rw [get?_channels_left] at known
    split_ifs at known with here last
    · cases known
      have before := (h.sizes channelId channel found).2
      have less : (channel.members.erase client).size ≤ channel.members.size :=
        size_erase_le ..
      exact ⟨Nat.one_le_iff_ne_zero.mpr last, less.trans before⟩
    · exact h.sizes place channel' known
  attached := by
    intro other context known place
    rw [role?_left found]
    rw [get?_clients_left] at known
    split_ifs at known with this
    · obtain ⟨before, connected, rfl⟩ := map_eq_some_iff.mp known
      have old := h.attached client before connected place
      rw [get?_erase, this]
      by_cases here : place = channelId
      · rw [if_pos here, if_pos ⟨here, rfl⟩]
      · rwa [if_neg here, if_neg fun both => here both.1]
    · rw [if_neg fun both => this both.2]
      exact h.attached other context known place
  membersKnown := by
    intro other place role known
    rw [nextClientId_left]
    rw [role?_left found] at known
    split_ifs at known with this
    exact h.membersKnown other place role known
  clientsKnown := by
    intro other context known
    rw [nextClientId_left]
    rw [get?_clients_left] at known
    split_ifs at known with this
    · obtain ⟨before, connected, -⟩ := map_eq_some_iff.mp known
      rw [this]
      exact h.clientsKnown client before connected
    · exact h.clientsKnown other context known

lemma Sound.leaveChannel (h : s.Sound) (client channelId) :
    (s.leaveChannel client channelId).1.Sound := by
  obtain out | ⟨channel, found, -, done⟩ := leaveChannel_eq client channelId
  · rwa [out]
  · rw [done]
    exact h.left found

lemma Sound.leaveAll (client rest) :
    ∀ {s : RelayServer}, s.Sound → (leaveAll client rest s).1.Sound := by
  induction rest with
  | nil =>
    intro s h
    exact h.congr rfl rfl rfl
  | cons channelId rest ih =>
    intro s h
    have next := h.leaveChannel client channelId
    rw [RelayServer.leaveAll]
    split
    · rename_i after send eq
      rw [eq] at next
      exact next.congr rfl rfl rfl
    · rename_i after eq
      rw [eq] at next
      exact ih next

section
variable (h : s.Sound)
include h

lemma Sound.detachClient (client) : (s.detachClient client).1.Sound := by
  rw [RelayServer.detachClient]
  apply Sound.leaveAll
  have remains : ∀ other context, (s.clients.erase client).get? other = some context →
      s.clients.get? other = some context := fun _ _ => get?_of_erase
  exact
    { sizes := h.sizes
      attached := fun other context known => h.attached other context (remains other context known)
      membersKnown := h.membersKnown
      clientsKnown := fun other context known =>
        h.clientsKnown other context (remains other context known) }

lemma Sound.notifying (client notice) : (s.notifying client notice).1.Sound := by
  cases notice with
  | none | some => exact h.waitAt ..

lemma Sound.redeemChat {context}
    (connected : s.clients.get? client = some context) (token time later) :
    (s.redeemChat S client context token time later).1.Sound := by
  rw [RelayServer.redeemChat]
  split_ifs
  · exact h
  split
  · exact h
  split_ifs
  · exact h
  -- consuming the invite changes the registry only
  have consumed : ({ s with
      invites := (s.invites.redeem S token (invitesSession context) time later).1 } :
      RelayServer).Sound := h.congr rfl rfl rfl
  simp only
  split
  · exact consumed
  · split
    · rename_i room _ _
      have next := Sound.attachMembership consumed connected room "guest"
      split
      · rename_i eq
        rwa [eq] at next
      · rename_i eq
        rwa [eq] at next
    · exact consumed

lemma Sound.handle {context} (connected : s.clients.get? client = some context) (request) :
    (s.handle S client context request).1.Sound := by
  cases request with
  | attach channel role =>
    have next := h.attachMembership connected channel role
    rw [RelayServer.handle, handleAttach]
    split
    · rename_i eq
      rw [eq] at next
      exact next.waitAt ..
    · rename_i eq
      rw [eq] at next
      exact next.waitAt ..
  | detach channel =>
    rw [RelayServer.handle, handleDetach]
    split_ifs
    · exact h.waitAt ..
    · exact (h.leaveChannel client channel).notifying ..
  | forward =>
    rw [RelayServer.handle, handleForward]
    split
    · exact h.waitAt ..
    split
    · exact h.waitAt ..
    split
    · exact h.waitAt ..
    · exact h.waitAt ..
  | redeem token time later =>
    have next := h.redeemChat S connected token time later
    rw [RelayServer.handle, handleRedeem]
    split
    all_goals
      rename_i eq
      rw [eq] at next
    · exact next.waitAt ..
    · exact next.waitAt ..
    · exact next
    · exact next.detachClient client

lemma Sound.resume (client sent task) : (s.resume client sent task).1.Sound := by
  cases task with
  | reading => exact h
  | answering | admitting =>
    rw [RelayServer.resume]
    split_ifs
    · exact h.waitAt ..
    · exact h.detachClient client
  | notifying => exact h.waitAt ..
  | attaching =>
    rw [RelayServer.resume]
    split_ifs
    · exact h.notifying ..
    · exact h.detachClient client
  | leaving rest => exact Sound.leaveAll client rest h

lemma Sound.connect : (s.step S .connect).1.Sound where
  sizes := h.sizes
  attached := by
    intro other context known place
    rcases get?_of_set known with ⟨this, rfl⟩ | ⟨-, known⟩
    · cases listed : s.role? other place with
      | none => exact listed.symm
      | some role =>
        have old := h.membersKnown other place role listed
        rw [this] at old
        exact absurd old (Nat.not_succ_le_self _)
    · exact h.attached other context known place
  membersKnown := by
    intro other place role known
    exact Nat.le_succ_of_le (h.membersKnown other place role known)
  clientsKnown := by
    intro other context known
    rw [step, get?_set] at known
    split_ifs at known with this
    · exact this.le
    · exact Nat.le_succ_of_le (h.clientsKnown other context known)

lemma sound_step (e) : (s.step S e).1.Sound := by
  cases e with
  | connect => exact h.connect S
  | hello | closes => exact h.updateContext fun _ => rfl
  | request client request =>
    rw [step]
    split
    · rename_i connected
      exact h.handle S connected request
    · exact h
  | resume client sent =>
    rw [step]
    cases s.tasks.get? client with
    | none => exact h
    | some task => exact h.resume client sent task
  | hangup client =>
    rw [step]
    split
    · exact h.detachClient client
    · exact h
  | cancel client =>
    rw [step]
    split
    · exact h
    · exact h.congr rfl rfl rfl
    · exact h.detachClient client
  | registry => exact h.congr rfl rfl rfl

lemma sound_run (events) : (s.run S events).Sound := by
  induction events generalizing s with
  | nil => exact h
  | cons e events ih => exact ih (sound_step S h e)

end

def Isolated (S : InvitePrimitives) (s : RelayServer) : Prop :=
  ∀ e send channelId body, (s.step S e).2 = some send → send.packet = .forward channelId body →
    ∃ client channel, e = .request client (.forward channelId body) ∧
      s.channels.get? channelId = some channel ∧ send.target ≠ client ∧
      ∀ other, channel.members.contains other ↔ other = client ∨ other = send.target

def isForward : Packet → Bool
  | .forward _ _ => true
  | _ => false

def Quiet (send : Option Send) : Prop := ∀ sent ∈ send, isForward sent.packet = false

lemma quiet_none : Quiet none := by
  intro sent mem
  cases mem

lemma quiet_some {send : Send} (other : isForward send.packet = false) : Quiet (some send) := by
  intro sent mem
  cases mem
  exact other

lemma quiet_bind {α : Type*} (x : Option α) {f} (each : ∀ a, Quiet (f a)) :
    Quiet (x.bind f) := by
  cases x with
  | none => exact quiet_none
  | some a => exact each a

lemma quiet_notifyPeerJoined (client channelId) :
    Quiet (s.notifyPeerJoined client channelId) := by
  apply quiet_bind
  intro channel
  apply quiet_bind
  intro member
  apply quiet_bind
  intro context
  exact quiet_some rfl

lemma quiet_notifyPeerLeft (channelId) : Quiet (s.notifyPeerLeft channelId) := by
  apply quiet_bind
  intro channel
  apply quiet_bind
  intro member
  apply quiet_bind
  intro context
  exact quiet_some rfl

lemma quiet_leaveChannel (client channelId) : Quiet (s.leaveChannel client channelId).2 := by
  rw [leaveChannel]
  split
  · exact quiet_none
  simp only
  split_ifs
  · exact quiet_none
  · exact quiet_none
  · exact quiet_notifyPeerLeft channelId

lemma quiet_leaveAll (client rest) : ∀ s : RelayServer, Quiet (leaveAll client rest s).2 := by
  induction rest with
  | nil =>
    intro s
    exact quiet_none
  | cons channelId rest ih =>
    intro s
    have first := quiet_leaveChannel (s := s) client channelId
    rw [leaveAll]
    split
    · rename_i eq
      rwa [eq] at first
    · exact ih _

lemma quiet_detachClient (client) : Quiet (s.detachClient client).2 :=
  quiet_leaveAll client _ _

lemma quiet_notifying {notice} (quiet : Quiet notice) : Quiet (s.notifying client notice).2 := by
  cases notice with
  | none => exact quiet_none
  | some => exact quiet

lemma quiet_resume (client sent task) : Quiet (s.resume client sent task).2 := by
  cases task with
  | reading | notifying => exact quiet_none
  | answering =>
    rw [resume]
    split_ifs
    · exact quiet_none
    · exact quiet_detachClient client
  | attaching channel =>
    rw [resume]
    split_ifs
    · exact quiet_notifying (quiet_notifyPeerJoined client channel)
    · exact quiet_detachClient client
  | admitting =>
    rw [resume]
    split_ifs
    · exact quiet_some rfl
    · exact quiet_detachClient client
  | leaving rest => exact quiet_leaveAll client rest s

lemma quiet_handleAttach (client channelId role) :
    Quiet (s.handleAttach client channelId role).2 := by
  rw [handleAttach]
  split
  · exact quiet_some rfl
  · exact quiet_some rfl

lemma quiet_handleDetach (client context channelId) :
    Quiet (s.handleDetach client context channelId).2 := by
  rw [handleDetach]
  split_ifs
  · exact quiet_some rfl
  · exact quiet_notifying (quiet_leaveChannel client channelId)

lemma quiet_handleRedeem (client context token time later) :
    Quiet (s.handleRedeem S client context token time later).2 := by
  rw [handleRedeem]
  split
  · exact quiet_some rfl
  · exact quiet_some rfl
  · exact quiet_none
  · exact quiet_detachClient client

lemma members_of_counterparty {other} (small : channel.members.size ≤ channelCapacity)
    (member : channel.members.contains client)
    (found : channel.counterparty client = some (other, role)) : other ≠ client ∧
      ∀ c, channel.members.contains c ↔ c = client ∨ c = other := by
  have listed (c : ClientId) : channel.members.contains c ↔ c ∈ channel.members.keys := by
    rw [Dict.contains, isSome_iff_ne_none, ne_eq, get?_eq_none_iff, not_not]
  have differs : other ≠ client := by
    have passed := find?_some found
    exact of_decide_eq_true passed
  have present : other ∈ channel.members.keys :=
    mem_map_of_mem (mem_of_find?_eq_some found)
  rw [listed] at member
  refine ⟨differs, fun c => ?_⟩
  rw [listed]
  have short : channel.members.keys.length ≤ 2 := by
    rwa [Dict.keys, length_map]
  generalize channel.members.keys = keys at *
  cases keys with
  | nil => cases member
  | cons a rest =>
    cases rest with
    | nil =>
      rw [mem_singleton] at member present
      exact absurd (present.trans member.symm) differs
    | cons b rest =>
      have last : rest = [] := by
        rw [length_cons, length_cons] at short
        exact eq_nil_of_length_eq_zero (by omega)
      simp only [last, mem_cons, not_mem_nil, or_false] at member present ⊢
      grind

lemma handleForward_send {send : Send} {text body place}
    (sent : (s.handleForward client place text).2 = some send)
    (packet : send.packet = .forward channelId body) :
    (channelId = place ∧ body = text) ∧ ∃ channel role,
      s.channels.get? place = some channel ∧ channel.members.contains client ∧
      channel.counterparty client = some (send.target, role) := by
  rw [handleForward] at sent
  split at sent
  · cases sent
    cases packet
  · rename_i channel found
    obtain ⟨known, member⟩ := filter_eq_some_iff.mp found
    split at sent
    · cases sent
      cases packet
    · rename_i other role peer
      split at sent
      · cases sent
        cases packet
      · cases sent
        cases packet
        exact ⟨⟨rfl, rfl⟩, channel, role, known, member, peer⟩

lemma Sound.isolated (h : s.Sound) : s.Isolated S := by
  intro e send channelId body sent packet
  -- every other source of packets is quiet
  have loud : ¬ Quiet (s.step S e).2 := by
    intro quiet
    have other := quiet send sent
    rw [packet] at other
    cases other
  cases e with
  | connect | hello | closes | registry => exact absurd quiet_none loud
  | resume client answer =>
    rw [step] at loud
    cases task : s.tasks.get? client with
    | none =>
      rw [task] at loud
      exact absurd quiet_none loud
    | some task' =>
      rw [task] at loud
      exact absurd (quiet_resume client answer task') loud
  | hangup client =>
    rw [step] at loud
    split at loud
    · exact absurd (quiet_detachClient client) loud
    · exact absurd quiet_none loud
  | cancel client =>
    rw [step] at loud
    split at loud
    · exact absurd quiet_none loud
    · exact absurd quiet_none loud
    · exact absurd (quiet_detachClient client) loud
  | request client request =>
    rw [step] at loud sent
    split at loud
    case h_2 => exact absurd quiet_none loud
    cases request with
    | attach channel role => exact absurd (quiet_handleAttach client channel role) loud
    | detach channel => exact absurd (quiet_handleDetach client _ channel) loud
    | redeem token time later =>
      exact absurd (quiet_handleRedeem S client _ token time later) loud
    | forward =>
      split at sent
      case h_2 => cases sent
      obtain ⟨⟨rfl, rfl⟩, channel, role, known, member, peer⟩ := handleForward_send sent packet
      have small := (h.sizes channelId channel known).2
      obtain ⟨differs, all⟩ := members_of_counterparty small member peer
      exact ⟨client, channel, rfl, known, differs, all⟩

end

/-- However the relay's coroutines are interleaved. -/
theorem channels_coherent_and_isolated (S : InvitePrimitives) (invites : InviteAuthority)
    (events : List Event) :
    ((start invites).run S events).Coherent ∧ ((start invites).run S events).Isolated S := by
  have sound := sound_run S (sound_start invites) events
  exact ⟨sound.toCoherent, sound.isolated S⟩

end RelayServer
end Ghostlink.Relay
