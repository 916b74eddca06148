import Ghostlink.Relay.Coherence

/-! A REDEEM consumes the invite first and then asks for a place in the invite's room. When the room
is full the answer is an error, and the redemption is spent. -/

namespace Ghostlink.Relay
open Collections Text Invites Option InviteAuthority
open InviteAuthority (plainInvites plainToken plainKey tokenKey plainRegistration find_eq)

namespace RelayServer

/-- A REDEEM by `client` of the invite `e` that stands under `key`, from `s` to `after`, with its
answer: the invite is counted exactly if it makes the client a member of the room, and an error
leaves it as it was. -/
structure AllOrNothing (s after : RelayServer) (answer : Option Send) (client : ClientId)
    (key : String) (e : Entry) : Prop where
  counted : ∀ e', after.invites.entries.get? key = some e' → e.redemptions < e'.redemptions →
    after.role? client e.roomId = some "guest"
  member : s.role? client e.roomId = none → after.role? client e.roomId ≠ none →
    ∃ e', after.invites.entries.get? key = some e' ∧ e'.redemptions = e.redemptions + 1
  refused : ∀ code message invite, answer = some ⟨client, .inviteError code message invite⟩ →
    after.invites.entries.get? key = some e

def NoPlace (s : RelayServer) (client : ClientId) (room : String) : Prop :=
  s.role? client room = none ∧
    ∃ channel, s.channels.get? room = some channel ∧ channelCapacity ≤ channel.members.size

section
variable {S : InvitePrimitives} {s : RelayServer} {client : ClientId} {context : ClientContext}
  {token key : String} {time later : Seconds} {e : Entry}

lemma noPlace_iff (s : RelayServer) (client room) : s.NoPlace client room ↔
      ((s.channels.get? room).getD (.new room)).members.contains client = false ∧
        channelCapacity ≤ ((s.channels.get? room).getD (.new room)).members.size := by
  cases found : s.channels.get? room with
  | none =>
    constructor
    · rintro ⟨-, channel, there, -⟩
      simp [found] at there
    · rintro ⟨-, full⟩
      exact absurd full (Nat.not_succ_le_zero 1)
  | some channel =>
    rw [NoPlace, role?, found, bind_some, getD_some, Dict.contains,
      isSome_eq_false_iff, isNone_iff_eq_none]
    constructor
    · rintro ⟨out, channel', there, full⟩
      cases there
      exact ⟨out, full⟩
    · rintro ⟨out, full⟩
      exact ⟨out, channel, rfl, full⟩

lemma role?_waitAt (task other place) :
    (s.waitAt client task).role? other place = s.role? other place := rfl

lemma updateContext_invites (f) :
    (s.updateContext client f).invites = s.invites := by
  rw [updateContext]
  split <;> rfl

lemma joined_invites (client channelId role) :
    (s.joined client channelId role).invites = s.invites :=
  updateContext_invites _

def redeeming (S : InvitePrimitives) (s : RelayServer) (context : ClientContext) (token : String)
    (time later : Seconds) : RelayServer :=
  { s with invites := (s.invites.redeem S token (invitesSession context) time later).1 }

section
variable (matched : tokenKey S token = .ok (some key))
include matched

section
variable {a : InviteAuthority} (held : a.entries.get? key = some e)
include held

lemma redeem_of_not_redeemable (session later) (closed : e.redeemable (a.read time) = false) :
    (a.redeem S token session time later).1.entries = a.entries ∧
      ∃ result, (a.redeem S token session time later).2 = .ok result ∧
        result.verdict ≠ .redeemed := by
  rw [redeem, find_eq matched, held, map_some]
  simp only
  split_ifs with revoked expired exhausted
  · exact ⟨rfl, _, rfl, by simp [reduceCtorEq]⟩
  · exact ⟨rfl, _, rfl, by simp [reduceCtorEq]⟩
  · exact ⟨rfl, _, rfl, by simp [reduceCtorEq]⟩
  · simp only [Entry.redeemable, revoked, expired, exhausted, Bool.not_false, Bool.and_self,
      Bool.true_eq_false] at closed

lemma redeem_of_redeemable (session later) (isOpen : e.redeemable (a.read time)) :
    (∃ e', (a.redeem S token session time later).1.entries.get? key = some e' ∧
        e'.redemptions = e.redemptions + 1) ∧
      (a.redeem S token session time later).2 =
        .ok { verdict := .redeemed, inviteId := e.inviteId, roomId := some e.roomId
              expiresAt := some e.expiresAt } := by
  simp only [Entry.redeemable, Bool.and_eq_true, Bool.not_eq_true'] at isOpen
  obtain ⟨⟨revoked, expired⟩, exhausted⟩ := isOpen
  simp only [redeem, find_eq matched, held, map_some,
    revoked, expired, exhausted, Bool.false_eq_true, if_false, Dict.get?_set_self, and_true]
  exact ⟨_, rfl, rfl⟩

end

variable (held : s.invites.entries.get? key = some e) (chat : e.kind ≠ "group")
include held chat

lemma lookup_chat : ∃ peek, s.invites.lookup S token = .ok peek ∧
    (peek.any fun peek => decide (peek.kind = "group")) = false := by
  refine ⟨some ⟨e.inviteId, e.kind, e.groupId, e.exhausted⟩, ?_, decide_eq_false chat⟩
  simp [lookup, find_eq matched, held]

lemma redeemChat_refused (version : inviteProtocolVersion ≤ context.protocolVersion)
    {result : RedemptionResult}
    (answer : (s.invites.redeem S token (invitesSession context) time later).2 = .ok result)
    (refused : result.verdict ≠ .redeemed) : s.redeemChat S client context token time later =
      (redeeming S s context token time later, .refused (verdictCode result.verdict)
        (verdictMessage result.verdict) result.inviteId) := by
  obtain ⟨peek, known, other⟩ := lookup_chat matched held chat
  simp only [redeemChat, if_neg (Nat.not_lt.mpr version), known, other, Bool.false_eq_true,
    if_false, answer]
  split
  · rename_i granted _
    exact absurd granted refused
  · rfl

lemma redeemChat_granted (version : inviteProtocolVersion ≤ context.protocolVersion)
    (isOpen : e.redeemable (s.invites.read time)) :
    s.redeemChat S client context token time later =
      ((redeeming S s context token time later).attachMembership client e.roomId "guest").map id
        fun full => full.elim (.admitted e.inviteId e.roomId (some e.expiresAt)) fun message =>
          .refused "invite/room-full" message e.inviteId := by
  obtain ⟨peek, known, other⟩ := lookup_chat matched held chat
  have answer := (redeem_of_redeemable matched held (invitesSession context) later isOpen).2
  simp only [redeemChat, if_neg (Nat.not_lt.mpr version), known, other, Bool.false_eq_true,
    if_false, answer]
  split
  · rename_i eq
    simp [redeeming, eq]
  · rename_i eq
    simp [redeeming, eq]

end

lemma step_redeem (waiting : s.tasks.get? client = some .reading)
    (connected : s.clients.get? client = some context) :
    s.step S (.request client (.redeem token time later)) =
      s.handleRedeem S client context token time later := by
  rw [step, waiting, connected]
  rfl

variable {t : RelayServer} {invite : String}

lemma handleRedeem_refused {code message}
    (done : s.redeemChat S client context token time later = (t, .refused code message invite)) :
    s.handleRedeem S client context token time later =
      (t.waitAt client .answering, some ⟨client, .inviteError code message invite⟩) := by
  rw [handleRedeem, done]
  rfl

lemma handleRedeem_admitted {room expiresAt}
    (done : s.redeemChat S client context token time later =
      (t, .admitted invite room expiresAt)) : s.handleRedeem S client context token time later =
      (t.waitAt client (.admitting room), some ⟨client, .redeemed invite room expiresAt⟩) := by
  rw [handleRedeem, done]

lemma AllOrNothing.of_unchanged {answer}
    (held : s.invites.entries.get? key = some e) (channels : t.channels = s.channels)
    (entries : t.invites.entries = s.invites.entries) : s.AllOrNothing t answer client key e where
  counted := by
    intro e' held' more
    rw [entries, held] at held'
    cases held'
    exact absurd more (lt_irrefl _)
  member := by
    intro out joined
    rw [role?, channels] at joined
    exact absurd out joined
  refused := by
    intro code message invite _
    rw [entries, held]

/-- A REDEEM of a chat invite is all or nothing unless the invite could be redeemed and its room
was full. -/
theorem redeem_all_or_nothing_iff (S : InvitePrimitives) (s : RelayServer) (client : ClientId)
    (context : ClientContext) (token key : String) (time later : Seconds) (e : Entry)
    (waiting : s.tasks.get? client = some .reading)
    (connected : s.clients.get? client = some context)
    (matched : tokenKey S token = .ok (some key))
    (held : s.invites.entries.get? key = some e) (chat : e.kind ≠ "group") :
    s.AllOrNothing (s.step S (.request client (.redeem token time later))).1
        (s.step S (.request client (.redeem token time later))).2 client key e ↔
      ¬ (inviteProtocolVersion ≤ context.protocolVersion ∧
        e.redeemable (s.invites.read time) ∧ s.NoPlace client e.roomId) := by
  rw [step_redeem waiting connected]
  by_cases version : inviteProtocolVersion ≤ context.protocolVersion
  · cases isOpen : e.redeemable (s.invites.read time) with
    | false =>
      obtain ⟨entries, result, answer, refused⟩ :=
        redeem_of_not_redeemable matched held (invitesSession context) later isOpen
      have done : s.redeemChat S client context token time later = _ :=
        redeemChat_refused matched held chat version answer refused
      rw [handleRedeem_refused done]
      refine iff_of_true (.of_unchanged held rfl entries) ?_
      rintro ⟨-, contrary, -⟩
      cases contrary
    | true =>
      obtain ⟨⟨e', held', count⟩, -⟩ :=
        redeem_of_redeemable matched held (invitesSession context) later isOpen
      have done : s.redeemChat S client context token time later = _ :=
        redeemChat_granted matched held chat version isOpen
      obtain ⟨attach, full⟩ | ⟨attach, room⟩ :=
        attachMembership_eq (s := redeeming S s context token time later) client e.roomId "guest"
      · -- the redemption is spent and the client is outside
        have out : s.NoPlace client e.roomId := (noPlace_iff s client e.roomId).mpr full
        rw [attach] at done
        rw [handleRedeem_refused done]
        refine iff_of_false (fun whole => ?_) (not_not.mpr ⟨version, rfl, out⟩)
        have member : s.role? client e.roomId = some "guest" :=
          whole.counted e' held' (count ▸ lt_add_one e.redemptions)
        simp [out.1] at member
      · have inside : ¬ s.NoPlace client e.roomId := by
          rwa [noPlace_iff, not_and_or, Bool.not_eq_false, Nat.not_le]
        rw [attach] at done
        rw [handleRedeem_admitted done]
        refine iff_of_true ?_ fun contrary => inside contrary.2.2
        exact
          { counted := by
              intro _ _ _
              rw [role?_waitAt, id, role?_joined, if_pos ⟨rfl, rfl⟩]
            member := by
              intro _ _
              refine ⟨e', ?_, count⟩
              rw [← held']
              exact congrArg (fun a : InviteAuthority => a.entries.get? key) (joined_invites ..)
            refused := by
              intro code message invite answer
              cases answer }
  · have done : s.redeemChat S client context token time later =
        (s, .refused "protocol/unsupported" "Invite operations require relay protocol v3."
          (publicInviteId S token)) := by
      rw [redeemChat, if_pos (Nat.not_le.mp version)]
    rw [handleRedeem_refused done]
    refine iff_of_true (.of_unchanged held rfl rfl) ?_
    rintro ⟨contrary, -⟩
    exact version contrary

def waitingRoom : RelayServer :=
  (start emptyAuthority).run plainInvites
    [.connect, .hello 1 "alice" 3, .connect, .hello 2 "bob" 3, .connect, .hello 3 "carol" 3,
      .registry (.register { plainRegistration with maxRedemptions := 1 } 0 0),
      .request 1 (.attach plainRegistration.roomId "host"), .resume 1 true]

def crowdedRoom : RelayServer :=
  waitingRoom.run plainInvites
    [.request 2 (.attach plainRegistration.roomId "guest"), .resume 2 true,
      .resume 2 true]

def soleEntry : Entry where
  inviteId := "gi_4141414141"
  tokenHash := plainKey
  roomId := plainRegistration.roomId
  createdAt := 0
  expiresAt := 60000000
  expiresMonotonic := 60
  maxRedemptions := 1
  redemptions := 0
  creatorSession := "alice"
  kind := "chat"
  groupId := ""
  boundSession := none
  revoked := false
  lastRedeemedAtMono := none

def guestContext (session : String) : ClientContext :=
  { session := some session, protocolVersion := 3, closed := some false, attachments := Dict.empty }

/-- Bob redeems the invite while there is a place. -/
theorem waitingRoom_all_or_nothing :
    waitingRoom.AllOrNothing
      (waitingRoom.step plainInvites (.request 2 (.redeem plainToken 1 1))).1
      (waitingRoom.step plainInvites (.request 2 (.redeem plainToken 1 1))).2
      2 plainKey soleEntry := by
  have facts : waitingRoom.tasks.get? 2 = some .reading ∧
      tokenKey plainInvites plainToken = .ok (some plainKey) ∧
      waitingRoom.invites.entries.get? plainKey = some soleEntry ∧
      ((waitingRoom.channels.get? soleEntry.roomId).getD
        (.new soleEntry.roomId)).members.size < channelCapacity := by
    decide +kernel
  apply (redeem_all_or_nothing_iff plainInvites waitingRoom 2
    (guestContext "bob") plainToken plainKey 1 1 soleEntry
    facts.1 rfl facts.2.1 facts.2.2.1 (by decide)).mpr
  rw [noPlace_iff]
  exact fun full => absurd full.2.2.2 (Nat.not_le.mpr facts.2.2.2)

/-- Carol's redemption of the only use is answered with an error, and the invite is used up. -/
theorem crowdedRoom_spends_invite :
    crowdedRoom.tasks.get? 3 = some .reading ∧
      crowdedRoom.invites.entries.get? plainKey = some soleEntry ∧
      soleEntry.redeemable (crowdedRoom.invites.read 1) ∧
      (crowdedRoom.step plainInvites (.request 3 (.redeem plainToken 1 1))).2 =
          some ⟨3, .inviteError "invite/room-full"
            "Channel gl-room-AAAA-AAAA-AAAA already has 2 participants." "gi_4141414141"⟩ ∧
      ((crowdedRoom.step plainInvites (.request 3 (.redeem plainToken 1 1))).1.invites.entries.get?
          plainKey).any Entry.exhausted ∧
      ¬ crowdedRoom.AllOrNothing
        (crowdedRoom.step plainInvites (.request 3 (.redeem plainToken 1 1))).1
        (crowdedRoom.step plainInvites (.request 3 (.redeem plainToken 1 1))).2
        3 plainKey soleEntry := by
  refine ⟨by decide +kernel, by decide +kernel, by decide +kernel, by decide +kernel,
    by decide +kernel, fun whole => ?_⟩
  have kept := whole.refused "invite/room-full"
    "Channel gl-room-AAAA-AAAA-AAAA already has 2 participants." "gi_4141414141" (by decide +kernel)
  exact absurd (congrArg (·.any Entry.exhausted) kept) (by decide +kernel)

end

end RelayServer
end Ghostlink.Relay
