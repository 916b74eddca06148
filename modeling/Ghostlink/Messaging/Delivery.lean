import Ghostlink.Messaging.Handshake
import Ghostlink.Messaging.Outbox

/-! The sending half of a chat session: the pump that delivers the messages of the outbox one
after the other, and everything that happens to the outbox meanwhile. The pump is suspended at
one of its awaits, and resuming it with what that await gave runs it up to the next one, so a
list of actions is an interleaving. What a frame seals has no part in it. -/

namespace Ghostlink.Messaging
open Collections Outbox

inductive ConnectionState
  | reconnecting | connected | disconnected | closed
  deriving DecidableEq, Repr

/-- Where the pump waits: for the link, in the send, or for the acknowledgement. It holds the
message as it took it from the queue and the number of attempts left after this one. -/
inductive PumpPoint
  | starting
  | waiting (m : Message) (left : ℕ)
  | sending (m : Message) (left waiter : ℕ)
  | acking (m : Message) (left waiter : ℕ) (timedOut : Bool)
  deriving DecidableEq

inductive PumpOutcome
  | started | woken | forwarded | transportError | acked | timedOut | cancelled
  deriving DecidableEq, Repr

structure ChatSender where
  resendAttempts : ℕ
  outbox : Outbox
  nextSequence : ℕ
  next_pos : 1 ≤ nextSequence
  secure : Bool
  sessionKey : Option Key
  ready : Bool
  peerPresent : Bool
  transportUsable : Bool
  closing : Bool
  pump : Option PumpPoint

namespace ChatSender
variable (s : ChatSender)

def start (resendAttempts : ℕ) : ChatSender :=
  { resendAttempts, outbox := .empty, nextSequence := 1, next_pos := first_sequence_pos,
    secure := false, sessionKey := none, ready := false, peerPresent := false,
    transportUsable := false, closing := false, pump := none }

def status? (id : MessageId) : Option MessageStatus := s.outbox.status? id

def withOutbox (o : Outbox) : ChatSender := { s with outbox := o }

def suspend (point : PumpPoint) : ChatSender := { s with pump := some point }

def sendable : Bool := s.ready && s.peerPresent && s.transportUsable

def giveUp (m : Message) : ChatSender :=
  s.withOutbox ((s.outbox.dropAckWaiter m.messageId).markFailed m.messageId
    "no delivery acknowledgement from the peer")

def tryAttempts (s : ChatSender) (m : Message) : ℕ → ChatSender × Bool
  | 0 => (s.giveUp m, false)
  | left + 1 =>
    if s.closing then (s.withOutbox (s.outbox.toQueued m.messageId), false)
    else if ¬ s.sendable then (s.suspend (.waiting m left), true)
    else if s.sessionKey.isNone then s.tryAttempts m left
    else
      let (waiter, o) := s.outbox.registerAckWaiter m.messageId
      ((s.withOutbox o).suspend (.sending m left waiter), true)

/-- The loop up to its end or an await; `none` when the rounds given are used up. -/
def pumpLoop (s : ChatSender) : ℕ → Option ChatSender
  | 0 => none
  | rounds + 1 =>
    if s.closing then some { s with pump := none }
    else
      match s.outbox.nextQueued with
      | (none, o) => some { s.withOutbox o with pump := none }
      | (some m, o) =>
        let (s, suspended) := (s.withOutbox o).tryAttempts m s.resendAttempts
        if suspended then some s else s.pumpLoop rounds

def pumpOn : ChatSender := (s.pumpLoop (s.outbox.queued.length + 1)).getD s

def proceed (r : ChatSender × Bool) : ChatSender := if r.2 then r.1 else r.1.pumpOn

def retry (m : Message) (left : ℕ) : ChatSender :=
  proceed ((s.withOutbox (s.outbox.dropAckWaiter m.messageId)).tryAttempts m left)

def resumePump (point : PumpPoint) (outcome : PumpOutcome) : ChatSender :=
  match point, outcome with
  | .starting, .started => s.pumpOn
  | .waiting m left, .woken => proceed (s.tryAttempts m (left + 1))
  | .sending m left waiter, .forwarded =>
    (s.withOutbox (s.outbox.markSent m.messageId)).suspend (.acking m left waiter false)
  | .sending m left _, .transportError => s.retry m left
  | .acking _ _ waiter _, .acked =>
    match s.outbox.futures.get? waiter with
    | some (.result _) => s.pumpOn
    | _ => s
  | .acking m left _ timedOut, .timedOut => if timedOut then s.retry m left else s
  | .acking m left waiter _, .cancelled =>
    if s.outbox.futures.get? waiter = some .cancelled then s.retry m left else s
  | _, _ => s

/-- The timeout of the wait for an acknowledgement: the future is cancelled at once, and the
pump hears of it when it is resumed. -/
def timer : ChatSender :=
  match s.pump with
  | some (.acking m left waiter _) =>
    (s.withOutbox (s.outbox.settle waiter .cancelled)).suspend (.acking m left waiter true)
  | _ => s

def ensurePump : ChatSender :=
  if s.pump.isNone then s.suspend .starting else s

def sendMessage (id : MessageId) (text : String) : ChatSender :=
  if ¬ s.secure then s
  else
    match valid : validateMessageText text with
    | .error _ => s
    | .ok text' =>
      let m : Message :=
        { messageId := id, direction := .outgoing, text, sequence := s.nextSequence,
          status := .queued, error := none, sequence_pos := s.next_pos, incoming_settled := nofun,
          text_valid := by
            unfold validateMessageText at valid
            dsimp only at valid
            split_ifs at valid with h1 h2 h3
            simp only [validateMessageText, h1, h2, h3, if_false] }
      let s := { s with nextSequence := s.nextSequence + 1, next_pos := Nat.succ_pos _ }
      match s.outbox.enqueue m with
      | .error _ => s
      | .ok o => (s.withOutbox o).ensurePump

def onConnectionState : ConnectionState → ChatSender
  | .reconnecting =>
    { s with ready := false, transportUsable := false,
             outbox := s.outbox.resolveAckWaitersOnDisconnect.requeueUnacked }
  | .connected => { s with transportUsable := true }
  | .disconnected => { s with transportUsable := false }
  | .closed => { s with ready := false, transportUsable := false }

def close : ChatSender :=
  { s with closing := true, pump := none, outbox := s.outbox.clear, secure := false,
           sessionKey := none, ready := false }

inductive Action
  | send (id : MessageId) (text : String)
  | resume (outcome : PumpOutcome)
  | timer
  | ack (id : MessageId)
  | readReceipt (upTo : ℕ)
  | connection (state : ConnectionState)
  | peer (joined : Bool)
  /-- A new handshake begins, which suspends sending once there is a session. -/
  | rekey
  | session (key : Key)
  | close

def step (action : Action) : ChatSender :=
  if s.closing then s
  else
    match action with
    | .send id text => s.sendMessage id text
    | .resume outcome =>
      match s.pump with
      | none => s
      | some point => s.resumePump point outcome
    | .timer => s.timer
    | .ack id => s.withOutbox (s.outbox.markDelivered id)
    | .readReceipt upTo => s.withOutbox (s.outbox.markReadUpTo upTo)
    | .connection state => s.onConnectionState state
    | .peer joined => { s with peerPresent := joined }
    | .rekey => if s.secure then { s with ready := false } else s
    | .session key => { s with sessionKey := some key, secure := true, ready := true }
    | .close => s.close

def run (actions : List Action) : ChatSender := actions.foldl step s

variable {m : Message} {s' : ChatSender}

lemma queued_nextFrom {o o' : Outbox} {slots : List MessageId}
    (h : o.nextFrom slots = (some m, o')) : o'.queued.length < slots.length := by
  induction slots with
  | nil => cases h
  | cons id rest ih =>
    unfold nextFrom at h
    cases found : o.messages.get? id with
    | none =>
      simp [found] at h
    | some =>
      rw [found] at h
      dsimp only at h
      split_ifs at h
      · cases h
        exact Nat.lt_succ_self rest.length
      · exact Nat.lt_succ_of_lt (ih h)

variable {s : ChatSender} {id : MessageId}

lemma tryAttempts_returned {left} (h : s.tryAttempts m left = (s', false)) :
    s'.closing ∨ s'.outbox.queued = s.outbox.queued := by
  induction left with
  | zero =>
    cases h
    refine .inr ?_
    have release (o : Outbox) (f : Future) : (o.release m.messageId f).queued = o.queued := by
      unfold release settle
      split
      · rfl
      · dsimp only
        split_ifs <;> rfl
    have transition (o : Outbox) (status : MessageStatus) (error : Option String) :
        (o.transition m.messageId status error).2.queued = o.queued := by
      unfold transition
      repeat' split
      all_goals rfl
    show (Outbox.announce m.messageId (Outbox.transition _ m.messageId .failed _)).queued = _
    rcases failed : Outbox.transition (s.outbox.dropAckWaiter m.messageId) m.messageId .failed
      (some "no delivery acknowledgement from the peer") with ⟨_ | n, o⟩
    all_goals
      have kept := transition (s.outbox.dropAckWaiter m.messageId) .failed
        (some "no delivery acknowledgement from the peer")
      rw [failed] at kept
    · exact kept.trans (release _ _)
    · exact (release _ _).trans (kept.trans (release _ _))
  | succ left ih =>
    unfold tryAttempts at h
    split at h
    · next closing =>
      cases h
      exact .inl closing
    · split at h
      · cases h
      · split at h
        · exact ih h
        · cases h

structure Moves (s s' : ChatSender) : Prop where
  advances : s.outbox.Advances s'.outbox
  closing : s'.closing = s.closing

lemma Moves.refl (s) : Moves s s := ⟨.refl _, rfl⟩

lemma Moves.trans {s''} (h : Moves s s') (h' : Moves s' s'') : Moves s s'' :=
  ⟨h.advances.trans h'.advances, h'.closing.trans h.closing⟩

lemma moves_giveUp (s : ChatSender) (m) : Moves s (s.giveUp m) :=
  ⟨(s.outbox.advances_dropAckWaiter m.messageId).trans (marks_advances.markFailed _ _ _), rfl⟩

lemma moves_tryAttempts (s : ChatSender) (m left) : Moves s (s.tryAttempts m left).1 := by
  induction left with
  | zero => exact moves_giveUp s m
  | succ left ih =>
    unfold tryAttempts
    split
    · exact ⟨s.outbox.advances_toQueued m.messageId, rfl⟩
    · split
      · exact ⟨.refl _, rfl⟩
      · split
        · exact ih
        · exact ⟨.of_eq rfl, rfl⟩

lemma moves_pumpLoop {rounds} (h : s.pumpLoop rounds = some s') : Moves s s' := by
  induction rounds generalizing s with
  | zero => cases h
  | succ rounds ih =>
    unfold pumpLoop at h
    split at h
    · cases h
      exact ⟨.refl _, rfl⟩
    · have taken : s.outbox.Advances s.outbox.nextQueued.2 :=
        s.outbox.advances_nextFrom s.outbox.queued
      rcases next : s.outbox.nextQueued with ⟨_ | m, o⟩
      all_goals rw [next] at taken h
      · cases h
        exact ⟨taken, rfl⟩
      · have first : Moves s (s.withOutbox o) := ⟨taken, rfl⟩
        have tried := first.trans (moves_tryAttempts (s.withOutbox o) m s.resendAttempts)
        dsimp only at h
        split at h
        · cases h
          exact tried
        · exact tried.trans (ih h)

lemma moves_pumpOn (s : ChatSender) : Moves s s.pumpOn := by
  unfold pumpOn
  cases ended : s.pumpLoop (s.outbox.queued.length + 1) with
  | none => exact .refl s
  | some => exact moves_pumpLoop ended

lemma pumpLoop_ends {rounds} (enough : s.outbox.queued.length < rounds) :
    (s.pumpLoop rounds).isSome := by
  induction rounds generalizing s with
  | zero => exact absurd enough (Nat.not_lt_zero _)
  | succ rounds ih =>
    unfold pumpLoop
    split_ifs with closing
    · rfl
    · rcases next : s.outbox.nextQueued with ⟨_ | m, o⟩
      · rfl
      · have shorter : o.queued.length < s.outbox.queued.length := queued_nextFrom next
        have tried := moves_tryAttempts (s.withOutbox o) m s.resendAttempts
        dsimp only
        rcases made : (s.withOutbox o).tryAttempts m s.resendAttempts with ⟨s', _ | _⟩
        · rw [made] at tried
          rcases tryAttempts_returned made with closed | kept
          · exact absurd (tried.closing.symm.trans closed) closing
          · refine ih ?_
            rw [kept]
            exact Nat.lt_of_lt_of_le shorter (Nat.le_of_lt_succ enough)
        · rfl

lemma pumpLoop_succ {rounds} (h : s.pumpLoop rounds = some s') :
    s.pumpLoop (rounds + 1) = some s' := by
  induction rounds generalizing s with
  | zero => cases h
  | succ rounds ih =>
    unfold pumpLoop at h ⊢
    split_ifs at h ⊢
    · exact h
    · split at h
      · exact h
      · dsimp only at h ⊢
        split_ifs at h ⊢
        · exact h
        · exact ih h

/-- In a round for each queued id and one more the pump's loop has ended or waits, and more rounds
would change nothing. -/
theorem pumpOn_settles (s : ChatSender) (more : ℕ) :
    s.pumpLoop (s.outbox.queued.length + 1 + more) = some s.pumpOn := by
  induction more with
  | zero =>
    obtain ⟨s', ended⟩ := Option.isSome_iff_exists.mp (pumpLoop_ends (Nat.lt_succ_self _))
    rw [Nat.add_zero, pumpOn, ended, Option.getD_some]
  | succ more ih => exact pumpLoop_succ ih

lemma moves_proceed {r : ChatSender × Bool} (h : Moves s r.1) : Moves s (proceed r) := by
  unfold proceed
  split
  · exact h
  · exact h.trans (moves_pumpOn r.1)

section
variable (s)

lemma moves_retry (m left) : Moves s (s.retry m left) := by
  have dropped : Moves s (s.withOutbox (s.outbox.dropAckWaiter m.messageId)) :=
    ⟨s.outbox.advances_dropAckWaiter m.messageId, rfl⟩
  exact moves_proceed (dropped.trans (moves_tryAttempts _ m left))

lemma moves_resumePump (point outcome) :
    Moves s (s.resumePump point outcome) := by
  unfold resumePump
  split
  · exact moves_pumpOn s
  · exact moves_proceed (moves_tryAttempts s _ _)
  · exact ⟨marks_advances.markSent s.outbox _, rfl⟩
  · exact moves_retry s _ _
  · split
    · exact moves_pumpOn s
    · exact .refl s
  · split
    · exact moves_retry s _ _
    · exact .refl s
  · split
    · exact moves_retry s _ _
    · exact .refl s
  · exact .refl s

lemma moves_timer : Moves s s.timer := by
  unfold timer
  split
  · exact ⟨.of_eq (messages_settle _ _ _), rfl⟩
  · exact .refl s

lemma moves_sendMessage (id text) : Moves s (s.sendMessage id text) := by
  unfold sendMessage
  split
  · exact .refl s
  · split
    · exact .refl s
    · dsimp only
      split
      · exact ⟨.refl _, rfl⟩
      · next o entered =>
        have added := advances_enqueue entered
        unfold ensurePump
        split <;> exact ⟨added, rfl⟩

lemma moves_onConnectionState (state) : Moves s (s.onConnectionState state) := by
  cases state with
  | reconnecting =>
    exact ⟨s.outbox.advances_resolveAckWaitersOnDisconnect.trans
      (advances_requeueUnacked _), rfl⟩
  | connected | disconnected | closed => exact ⟨.refl _, rfl⟩

lemma step_cases (action) :
    Moves s (s.step action) ∨ s.step action = s.close := by
  unfold step
  split
  · exact .inl (.refl s)
  · cases action with
    | send id text => exact .inl (moves_sendMessage s id text)
    | resume outcome =>
      refine .inl ?_
      cases s.pump with
      | none => exact .refl s
      | some point => exact moves_resumePump s point outcome
    | timer => exact .inl (moves_timer s)
    | ack id => exact .inl ⟨marks_advances.markDelivered s.outbox id, rfl⟩
    | readReceipt upTo => exact .inl ⟨marks_advances.markReadUpTo s.outbox upTo, rfl⟩
    | connection state => exact .inl (moves_onConnectionState s state)
    | peer | session => exact .inl ⟨.refl _, rfl⟩
    | rekey =>
      refine .inl ?_
      dsimp only
      split
      · exact ⟨.refl _, rfl⟩
      · exact .refl s
    | close => exact .inr rfl

/-- Until closing removes them, messages stay, keep their id, direction and sequence, and move
along the transitions of their direction only. -/
theorem messages_advance (actions : List Action) :
    s.outbox.Advances (s.run actions).outbox ∨
      (s.run actions).closing ∧ (s.run actions).outbox.messages = Dict.empty := by
  induction actions using List.reverseRecOn with
  | nil => exact .inl (.refl _)
  | append_singleton actions action ih =>
    rw [run, List.foldl_append, List.foldl_cons, List.foldl_nil, ← run]
    rcases step_cases (s.run actions) action with moves | closed
    · rcases ih with advances | ⟨closing, gone⟩
      · exact .inl (advances.trans moves.advances)
      · have same : (s.run actions).step action = s.run actions := if_pos closing
        rw [same]
        exact .inr ⟨closing, gone⟩
    · rw [closed]
      exact .inr ⟨rfl, rfl⟩

end

lemma closed_empty (resendAttempts actions) :
    ((start resendAttempts).run actions).closing →
      ((start resendAttempts).run actions).outbox.messages = Dict.empty := by
  induction actions using List.reverseRecOn with
  | nil => exact nofun
  | append_singleton actions action ih =>
    rw [run, List.foldl_append]
    show ((run _ actions).step action).closing → _
    intro closing
    by_cases before : ((start resendAttempts).run actions).closing
    · have same : ((start resendAttempts).run actions).step action =
          (start resendAttempts).run actions := if_pos before
      show ((run _ actions).step action).outbox.messages = _
      rw [same]
      exact ih before
    · rcases step_cases ((start resendAttempts).run actions) action with moves | closed
      · rw [moves.closing] at closing
        exact absurd closing before
      · show ((run _ actions).step action).outbox.messages = _
        rw [closed]
        rfl

def Arrived (id : MessageId) (s : ChatSender) : Prop :=
  (∃ m, s.outbox.messages.get? id = some m ∧ (m.status = .delivered ∨ m.status = .read)) ∨
    s.closing ∧ s.outbox.messages.get? id = none

lemma Arrived.step (h : Arrived id s) (action) : Arrived id (s.step action) := by
  rcases h with ⟨m, found, settled⟩ | ⟨closing, gone⟩
  · rcases step_cases s action with moves | closed
    · obtain ⟨m', found', becomes⟩ := moves.advances id m found
      exact .inl ⟨m', found', becomes.of_settled settled⟩
    · rw [closed]
      exact .inr ⟨rfl, rfl⟩
  · have same : s.step action = s := if_pos closing
    rw [same]
    exact .inr ⟨closing, gone⟩

lemma Arrived.run (h : Arrived id s) (actions) : Arrived id (s.run actions) := by
  induction actions generalizing s with
  | nil => exact h
  | cons action actions ih => exact ih (h.step action)

lemma Arrived.not_failed (h : Arrived id s) : s.status? id ≠ some .failed := by
  rcases h with ⟨m, found, settled⟩ | ⟨-, gone⟩
  · rw [status?, Outbox.status?, found]
    rcases settled with now | now <;> rw [Option.map_some, now] <;> rintro ⟨⟩
  · rw [status?, Outbox.status?, gone]
    rintro ⟨⟩

structure Settles (s : ChatSender) (id : MessageId) : Prop where
  delivered : (s.step (.ack id)).status? id = some .delivered
  released : s.outbox.Released id (s.step (.ack id)).outbox
  never_failed : ∀ actions, ((s.step (.ack id)).run actions).status? id ≠ some .failed

def Expected (s : ChatSender) (id : MessageId) : Prop :=
  s.status? id = some .sending ∨ s.status? id = some .sent ∨
    s.status? id = some .delivered ∧ s.outbox.Released id s.outbox

lemma settles_of_delivered (delivered : (s.step (.ack id)).status? id = some .delivered)
    (released : s.outbox.Released id (s.step (.ack id)).outbox) : Settles s id := by
  refine ⟨delivered, released, fun actions => ?_⟩
  obtain ⟨m, found, status⟩ := Option.map_eq_some_iff.mp delivered
  have arrived : Arrived id (s.step (.ack id)) := .inl ⟨m, found, .inl status⟩
  exact (arrived.run actions).not_failed

/-- In every state that can be reached, an acknowledgement of a message that is not terminal
settles it exactly when it does not find the message back in the queue or its waiter renewed. -/
theorem acknowledgement_settles_iff (resendAttempts : ℕ) (actions : List Action) (id : MessageId)
    (m : Message)
    (found : ((start resendAttempts).run actions).outbox.messages.get? id = some m)
    (live : m.isTerminal = false) :
    Settles ((start resendAttempts).run actions) id ↔
      Expected ((start resendAttempts).run actions) id := by
  set s := (start resendAttempts).run actions with hs
  have working : s.closing = false := by
    refine Bool.eq_false_iff.mpr fun closing => ?_
    rw [closed_empty resendAttempts actions closing] at found
    cases found
  have acked : (s.step (.ack id)).outbox = s.outbox.markDelivered id := by
    simp [step, working, withOutbox]
  have status : s.status? id = some m.status := by rw [status?, Outbox.status?, found]; rfl
  have after : (s.step (.ack id)).status? id = (s.outbox.markDelivered id).status? id := by
    rw [status?, acked]
  constructor
  · intro settles
    have delivered := settles.delivered
    have released := settles.released
    rw [after] at delivered
    rw [acked] at released
    rw [Expected, status]
    cases now : m.status with
    | queued =>
      -- the acknowledgement had no effect, so the message is still queued
      rw [markDelivered_queued found now] at delivered
      simp [Outbox.status?, found, Option.map_some, now] at delivered
    | sending => exact .inl rfl
    | sent => exact .inr (.inl rfl)
    | delivered =>
      rw [markDelivered_settled found (.inl now)] at released
      exact .inr (.inr ⟨rfl, released⟩)
    | read | failed =>
      rw [Message.isTerminal, now] at live
      cases hd : m.direction <;> rw [hd] at live <;> cases live
  · intro expected
    rw [Expected, status] at expected
    rcases expected with now | now | ⟨now, released⟩
    · have effect := markDelivered_inflight found (.inl (Option.some.inj now))
      exact settles_of_delivered (after.trans effect.1) (acked ▸ effect.2)
    · have effect := markDelivered_inflight found (.inr (Option.some.inj now))
      exact settles_of_delivered (after.trans effect.1) (acked ▸ effect.2)
    · have same := markDelivered_settled found (.inl (Option.some.inj now))
      refine settles_of_delivered ?_ ?_
      · rw [after, same]
        exact status.trans now
      · rwa [acked, same]

lemma hi_wellFormed :
    Text.fullmatch messageIdPattern "msg_0000000000000000".toList := by decide

def hi : MessageId := ⟨"msg_0000000000000000", hi_wellFormed⟩

def plainKey : Key := Vector.replicate 32 0

def sentOnce : List Action :=
  [.session plainKey, .peer true, .connection .connected, .send hi "hi", .resume .started,
    .resume .forwarded]

/-- The connection drops before the acknowledgement, comes back with a new key, and the pump
sends the message that it still holds once more. -/
def sentAgain : List Action :=
  sentOnce ++ [.connection .reconnecting, .resume .cancelled, .connection .connected,
    .session plainKey, .resume .woken, .resume .forwarded]

def unanswered : List Action := [.timer, .resume .timedOut, .resume .forwarded]

/-- The acknowledgement of the second copy finds the message queued and is lost; two more
attempts later the message has failed. -/
theorem acknowledged_message_fails :
    ((start 4).run sentAgain).status? hi = some .queued ∧
      ((start 4).run (sentAgain ++ [.ack hi])).status? hi = some .queued ∧
      ((start 4).run (sentAgain ++ [.ack hi] ++ unanswered ++ unanswered ++
        [.timer, .resume .timedOut])).status? hi = some .failed := by
  decide +kernel

theorem first_acknowledgement_settles : Settles ((start 4).run sentOnce) hi := by
  obtain ⟨m, found, live⟩ : ∃ m, ((start 4).run sentOnce).outbox.messages.get? hi = some m ∧
      m.isTerminal = false := by
    have facts : (((start 4).run sentOnce).outbox.messages.get? hi).map Message.isTerminal =
      some false := by decide +kernel
    exact Option.map_eq_some_iff.mp facts
  refine (acknowledgement_settles_iff 4 sentOnce hi m found live).mpr (.inr (.inl ?_))
  decide +kernel

end ChatSender

end Ghostlink.Messaging
