import Ghostlink.Base.Dict
import Ghostlink.Base.Text
import Mathlib.Data.List.Sort
import Mathlib.Logic.Relation

/-! Chat messages and the lifecycle of their statuses. Names, times and the sealed form of a
message have no part in what follows and are left out. -/

namespace Ghostlink.Messaging
open Collections Text

def isHexLower (c : Char) : Bool := "0123456789abcdef".toList.contains c

def messageIdPattern : List (Char → Bool) := lit "msg_" ++ List.replicate 16 isHexLower

abbrev MessageId := {s : String // fullmatch messageIdPattern s.toList = true}

inductive MessageStatus
  | queued | sending | sent | delivered | read | failed
  deriving DecidableEq, Repr

namespace MessageStatus

def value : MessageStatus → String
  | queued => "queued"
  | sending => "sending"
  | sent => "sent"
  | delivered => "delivered"
  | read => "read"
  | failed => "failed"

end MessageStatus

inductive MessageDirection
  | outgoing | incoming
  deriving DecidableEq, Repr

def MessageDirection.value : MessageDirection → String
  | .outgoing => "outgoing"
  | .incoming => "incoming"

def transitionsFor : MessageDirection → MessageStatus → List MessageStatus
  | .outgoing, .queued => [.sending, .failed]
  | .outgoing, .sending => [.sent, .queued, .failed]
  | .outgoing, .sent => [.delivered, .queued, .failed]
  | _, .delivered => [.read]
  | _, _ => []

structure ValidationError where
  message : String
  hint : String
  deriving DecidableEq, Repr

def maxMessageTextLength : ℕ := 2048
def maxMessageTextBytes : ℕ := 2048

def validateMessageText (text : String) : Except ValidationError String :=
  let length := text.toList.length
  let size := text.utf8ByteSize
  if text = "" ∨ strip text = "" then
    .error { message := "Message text must not be empty."
             hint := "Type a message after the '>' prompt and press Enter." }
  else if length > maxMessageTextLength then
    .error { message := s!"Message is {length} characters; the limit is {maxMessageTextLength}."
             hint := "Split long notes into several messages." }
  else if size > maxMessageTextBytes then
    .error { message := s!"Message encodes to {size} bytes; the limit is {maxMessageTextBytes}."
             hint := "Emoji and wide scripts take several bytes per character — " ++
               "shorten the message." }
  else .ok text

structure Message where
  messageId : MessageId
  direction : MessageDirection
  text : String
  sequence : ℕ
  status : MessageStatus
  error : Option String
  text_valid : validateMessageText text = .ok text
  sequence_pos : 1 ≤ sequence
  incoming_settled : direction = .incoming → status = .delivered ∨ status = .read
  deriving DecidableEq

lemma first_sequence_pos : 1 ≤ 1 := le_rfl

namespace Message

def isTerminal (m : Message) : Bool := (transitionsFor m.direction m.status).isEmpty

def withStatus (m : Message) (status : MessageStatus) (error : Option String) :
    Except ValidationError Message :=
  if h : status ∈ transitionsFor m.direction m.status then
    .ok { m with
      status
      error
      incoming_settled := fun incoming => by
        rcases m.incoming_settled incoming with now | now
        · rw [incoming, now] at h
          exact .inr (List.mem_singleton.mp h)
        · rw [incoming, now] at h
          exact absurd h List.not_mem_nil }
  else
    .error
      { message := s!"{m.direction.value} message cannot move {m.status.value} → {status.value}."
        hint := "Follow the queued→sending→sent→delivered→read lifecycle." }

def moved (m : Message) (status : MessageStatus) : Message :=
  (m.withStatus status none).toOption.getD m

structure Becomes (m m' : Message) : Prop where
  messageId : m'.messageId = m.messageId
  direction : m'.direction = m.direction
  sequence : m'.sequence = m.sequence
  status : Relation.ReflTransGen (fun a b => b ∈ transitionsFor m.direction a) m.status m'.status

lemma Becomes.refl (m) : Becomes m m := ⟨rfl, rfl, rfl, .refl⟩

variable {m m' : Message}

lemma Becomes.trans {m''} (h : Becomes m m') (h' : Becomes m' m'') : Becomes m m'' where
  messageId := h'.messageId.trans h.messageId
  direction := h'.direction.trans h.direction
  sequence := h'.sequence.trans h.sequence
  status := by
    have later := h'.status
    rw [h.direction] at later
    exact h.status.trans later

lemma withStatus_ok {status error}
    (h : m.withStatus status error = .ok m') : Becomes m m' ∧ m'.status = status := by
  unfold withStatus at h
  split at h
  · next allowed =>
    cases h
    exact ⟨⟨rfl, rfl, rfl, .single allowed⟩, rfl⟩
  · cases h

lemma withStatus_of_mem {status} (error) (allowed : status ∈ transitionsFor m.direction m.status) :
    ∃ m', m.withStatus status error = .ok m' ∧ m'.status = status :=
  ⟨_, dif_pos allowed, rfl⟩

lemma moved_becomes (m : Message) (status) : Becomes m (m.moved status) := by
  unfold moved
  cases h : m.withStatus status none with
  | error => exact .refl m
  | ok => exact (withStatus_ok h).1

lemma settled_of_transitions {d a b}
    (path : Relation.ReflTransGen (fun a b => b ∈ transitionsFor d a) a b)
    (settled : a = .delivered ∨ a = .read) : b = .delivered ∨ b = .read := by
  induction path with
  | refl => exact settled
  | tail _ next ih =>
    rcases ih with rfl | rfl
    · cases d <;> exact .inr (List.mem_singleton.mp next)
    · cases d <;> exact absurd next List.not_mem_nil

lemma Becomes.of_settled (h : Becomes m m') (settled : m.status = .delivered ∨ m.status = .read) :
    m'.status = .delivered ∨ m'.status = .read :=
  settled_of_transitions h.status settled

end Message

end Ghostlink.Messaging
