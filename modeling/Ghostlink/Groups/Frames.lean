import Ghostlink.Groups.Record

/-! Message frames and delivery ledgers of group messaging. The JSON text of a frame is an
argument; what is checked before it is written is modelled. -/

namespace Ghostlink.Groups
open Collections Text

def isHexLower (c : Char) : Bool := "0123456789abcdef".toList.contains c

def messageIdPattern : List (Char → Bool) := lit "gmsg_" ++ List.replicate 16 isHexLower

def isValidMessageId (candidate : String) : Bool := fullmatch messageIdPattern candidate.toList

abbrev MessageId := {s : String // isValidMessageId s = true}

def groupMsgMaxBytes : ℕ := 4096

def groupBroadcastRecipient : String := "*"

structure GmsgFields where
  group : GroupId
  epoch : ℕ
  sender : Fingerprint
  recipient : String
  id : MessageId
  gseq : ℕ
  name : String
  text : String
  ts : Seconds

/-- `gmsg_frame`; a frame without a recipient is a broadcast one. Group ids, fingerprints and
message ids are well formed by their types. -/
def gmsgFrame (dumps : GmsgFields → Bytes) (group : GroupId) (epoch : ℕ) (sender : Fingerprint)
    (recipient : Option Fingerprint) (id : MessageId) (gseq : ℕ) (displayName text : String)
    (ts : Seconds) : Except GroupError Bytes := do
  if recipient.isSome ∧ epoch < 1 then
    throw { kind := .message, message := "Inner-frame epoch must be ≥ 1.",
            hint := "Epochs start at 1." }
  let shown := if displayName = "" then sender.val else displayName
  let name ← validateGroupDisplayName shown "display name"
  let size := text.utf8ByteSize
  if size > groupMsgMaxBytes then
    throw { kind := .message,
            message := s!"Group message must be ≤ {groupMsgMaxBytes} UTF-8 bytes, got {size}.",
            hint := "Split the message or shorten it." }
  pure (dumps { group, epoch, sender,
                recipient := recipient.elim groupBroadcastRecipient Subtype.val, id,
                gseq, name, text, ts })

lemma gmsgFrame_member (dumps group) {epoch} (sender) {recipient : Option Fingerprint}
    (dated : recipient.isSome → 1 ≤ epoch) (id gseq) (m : GroupMember)
    {text : String} (ts) (short : ¬ text.utf8ByteSize > groupMsgMaxBytes) :
    gmsgFrame dumps group epoch sender recipient id gseq m.displayName text ts =
      .ok (dumps { group, epoch, sender,
                   recipient := recipient.elim groupBroadcastRecipient Subtype.val, id,
                   gseq, name := m.displayName, text, ts }) := by
  have nonempty : m.displayName ≠ "" := by
    intro empty
    have named := m.named
    rw [empty] at named
    exact absurd named (by decide)
  have allowed : ¬ (recipient.isSome ∧ epoch < 1) := fun h => Nat.not_lt.mpr (dated h.1) h.2
  simp only [gmsgFrame, allowed, if_false, nonempty, m.named, short]
  rfl

inductive DeliveryState
  | queued | sending | sent | delivered | read | failed
  deriving DecidableEq, Repr

structure GroupMessageLedger where
  messageId : MessageId
  groupId : GroupId
  gseq : ℕ
  text : String
  ts : Seconds
  recipients : Dict Fingerprint DeliveryState

namespace GroupMessageLedger

def mark (l : GroupMessageLedger) (f : Fingerprint) (state : DeliveryState) : GroupMessageLedger :=
  { l with recipients := l.recipients.set f state }

def applyReadCursor (l : GroupMessageLedger) (cursor : ℕ) : GroupMessageLedger :=
  { l with recipients := l.recipients.mapVals fun _ state =>
      if state = .delivered ∧ l.gseq ≤ cursor then .read else state }

end GroupMessageLedger

end Ghostlink.Groups
