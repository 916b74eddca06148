import Ghostlink.Base.Checks
import Ghostlink.Groups.Frames
import Ghostlink.Groups.Lifecycle
import Mathlib.Data.List.Sort

/-! What both halves of the messaging service share: who may send to whom, the checks on a text,
the ledger of a new message, and the ledgers a group's runtime keeps. -/

namespace Ghostlink.Groups
open Collections Text Checks

def groupFanoutMax : ℕ := 7
def groupLedgerKept : ℕ := 64
def groupOfflineQueuePerMember : ℕ := 8

inductive Stage
  | pacing | forwarding
  deriving DecidableEq, Repr

def LocalGroupRecord.recipients (record : LocalGroupRecord) (me : Fingerprint) :
    List Fingerprint :=
  (record.members.keys.filter fun f => f ≠ me).insertionSort fun f g => f.val ≤ g.val

namespace LocalGroupManager
variable {m : LocalGroupManager} {me : Fingerprint} {gid : GroupId} {record : LocalGroupRecord}

def requireSendable (m : LocalGroupManager) (me : Fingerprint) (gid : GroupId) :
    Except GroupError LocalGroupRecord := do
  let group := gid.val
  match m.records.get? gid with
  | none =>
    throw { kind := .unknown, message := s!"No local record of group {group}.",
            hint := "Create or join the group first (ghostlink group list shows yours)." }
  | some record =>
    record.requireActive
    if record.suspect then
      throw { kind := .state, message := s!"Group {group} has unverified roster state.",
              hint := "Re-sync with the relay before further membership operations." }
    if record.myFingerprint ≠ me then
      throw { kind := .notMember,
              message := "This group's record does not belong to the active identity.",
              hint := "Switch identity or re-join under the current one." }
    if ¬ record.members.contains me then
      throw { kind := .notMember, message := "You are not on this group's authoritative roster.",
              hint := "Removed or departed members cannot send to the group." }
    pure record

lemma requireSendable_ok (h : m.requireSendable me gid = .ok record) :
    m.records.get? gid = some record ∧ record.groupId = gid ∧ record.myFingerprint = me ∧
      ∃ member, record.members.get? me = some member := by
  unfold requireSendable at h
  cases found : m.records.get? gid with
  | none =>
    rw [found] at h
    exact absurd h throw_ne_ok
  | some r =>
    rw [found] at h
    simp only [bind_eq_ok, refuse_eq_ok, pure_eq_ok] at h
    obtain ⟨_, -, -, mine, listed, rfl⟩ := h
    exact ⟨rfl, m.filed gid r found, not_not.mp mine,
      Option.isSome_iff_exists.mp (not_not.mp listed)⟩

variable {e : GroupError} {text : String}

lemma requireSendable_error (h : m.requireSendable me gid = .error e) : e.kind ≠ .message := by
  unfold requireSendable LocalGroupRecord.requireActive at h
  split at h
  · cases h
    exact nofun
  · dsimp only at h
    split_ifs at h <;> cases h <;> exact nofun

def nameOf (m : LocalGroupManager) (gid : GroupId) (f : Fingerprint) : String :=
  match (m.records.get? gid).bind fun record => record.members.get? f with
  | some member => member.displayName
  | none => "GLFP-" ++ String.ofList ((f.val.toList.drop 5).take 4) ++ "…"

lemma nameOf_me (h : m.requireSendable me gid = .ok record) :
    ∃ member, record.members.get? me = some member ∧
      m.nameOf record.groupId me = member.displayName := by
  obtain ⟨found, filed, -, member, listed⟩ := requireSendable_ok h
  refine ⟨member, listed, ?_⟩
  simp [nameOf, filed, found, listed]

def checkSend (m : LocalGroupManager) (me : Fingerprint) (gid : GroupId) (text : String) :
    Except GroupError LocalGroupRecord := do
  let record ← m.requireSendable me gid
  if text = "" ∨ strip text = "" then
    throw { kind := .message, message := "Group message text must not be empty.",
            hint := "Type a message and press Enter." }
  if text.utf8ByteSize > groupMsgMaxBytes then
    throw { kind := .message,
            message := s!"Group message must be ≤ {groupMsgMaxBytes} UTF-8 bytes.",
            hint := "Split the message or shorten it." }
  if (record.recipients me).isEmpty then
    throw { kind := .message,
            message := "You are the only member — there is nobody to deliver to.",
            hint := "Invite members first (ghostlink group invite)." }
  if (record.recipients me).length > groupFanoutMax then
    throw { kind := .message, message := "Fanout would exceed the member cap.", hint := "" }
  pure record

lemma checkSend_ok (h : m.checkSend me gid text = .ok record) :
    m.requireSendable me gid = .ok record ∧ ¬ text.utf8ByteSize > groupMsgMaxBytes := by
  simp only [checkSend, bind_eq_ok, refuse_eq_ok, pure_eq_ok] at h
  obtain ⟨r, sendable, -, short, -, -, rfl⟩ := h
  exact ⟨sendable, short⟩

lemma checkSend_error (h : m.checkSend me gid text = .error e) :
    e.kind ≠ .message ∨ e.hint ∈ ["Type a message and press Enter.",
      "Split the message or shorten it.", "Invite members first (ghostlink group invite).",
      ""] := by
  unfold checkSend at h
  cases sendable : m.requireSendable me gid with
  | error =>
    rw [sendable] at h
    cases h
    exact .inl (requireSendable_error sendable)
  | ok =>
    rw [sendable] at h
    refine .inr ?_
    simp only [bind, Except.bind] at h
    split_ifs at h <;> cases h <;> simp

end LocalGroupManager

namespace GroupMessageLedger

def waiting (messageId : MessageId) (groupId : GroupId) (gseq : ℕ) (text : String) (ts : Seconds)
    (recipients : List Fingerprint) : GroupMessageLedger :=
  { messageId, groupId, gseq, text, ts,
    recipients := recipients.foldl (fun states f => states.set f .queued) Dict.empty }

lemma waiting_recipients (messageId groupId gseq text ts recipients f) :
    (waiting messageId groupId gseq text ts recipients).recipients.get? f =
      if f ∈ recipients then some .queued else none := by
  have entered : ∀ (fs : List Fingerprint) (states : Dict Fingerprint DeliveryState),
      (fs.foldl (fun states f => states.set f .queued) states).get? f =
        if f ∈ fs then some .queued else states.get? f := by
    intro fs
    induction fs with
    | nil =>
      intro states
      rfl
    | cons g fs ih =>
      intro states
      rw [List.foldl_cons, ih, Dict.get?_set]
      by_cases later : f ∈ fs
      · rw [if_pos later, if_pos (List.mem_cons_of_mem g later)]
      · by_cases now : f = g
        · rw [if_neg later, if_pos now, if_pos (now ▸ List.mem_cons_self)]
        · rw [if_neg later, if_neg now, if_neg]
          exact fun mem => (List.mem_cons.mp mem).elim now later
  exact entered recipients Dict.empty

end GroupMessageLedger

structure GroupRuntime where
  nextGseq : ℕ
  ledgers : Dict MessageId ℕ

def GroupRuntime.new : GroupRuntime := { nextGseq := 1, ledgers := Dict.empty }

def GroupRuntime.keepLedger (rt : GroupRuntime) (id : MessageId) (ref : ℕ) : GroupRuntime :=
  { rt with ledgers := ((rt.ledgers.set id ref).moveToEnd id).dropOldest groupLedgerKept }

end Ghostlink.Groups
