import Ghostlink.Base.Runs
import Ghostlink.Messaging.Message
import Mathlib.Data.Rat.Defs
import Mathlib.Order.Lattice

/-! The queue of incoming chat messages: it puts a stream into the order of its sequence numbers
and recognises duplicates. The clock is an argument. -/

namespace Ghostlink.Messaging
open Collections List Dict

def maxReorderBuffer : ℕ := 100
def maxSeenIds : ℕ := 4096

inductive InboxVerdict
  | deliver | buffered | duplicate
  deriving DecidableEq, Repr

structure InboxResult where
  verdict : InboxVerdict
  deliverable : List Message
  deriving DecidableEq

structure Inbox where
  reorderWindow : ℚ
  expectedSequence : ℕ
  buffer : Dict ℕ (Message × ℚ)
  seenIds : Dict MessageId Unit
  delivered : List Message
  unreadCount : ℕ
  highestReadSequence : ℕ
  window_pos : 0 < reorderWindow
  filed : ∀ sequence e, buffer.get? sequence = some e → e.1.sequence = sequence

namespace Inbox

def start (reorderWindow : ℚ) (window_pos : 0 < reorderWindow) : Inbox :=
  { reorderWindow, expectedSequence := 1, buffer := Dict.empty,
    seenIds := Dict.empty, delivered := [], unreadCount := 0, highestReadSequence := 0,
    window_pos := window_pos, filed := nofun }

def remember (i : Inbox) (id : MessageId) : Inbox :=
  { i with seenIds := ((i.seenIds.set id ()).moveToEnd id).dropOldest maxSeenIds }

def markDelivered (i : Inbox) (ms : List Message) : Inbox :=
  { i with delivered := i.delivered ++ ms, unreadCount := i.unreadCount + ms.length }

def hold (i : Inbox) (m : Message) (now : ℚ) : Inbox :=
  { i with
    buffer := i.buffer.set m.sequence (m, now)
    filed := fun sequence e found => by
      rw [get?_set] at found
      split_ifs at found with same
      · cases found
        exact same.symm
      · exact i.filed sequence e found }

def pop (i : Inbox) : Inbox :=
  { i with
    buffer := i.buffer.erase i.expectedSequence
    expectedSequence := i.expectedSequence + 1
    filed := fun sequence e found => i.filed sequence e (get?_of_filter found) }

/-- The loop of `_drain_contiguous`; each turn takes one message out of the buffer. -/
def drainLoop (i : Inbox) : ℕ → List Message × Inbox
  | 0 => ([], i)
  | turns + 1 =>
    match i.buffer.get? i.expectedSequence with
    | none => ([], i)
    | some (m, _) =>
      let (ms, i) := i.pop.drainLoop turns
      (m :: ms, i)

def drainContiguous (i : Inbox) : List Message × Inbox := i.drainLoop i.buffer.size

def deliverBuffered (i : Inbox) : List Message × Inbox :=
  let (drained, i) := i.drainContiguous
  (drained, i.markDelivered drained)

def forceProgress (i : Inbox) (m : Message) (now : ℚ) : InboxResult × Inbox :=
  let i := i.hold m now
  let i := { i with expectedSequence := i.buffer.keys.min?.getD i.expectedSequence }
  let (drained, i) := i.deliverBuffered
  ({ verdict := .deliver, deliverable := drained }, i)

def accept (i : Inbox) (m : Message) (now : ℚ) : InboxResult × Inbox :=
  if i.seenIds.contains m.messageId then ({ verdict := .duplicate, deliverable := [] }, i)
  else if m.sequence < i.expectedSequence then
    ({ verdict := .duplicate, deliverable := [] }, i.remember m.messageId)
  else
    let i := i.remember m.messageId
    if m.sequence = i.expectedSequence then
      let (drained, i) := { i with expectedSequence := i.expectedSequence + 1 }.drainContiguous
      ({ verdict := .deliver, deliverable := m :: drained }, i.markDelivered (m :: drained))
    else if i.buffer.size ≥ maxReorderBuffer then i.forceProgress m now
    else ({ verdict := .buffered, deliverable := [] }, i.hold m now)

def checkStarvation (i : Inbox) (now : ℚ) : List Message × Inbox :=
  match i.buffer.keys.min? with
  | none => ([], i)
  | some oldest =>
    if (i.buffer.get? oldest).any fun e => now - e.2 < i.reorderWindow then ([], i)
    else
      { i with expectedSequence := max i.expectedSequence oldest }.deliverBuffered

def highestSequenceSeen (i : Inbox) : ℕ :=
  max (i.expectedSequence - 1) (i.buffer.keys.max?.getD 0)

def markAllRead (i : Inbox) : ℕ × Inbox :=
  let cursor := max i.highestReadSequence i.highestSequenceSeen
  (cursor, { i with unreadCount := 0, highestReadSequence := cursor })

def Holds (i : Inbox) (m : Message) : Prop :=
  m ∈ i.delivered ∨ ∃ arrived, i.buffer.get? m.sequence = some (m, arrived)

variable (i : Inbox) {m : Message} {now : ℚ}

lemma drainLoop_holds (turns) : (i.drainLoop turns).2.delivered = i.delivered ∧ ∀ m,
      (m ∈ (i.drainLoop turns).1 ∨
        ∃ arrived, (i.drainLoop turns).2.buffer.get? m.sequence = some (m, arrived)) ↔
      ∃ arrived, i.buffer.get? m.sequence = some (m, arrived) := by
  induction turns generalizing i with
  | zero => exact ⟨rfl, fun m => by simp [drainLoop]⟩
  | succ turns ih =>
    unfold drainLoop
    cases next : i.buffer.get? i.expectedSequence with
    | none => exact ⟨rfl, fun m => by simp⟩
    | some e =>
      obtain ⟨n, arrived⟩ := e
      obtain ⟨same, rest⟩ := ih i.pop
      refine ⟨same, fun m => ?_⟩
      have numbered : n.sequence = i.expectedSequence := i.filed _ _ next
      rw [mem_cons, or_assoc, rest m]
      show m = n ∨ (∃ t, (i.buffer.erase i.expectedSequence).get? m.sequence = some (m, t)) ↔ _
      rw [get?_erase]
      constructor
      · rintro (rfl | ⟨t, found⟩)
        · exact ⟨arrived, numbered ▸ next⟩
        · split_ifs at found
          exact ⟨t, found⟩
      · rintro ⟨t, found⟩
        by_cases here : m.sequence = i.expectedSequence
        · rw [here, next] at found
          cases found
          exact .inl rfl
        · exact .inr ⟨t, by rw [if_neg here]; exact found⟩

lemma deliverBuffered_holds (m) : Holds i.deliverBuffered.2 m ↔ Holds i m := by
  obtain ⟨same, moved⟩ := i.drainLoop_holds i.buffer.size
  show (m ∈ (i.drainLoop i.buffer.size).2.delivered ++ (i.drainLoop i.buffer.size).1 ∨ _) ↔ _
  rw [mem_append, same, or_assoc]
  exact or_congr_right (moved m)

lemma drainLoop_complete (turns) (enough : i.buffer.size ≤ turns) :
    (i.drainLoop turns).2.buffer.get? (i.drainLoop turns).2.expectedSequence = none := by
  induction turns generalizing i with
  | zero =>
    have empty : i.buffer.entries = [] := length_eq_zero_iff.mp (Nat.le_zero.mp enough)
    show (i.buffer.entries.find? _).map _ = none
    simp [empty]
  | succ turns ih =>
    unfold drainLoop
    cases next : i.buffer.get? i.expectedSequence with
    | none => exact next
    | some =>
      refine ih i.pop ?_
      have smaller := i.buffer.size_erase_of_some next
      show (i.buffer.erase i.expectedSequence).size ≤ turns
      omega

lemma hold_holds (m : Message) (now) :
    Holds (i.hold m now) m ∧ (∀ n, Holds (i.hold m now) n → Holds i n ∨ n = m) ∧
      ∀ n, Holds i n → Holds (i.hold m now) n ∨ n.sequence = m.sequence := by
  have buffer (sequence : ℕ) : (i.hold m now).buffer.get? sequence =
      if sequence = m.sequence then some (m, now) else i.buffer.get? sequence :=
    get?_set ..
  refine ⟨.inr ⟨now, (buffer _).trans (if_pos rfl)⟩, ?_, ?_⟩
  · rintro n (delivered | ⟨t, found⟩)
    · exact .inl (.inl delivered)
    · rw [buffer] at found
      split_ifs at found
      · cases found
        exact .inr rfl
      · exact .inl (.inr ⟨t, found⟩)
  · rintro n (delivered | ⟨t, found⟩)
    · exact .inl (.inl delivered)
    · by_cases same : n.sequence = m.sequence
      · exact .inr same
      · exact .inl (.inr ⟨t, (buffer _).trans ((if_neg same).trans found)⟩)

lemma mem_remember {i : Inbox} {id id'} (h : (i.remember id).seenIds.contains id') :
    id' = id ∨ i.seenIds.contains id' := by
  obtain ⟨u, found⟩ := Option.isSome_iff_exists.mp h
  have entry := mem_of_mem_dropOldest ((get?_eq_some_iff _ _ _).mp found)
  rw [mem_moveToEnd, ← get?_eq_some_iff, get?_set] at entry
  split_ifs at entry with same
  · exact .inl same
  · exact .inr (Option.isSome_iff_exists.mpr ⟨u, entry⟩)

structure Takes (i : Inbox) (m : Message) (i' : Inbox) : Prop where
  held : Holds i' m
  origin : ∀ n, Holds i' n → Holds i n ∨ n = m
  kept : ∀ n, Holds i n → Holds i' n ∨ n.sequence = m.sequence
  seen : ∀ id, i'.seenIds.contains id → id = m.messageId ∨ i.seenIds.contains id

lemma seenIds_drainLoop (turns) : (i.drainLoop turns).2.seenIds = i.seenIds := by
  induction turns generalizing i with
  | zero => rfl
  | succ turns ih =>
    unfold drainLoop
    cases i.buffer.get? i.expectedSequence with
    | none => rfl
    | some => exact ih i.pop

lemma holds_remember (id n) : Holds (i.remember id) n ↔ Holds i n := by
  rw [Holds, Holds, remember]

lemma deliverNext_holds (m n : Message) :
    Holds ({ i with expectedSequence := i.expectedSequence + 1 }.drainContiguous.2.markDelivered
        (m :: { i with expectedSequence := i.expectedSequence + 1 }.drainContiguous.1)) n ↔
      Holds i n ∨ n = m := by
  set j : Inbox := { i with expectedSequence := i.expectedSequence + 1 } with hj
  obtain ⟨same, moved⟩ := j.drainLoop_holds j.buffer.size
  show (n ∈ (j.drainLoop j.buffer.size).2.delivered ++ m :: (j.drainLoop j.buffer.size).1 ∨ _) ↔ _
  rw [mem_append, mem_cons, same]
  have rest := moved n
  constructor
  · rintro ((old | new | drained) | buffered)
    · exact .inl (.inl old)
    · exact .inr new
    · exact .inl (.inr (rest.mp (.inl drained)))
    · exact .inl (.inr (rest.mp (.inr buffered)))
  · rintro ((old | buffered) | new)
    · exact .inl (.inl old)
    · rcases rest.mpr buffered with drained | buffered
      · exact .inl (.inr (.inr drained))
      · exact .inr buffered
    · exact .inl (.inr (.inl new))

lemma forceProgress_holds (m now n) :
    Holds (i.forceProgress m now).2 n ↔ Holds (i.hold m now) n :=
  deliverBuffered_holds _ n

lemma seenIds_forceProgress (m now) : (i.forceProgress m now).2.seenIds = i.seenIds :=
  seenIds_drainLoop _ _

lemma accept_takes {i : Inbox}
    (h : (i.accept m now).1.verdict ≠ .duplicate) : Takes i m (i.accept m now).2 := by
  unfold accept at h ⊢
  split at h
  · exact absurd rfl h
  · split at h
    · exact absurd rfl h
    · next unseen new =>
      rw [if_neg unseen, if_neg new]
      have same := i.holds_remember m.messageId
      have ids : ∀ id, (i.remember m.messageId).seenIds.contains id →
          id = m.messageId ∨ i.seenIds.contains id := fun id => mem_remember
      -- the rest is about the inbox that has remembered the id
      generalize i.remember m.messageId = j at h same ids ⊢
      obtain ⟨held, origin, kept⟩ := j.hold_holds m now
      dsimp only at h ⊢
      split
      · have split := j.deliverNext_holds m
        refine ⟨(split m).mpr (.inr rfl), fun n after => ?_, fun n old => ?_, fun id seen => ?_⟩
        · exact ((split n).mp after).imp_left (same n).mp
        · exact .inl ((split n).mpr (.inl ((same n).mpr old)))
        · refine ids id ?_
          rw [← seenIds_drainLoop { j with expectedSequence := j.expectedSequence + 1 }
            j.buffer.size]
          exact seen
      · split
        · have forced := j.forceProgress_holds m now
          refine ⟨(forced m).mpr held, fun n after => ?_, fun n old => ?_, fun id seen => ?_⟩
          · exact (origin n ((forced n).mp after)).imp_left (same n).mp
          · exact (kept n ((same n).mpr old)).imp_left (forced n).mpr
          · rw [j.seenIds_forceProgress] at seen
            exact ids id seen
        · refine ⟨held, fun n after => ?_, fun n old => kept n ((same n).mpr old), ids⟩
          exact (origin n after).imp_left (same n).mp

lemma accept_duplicate {i : Inbox} (h : (i.accept m now).1.verdict = .duplicate) :
    (i.seenIds.contains m.messageId ∨ m.sequence < i.expectedSequence) ∧
      (∀ n, Holds (i.accept m now).2 n ↔ Holds i n) ∧
      ∀ id, (i.accept m now).2.seenIds.contains id →
        id = m.messageId ∨ i.seenIds.contains id := by
  unfold accept at h ⊢
  split at h
  · next seen =>
    rw [if_pos seen]
    exact ⟨.inl seen, fun n => Iff.rfl, fun id => .inr⟩
  · split at h
    · next unseen old =>
      rw [if_neg unseen, if_pos old]
      exact ⟨.inr old, i.holds_remember m.messageId, fun id seen => mem_remember seen⟩
    · dsimp only at h
      split at h
      · cases h
      · split at h <;> cases h

lemma checkStarvation_holds (now) : (∀ n, Holds (i.checkStarvation now).2 n ↔ Holds i n) ∧
      (i.checkStarvation now).2.seenIds = i.seenIds := by
  unfold checkStarvation
  split
  · exact ⟨fun n => Iff.rfl, rfl⟩
  · split
    · exact ⟨fun n => Iff.rfl, rfl⟩
    · exact ⟨deliverBuffered_holds _, seenIds_drainLoop _ _⟩

end Inbox

structure Stream where
  inbox : Inbox
  received : List Message

namespace Stream
open Inbox (Holds)

inductive Event
  | arrival (m : Message) (now : ℚ)
  | starvation (now : ℚ)
  | readAll

def step (s : Stream) : Event → Stream
  | .arrival m now => { inbox := (s.inbox.accept m now).2, received := s.received ++ [m] }
  | .starvation now => { s with inbox := (s.inbox.checkStarvation now).2 }
  | .readAll => { s with inbox := s.inbox.markAllRead.2 }

def start (reorderWindow : ℚ) (window_pos : 0 < reorderWindow) : Stream :=
  { inbox := .start reorderWindow window_pos, received := [] }

def run (s : Stream) (events : List Event) : Stream := events.foldl step s

def Regular (s : Stream) : Event → Prop
  | .arrival m _ => (∀ n ∈ s.received, n.messageId = m.messageId ↔ n.sequence = m.sequence) ∧
      (m.sequence < s.inbox.expectedSequence →
        ∃ n ∈ s.inbox.delivered, n.sequence = m.sequence)
  | _ => True

instance (s : Stream) (event : Event) : Decidable (Regular s event) := by
  unfold Regular
  cases event <;> infer_instance

def Known (i : Inbox) (id : MessageId) : Prop := ∃ n, Holds i n ∧ n.messageId = id

structure Sound (s : Stream) : Prop where
  seen : ∀ id, s.inbox.seenIds.contains id → Known s.inbox id
  received : ∀ n, Holds s.inbox n → n ∈ s.received

lemma sound_start (reorderWindow) (window_pos : 0 < reorderWindow) :
    Sound (start reorderWindow window_pos) where
  seen := nofun
  received n holds := by
    rcases holds with delivered | ⟨t, buffered⟩
    · exact absurd delivered not_mem_nil
    · cases buffered

variable {s : Stream}

lemma Sound.duplicate (h : Sound s) {m : Message} {now} (regular : Regular s (.arrival m now))
    (verdict : (s.inbox.accept m now).1.verdict = .duplicate) : Known s.inbox m.messageId := by
  rcases (Inbox.accept_duplicate verdict).1 with seen | old
  · exact h.seen _ seen
  · obtain ⟨n, delivered, same⟩ := regular.2 old
    have holds : Holds s.inbox n := .inl delivered
    exact ⟨n, holds, (regular.1 n (h.received n holds)).mpr same⟩

lemma Sound.step (h : Sound s) (event) (regular : Regular s event) : Sound (s.step event) := by
  cases event with
  | arrival m now =>
    by_cases verdict : (s.inbox.accept m now).1.verdict = .duplicate
    · have known := h.duplicate regular verdict
      obtain ⟨-, same, ids⟩ := Inbox.accept_duplicate verdict
      have lift {id : MessageId} : Known s.inbox id → Known (s.inbox.accept m now).2 id :=
        fun ⟨n, holds, hid⟩ => ⟨n, (same n).mpr holds, hid⟩
      refine ⟨fun id seen => ?_, fun n holds => ?_⟩
      · rcases ids id seen with rfl | before
        · exact lift known
        · exact lift (h.seen id before)
      · exact mem_append_left _ (h.received n ((same n).mp holds))
    · obtain ⟨held, origin, kept, ids⟩ := Inbox.accept_takes verdict
      refine ⟨fun id seen => ?_, fun n holds => ?_⟩
      · rcases ids id seen with rfl | before
        · exact ⟨m, held, rfl⟩
        · obtain ⟨n, holds, rfl⟩ := h.seen id before
          rcases kept n holds with still | replaced
          · exact ⟨n, still, rfl⟩
          · -- only a copy of the same message can take its place in the buffer
            exact ⟨m, held, ((regular.1 n (h.received n holds)).mpr replaced).symm⟩
      · rcases origin n holds with before | rfl
        · exact mem_append_left _ (h.received n before)
        · exact mem_append_right _ mem_cons_self
  | starvation now =>
    obtain ⟨same, ids⟩ := s.inbox.checkStarvation_holds now
    refine ⟨fun id seen => ?_, fun n holds => h.received n ((same n).mp holds)⟩
    obtain ⟨n, holds, hid⟩ := h.seen id (ids ▸ seen)
    exact ⟨n, (same n).mpr holds, hid⟩
  | readAll => exact ⟨h.seen, h.received⟩

/-- Along a regular stream, a message is taken for a duplicate only if it is known. -/
theorem duplicates_known (reorderWindow : ℚ) (window_pos : 0 < reorderWindow)
    (events : List Event) (m : Message) (now : ℚ)
    (regular : Runs.Along step Regular (start reorderWindow window_pos)
      (events ++ [.arrival m now]))
    (verdict : (((start reorderWindow window_pos).run events).inbox.accept m now).1.verdict =
      .duplicate) :
    Known ((start reorderWindow window_pos).run events).inbox m.messageId := by
  obtain ⟨before, last⟩ := (Runs.along_append events [.arrival m now]).mp regular
  have sound : Sound ((start reorderWindow window_pos).run events) :=
    before.invariant (sound_start reorderWindow window_pos) fun s event h ok => h.step event ok
  exact sound.duplicate last.1 verdict

def plainMessage (id : MessageId) (sequence : ℕ) (positive : 1 ≤ sequence) : Message where
  messageId := id
  direction := .incoming
  text := "hi"
  sequence
  status := .delivered
  error := none
  text_valid := by decide
  sequence_pos := positive
  incoming_settled _ := .inl rfl

def first : MessageId := ⟨"msg_0000000000000000", by decide⟩
def second : MessageId := ⟨"msg_0000000000000001", by decide⟩

def opening : Message := plainMessage first 1 first_sequence_pos

def reopening : Message := plainMessage second 1 first_sequence_pos

theorem restarted_peer_silenced :
    let s := (start 5 (by decide)).run [.arrival opening 0]
    (s.inbox.accept reopening 1).1 = { verdict := .duplicate, deliverable := [] } ∧
      ¬ Known s.inbox second := by
  refine ⟨by decide +kernel, ?_⟩
  rintro ⟨n, delivered | ⟨t, buffered⟩, hid⟩
  · have only : ((start 5 (by decide)).run [.arrival opening 0]).inbox.delivered = [opening] := by
      decide +kernel
    rw [only] at delivered
    rw [mem_singleton.mp delivered] at hid
    exact absurd hid (by decide)
  · exact nomatch buffered

theorem repeated_message_known :
    Known ((start 5 (by decide)).run [.arrival opening 0]).inbox first :=
  duplicates_known 5 (by decide) [.arrival opening 0] opening 1 (by decide +kernel)
    (by decide +kernel)

end Stream

end Ghostlink.Messaging
