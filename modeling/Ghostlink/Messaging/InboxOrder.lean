import Ghostlink.Messaging.Inbox

/-! The order and the bounds of the incoming queue over whole streams, and what the cursor of the
read receipts covers. -/

namespace Ghostlink.Messaging
open Collections List Message Nat

namespace Inbox

structure Drained (i : Inbox) (ms : List Message) (i' : Inbox) : Prop where
  sequences : ms.map sequence = List.range' i.expectedSequence ms.length
  expected : i'.expectedSequence = i.expectedSequence + ms.length
  size : i'.buffer.size + ms.length ≤ i.buffer.size
  buffer : ∀ sequence e, i'.buffer.get? sequence = some e ↔ i.buffer.get? sequence = some e ∧
    (sequence < i.expectedSequence ∨ i.expectedSequence + ms.length ≤ sequence)
  delivered : i'.delivered = i.delivered
  read : i'.highestReadSequence = i.highestReadSequence

lemma Drained.refl (i : Inbox) : Drained i [] i :=
  ⟨rfl, rfl, le_rfl, fun _ _ => (and_iff_left (lt_or_ge _ _)).symm, rfl, rfl⟩

lemma drainLoop_drained (i : Inbox) (turns) :
    Drained i (i.drainLoop turns).1 (i.drainLoop turns).2 := by
  induction turns generalizing i with
  | zero => exact .refl i
  | succ turns ih =>
    unfold drainLoop
    cases next : i.buffer.get? i.expectedSequence with
    | none => exact .refl i
    | some e =>
      obtain ⟨sequences, expected, size, buffer, delivered, read⟩ := ih i.pop
      have numbered : e.1.sequence = i.expectedSequence := i.filed _ _ next
      have smaller := i.buffer.size_erase_of_some next
      have popped : i.pop.expectedSequence = i.expectedSequence + 1 := rfl
      refine ⟨?_, ?_, ?_, fun sequence f => ?_, delivered, read⟩
      · rw [map_cons, sequences, numbered]
        rfl
      · rw [expected, popped, length_cons]
        omega
      · rw [length_cons]
        exact (succ_le_succ size).trans smaller
      · have erased := i.buffer.get?_erase i.expectedSequence sequence
        rw [buffer, popped, length_cons,
          show i.pop.buffer = i.buffer.erase i.expectedSequence from rfl, erased]
        split_ifs with here
        · simp [here]
        · exact and_congr_right fun _ => by omega

def Covered (i : Inbox) : Prop := i.highestReadSequence < i.expectedSequence ∨
  ∃ sequence e, i.buffer.get? sequence = some e ∧ i.highestReadSequence ≤ sequence

structure Ordered (limit : ℕ) (i : Inbox) : Prop where
  increasing : (i.delivered.map sequence).Pairwise (· < ·)
  passed : ∀ m ∈ i.delivered, m.sequence < i.expectedSequence
  ahead : ∀ sequence e, i.buffer.get? sequence = some e → i.expectedSequence < sequence
  bounded : i.buffer.size ≤ limit
  reached : i.expectedSequence = 1 ∨ ∃ m ∈ i.delivered, m.sequence + 1 = i.expectedSequence
  read : Covered i

/-- A call keeps the order and hands out what it appends to the delivered messages. -/
structure Hands (i : Inbox) (ms : List Message) (i' : Inbox) : Prop where
  ordered : Ordered maxReorderBuffer i'
  expected : i.expectedSequence ≤ i'.expectedSequence
  delivered : i'.delivered = i.delivered ++ ms
  read : i'.highestReadSequence = i.highestReadSequence

/-- What holds when the buffer is drained, `ms` being delivered with what comes out of it. -/
structure Ready (i : Inbox) (ms : List Message) : Prop where
  increasing : ((i.delivered ++ ms).map sequence).Pairwise (· < ·)
  passed : ∀ m ∈ i.delivered ++ ms, m.sequence < i.expectedSequence
  ahead : ∀ sequence e, i.buffer.get? sequence = some e → i.expectedSequence ≤ sequence
  bounded : i.buffer.size ≤ maxReorderBuffer ∧
      (∃ m ∈ i.delivered ++ ms, m.sequence + 1 = i.expectedSequence) ∨
    i.buffer.size ≤ maxReorderBuffer + 1 ∧ ∃ e, i.buffer.get? i.expectedSequence = some e
  read : Covered i

variable {i : Inbox} {ms : List Message} {limit : ℕ}

lemma Ready.hands (h : Ready i ms) : Hands i (ms ++ i.drainContiguous.1)
    (i.drainContiguous.2.markDelivered (ms ++ i.drainContiguous.1)) := by
  have complete := i.drainLoop_complete i.buffer.size le_rfl
  obtain ⟨sequences, expected, size, buffer, delivered, read⟩ := i.drainLoop_drained i.buffer.size
  unfold drainContiguous
  generalize (i.drainLoop i.buffer.size).1 = drained at *
  generalize (i.drainLoop i.buffer.size).2 = i' at *
  have range (k) : k ∈ drained.map sequence ↔
      i.expectedSequence ≤ k ∧ k < i.expectedSequence + drained.length := by
    rw [sequences, mem_range'_1]
  have appended : (i'.markDelivered (ms ++ drained)).delivered = (i.delivered ++ ms) ++ drained := by
    rw [append_assoc, ← delivered, markDelivered]
  have leaves {e} (head : i.buffer.get? i.expectedSequence = some e) : drained.length ≠ 0 := by
    intro none
    have kept := (buffer i.expectedSequence e).mpr ⟨head, .inr (by omega)⟩
    rw [expected, none] at complete
    cases complete.symm.trans kept
  refine ⟨⟨?_, ?_, fun sequence e found => ?_, ?_, ?_, ?_⟩,
    (le_add_right ..).trans expected.ge, appended.trans (append_assoc ..), read⟩
  · rw [appended, map_append, pairwise_append]
    refine ⟨h.increasing, sequences ▸ pairwise_lt_range', fun a old b new => ?_⟩
    obtain ⟨m, mem, rfl⟩ := mem_map.mp old
    exact (h.passed m mem).trans_le ((range b).mp new).1
  · intro m mem
    refine lt_of_lt_of_eq ?_ expected.symm
    rcases mem_append.mp (appended ▸ mem) with old | new
    · exact (h.passed m old).trans_le (Nat.le_add_right ..)
    · exact ((range _).mp (mem_map_of_mem new)).2
  · have kept := (buffer sequence e).mp found
    have from_start := h.ahead sequence e kept.1
    refine lt_of_le_of_ne (by omega : i'.expectedSequence ≤ sequence) ?_
    rintro rfl
    cases complete.symm.trans found
  · show i'.buffer.size ≤ maxReorderBuffer
    rcases h.bounded with ⟨small, -⟩ | ⟨small, e, head⟩
    · omega
    · have := leaves head
      omega
  · show _ ∨ ∃ m ∈ (i'.markDelivered _).delivered, m.sequence + 1 = i'.expectedSequence
    rw [appended, expected]
    by_cases none : drained.length = 0
    · rcases h.bounded with ⟨-, m, mem, last⟩ | ⟨-, e, head⟩
      · exact .inr ⟨m, mem_append_left _ mem, by omega⟩
      · exact absurd none (leaves head)
    · obtain ⟨m, mem, last⟩ := mem_map.mp
        ((range (i.expectedSequence + drained.length - 1)).mpr ⟨by omega, by omega⟩)
      exact .inr ⟨m, mem_append_right _ mem, by omega⟩
  · rcases h.read with below | ⟨sequence, e, found, le⟩
    · exact .inl (show i'.highestReadSequence < i'.expectedSequence by omega)
    · have from_start := h.ahead sequence e found
      by_cases drawn : sequence < i.expectedSequence + drained.length
      · exact .inl (show i'.highestReadSequence < i'.expectedSequence by omega)
      · exact .inr ⟨sequence, e, (buffer sequence e).mpr ⟨found, .inr (by omega)⟩, read.trans_le le⟩

lemma Ordered.hold {m : Message} (now : ℚ) {limit' : ℕ} (h : Ordered limit i)
    (new : i.expectedSequence < m.sequence) (room : i.buffer.size + 1 ≤ limit') :
    Ordered limit' (i.hold m now) := by
  have buffer (sequence) : (i.hold m now).buffer.get? sequence =
      if sequence = m.sequence then some (m, now) else i.buffer.get? sequence :=
    Dict.get?_set ..
  refine ⟨h.increasing, h.passed, fun sequence e found => ?_, ?_, h.reached, ?_⟩
  · rw [buffer] at found
    split_ifs at found with same
    · exact same ▸ new
    · exact h.ahead sequence e found
  · exact (i.buffer.size_set_le m.sequence (m, now)).trans room
  · rcases h.read with below | ⟨sequence, e, found, le⟩
    · exact .inl below
    · refine .inr ⟨sequence, if sequence = m.sequence then (m, now) else e, ?_, le⟩
      rw [buffer, found]
      split_ifs <;> rfl

lemma mem_keys {sequence e} (found : i.buffer.get? sequence = some e) :
    sequence ∈ i.buffer.keys :=
  mem_map_of_mem ((i.buffer.get?_eq_some_iff sequence e).mp found)

lemma oldest_held {oldest : ℕ} (found : i.buffer.keys.min? = some oldest) :
    ∃ e, i.buffer.get? oldest = some e := by
  obtain ⟨⟨k, e⟩, mem, rfl⟩ := mem_map.mp (min?_eq_some_iff.mp found).1
  exact ⟨e, (i.buffer.get?_eq_some_iff k e).mpr mem⟩

/-- The queue goes on at the oldest buffered message. -/
theorem Ordered.jump {oldest : ℕ} (h : Ordered (maxReorderBuffer + 1) i)
    (least : i.buffer.keys.min? = some oldest) :
    Hands i { i with expectedSequence := oldest }.deliverBuffered.1
      { i with expectedSequence := oldest }.deliverBuffered.2 := by
  obtain ⟨e, head⟩ := oldest_held least
  have later := h.ahead oldest e head
  have ready : Ready { i with expectedSequence := oldest } [] := by
    refine ⟨?_, ?_, fun sequence e found => ?_, .inr ⟨h.bounded, e, head⟩, ?_⟩
    · rw [append_nil]
      exact h.increasing
    · rw [append_nil]
      exact fun m mem => (h.passed m mem).trans later
    · exact (min?_eq_some_iff.mp least).2 sequence (mem_keys found)
    · exact h.read.imp_left later.trans'
  obtain ⟨ordered, expected, delivered, read⟩ := ready.hands
  exact ⟨ordered, later.le.trans expected, delivered, read⟩

section
variable (h : Ordered maxReorderBuffer i)
include h

lemma Ordered.forceProgress {m : Message} (now : ℚ) (later : i.expectedSequence < m.sequence) :
    Hands i (i.forceProgress m now).1.deliverable (i.forceProgress m now).2 := by
  have held := h.hold now later (succ_le_succ h.bounded)
  unfold Inbox.forceProgress
  dsimp only
  cases least : (i.hold m now).buffer.keys.min? with
  | none =>
    have here : (i.hold m now).buffer.get? m.sequence = some (m, now) := Dict.get?_set_self ..
    have empty : (i.hold m now).buffer.keys = [] := min?_eq_none_iff.mp least
    have absent := ((i.hold m now).buffer.get?_eq_none_iff m.sequence).mpr (by simp [empty])
    cases absent.symm.trans here
  | some oldest =>
    obtain ⟨ordered, expected, delivered, read⟩ := held.jump least
    exact ⟨ordered, expected, delivered, read⟩

lemma Ordered.ready {m : Message} (here : m.sequence = i.expectedSequence) :
    Ready { i with expectedSequence := i.expectedSequence + 1 } [m] := by
  refine ⟨?_, fun n mem => ?_, h.ahead, .inl ⟨h.bounded, m, by simp, by rw [here]⟩, ?_⟩
  · rw [map_append, pairwise_append]
    refine ⟨h.increasing, pairwise_singleton .., fun a old b new => ?_⟩
    obtain ⟨n, mem, rfl⟩ := mem_map.mp old
    rw [mem_singleton.mp new, here]
    exact h.passed n mem
  · rcases mem_append.mp mem with old | new
    · exact (h.passed n old).trans (lt_succ_self _)
    · rw [mem_singleton.mp new, here]
      exact lt_succ_self _
  · exact h.read.imp_left fun below => below.trans (lt_succ_self _)

lemma Ordered.accept (m : Message) (now : ℚ) :
    Hands i (i.accept m now).1.deliverable (i.accept m now).2 := by
  unfold Inbox.accept
  split
  · exact ⟨h, le_rfl, (append_nil _).symm, rfl⟩
  obtain ⟨seenIds, remembered⟩ : ∃ seenIds, i.remember m.messageId = { i with seenIds } := ⟨_, rfl⟩
  have kept : Ordered maxReorderBuffer { i with seenIds } := { h with }
  rw [remembered]
  split
  · exact ⟨kept, le_rfl, (append_nil _).symm, rfl⟩
  · next _ late =>
    dsimp only
    split
    · next here =>
      obtain ⟨ordered, expected, delivered, read⟩ := (kept.ready here).hands
      exact ⟨ordered, (le_succ _).trans expected, delivered, read⟩
    · next ahead =>
      have later : i.expectedSequence < m.sequence := by omega
      split
      · obtain ⟨ordered, expected, delivered, read⟩ := kept.forceProgress now later
        exact ⟨ordered, expected, delivered, read⟩
      · next room =>
        exact ⟨kept.hold now later (not_le.mp room), le_rfl, (append_nil _).symm, rfl⟩

end

/-- The buffered messages from `start` on, up to the first gap. -/
def Run (i : Inbox) (start : ℕ) (run : List Message) : Prop :=
  run.map sequence = List.range' start run.length ∧
    (∀ m ∈ run, ∃ arrived, i.buffer.get? m.sequence = some (m, arrived)) ∧
    i.buffer.get? (start + run.length) = none

lemma accept_next {m : Message} {now : ℚ} (here : m.sequence = i.expectedSequence)
    (fresh : i.seenIds.contains m.messageId = false) :
    ∃ run, (i.accept m now).1 = { verdict := .deliver, deliverable := m :: run } ∧
      i.Run (m.sequence + 1) run := by
  obtain ⟨seenIds, remembered⟩ : ∃ seenIds, i.remember m.messageId = { i with seenIds } := ⟨_, rfl⟩
  unfold Inbox.accept
  rw [if_neg (Bool.eq_false_iff.mp fresh), if_neg here.not_lt, remembered]
  rw [if_pos here, here]
  set j : Inbox := { i with seenIds, expectedSequence := i.expectedSequence + 1 }
  have complete := j.drainLoop_complete j.buffer.size le_rfl
  obtain ⟨sequences, expected, -, buffer, -, -⟩ := j.drainLoop_drained j.buffer.size
  have moved := (j.drainLoop_holds j.buffer.size).2
  refine ⟨j.drainContiguous.1, rfl, sequences, fun n mem => (moved n).mp (.inl mem), ?_⟩
  rw [expected] at complete
  refine Option.eq_none_iff_forall_ne_some.mpr fun e found => ?_
  cases complete.symm.trans ((buffer _ e).mpr ⟨found, .inr le_rfl⟩)

lemma Ordered.checkStarvation (h : Ordered maxReorderBuffer i) (now : ℚ) :
    Hands i (i.checkStarvation now).1 (i.checkStarvation now).2 := by
  unfold Inbox.checkStarvation
  split
  · exact ⟨h, le_rfl, (append_nil _).symm, rfl⟩
  · next oldest found =>
    split
    · exact ⟨h, le_rfl, (append_nil _).symm, rfl⟩
    · obtain ⟨e, head⟩ := oldest_held found
      rw [max_eq_right (h.ahead oldest e head).le]
      exact Ordered.jump { h with bounded := le_succ_of_le h.bounded } found

def highestDelivered (i : Inbox) : ℕ := (i.delivered.map sequence).max?.getD 0

section
variable (h : Ordered limit i)
include h

lemma Ordered.pos : 0 < i.expectedSequence := by
  rcases h.reached with one | ⟨m, -, last⟩ <;> omega

lemma Ordered.cursor_eq :
    i.buffer.keys = [] ∧ i.markAllRead.1 + 1 = i.expectedSequence ∨
      ∃ top e, i.buffer.get? top = some e ∧ i.markAllRead.1 = top := by
  have pos := h.pos
  simp only [Inbox.markAllRead, highestSequenceSeen]
  cases last : i.buffer.keys.max? with
  | none =>
    have empty := max?_eq_none_iff.mp last
    rcases h.read with below | ⟨sequence, e, found, -⟩
    · exact .inl ⟨empty, by rw [Option.getD_none]; omega⟩
    · exact absurd (mem_keys found) (by simp [empty])
  | some top =>
    obtain ⟨mem, greatest⟩ := max?_eq_some_iff.mp last
    obtain ⟨⟨k, e⟩, entry, rfl⟩ := mem_map.mp mem
    have found := (i.buffer.get?_eq_some_iff k e).mpr entry
    have later := h.ahead k e found
    have covered : i.highestReadSequence ≤ k := by
      rcases h.read with below | ⟨sequence, e, found, le⟩
      · omega
      · exact le.trans (greatest sequence (mem_keys found))
    exact .inr ⟨k, e, found, by rw [Option.getD_some]; omega⟩

lemma Ordered.markAllRead : Ordered limit i.markAllRead.2 := by
  refine { h with read := ?_ }
  show i.markAllRead.1 < i.expectedSequence ∨
    ∃ sequence e, i.buffer.get? sequence = some e ∧ i.markAllRead.1 ≤ sequence
  rcases h.cursor_eq with ⟨-, last⟩ | ⟨top, e, found, last⟩
  · exact .inl (by omega)
  · exact .inr ⟨top, e, found, last.le⟩

lemma Ordered.highestDelivered_lt : i.highestDelivered < i.expectedSequence := by
  unfold highestDelivered
  cases top : (i.delivered.map sequence).max? with
  | none => exact h.pos
  | some =>
    obtain ⟨m, mem, rfl⟩ := mem_map.mp (max?_eq_some_iff.mp top).1
    exact h.passed m mem

lemma Ordered.cursor_delivered_iff :
    (i.markAllRead.1 ≤ i.highestDelivered ↔ i.buffer.keys = []) ∧
      ((∀ sequence ∈ i.buffer.keys, i.markAllRead.1 < sequence) ↔ i.buffer.keys = []) := by
  have below := h.highestDelivered_lt
  rcases h.cursor_eq with ⟨empty, last⟩ | ⟨top, e, found, last⟩
  · refine ⟨⟨fun _ => empty, fun _ => ?_⟩, fun _ => empty, fun _ => by simp [empty]⟩
    rcases h.reached with one | ⟨m, mem, next⟩
    · omega
    · have le : m.sequence ≤ i.highestDelivered := le_max?_getD_of_mem (mem_map_of_mem mem)
      omega
  · have mem := mem_keys found
    have later := h.ahead top e found
    have held : i.buffer.keys ≠ [] := ne_nil_of_mem mem
    refine ⟨iff_of_false (by omega) held, iff_of_false (fun all => ?_) held⟩
    exact absurd (all top mem) (by omega)

end

end Inbox

namespace Stream
open Inbox (Ordered)

def deliveries (s : Stream) : Event → List Message
  | .arrival m now => (s.inbox.accept m now).1.deliverable
  | .starvation now => (s.inbox.checkStarvation now).1
  | .readAll => []

lemma step_ordered {s : Stream} (h : Ordered maxReorderBuffer s.inbox) (event) :
    Ordered maxReorderBuffer (s.step event).inbox ∧
      s.inbox.expectedSequence ≤ (s.step event).inbox.expectedSequence ∧
      (s.step event).inbox.delivered = s.inbox.delivered ++ s.deliveries event ∧
      s.inbox.highestReadSequence ≤ (s.step event).inbox.highestReadSequence := by
  cases event with
  | arrival m now =>
    obtain ⟨ordered, expected, delivered, read⟩ := h.accept m now
    exact ⟨ordered, expected, delivered, read.ge⟩
  | starvation now =>
    obtain ⟨ordered, expected, delivered, read⟩ := h.checkStarvation now
    exact ⟨ordered, expected, delivered, read.ge⟩
  | readAll => exact ⟨h.markAllRead, le_rfl, (append_nil _).symm, le_max_left _ _⟩

lemma run_ordered {s : Stream} (h : Ordered maxReorderBuffer s.inbox) (events : List Event) :
    Ordered maxReorderBuffer (s.run events).inbox ∧
      s.inbox.highestReadSequence ≤ (s.run events).inbox.highestReadSequence := by
  refine Runs.foldl_keeps (J := fun t : Stream => Ordered maxReorderBuffer t.inbox ∧
    s.inbox.highestReadSequence ≤ t.inbox.highestReadSequence) ?_ events ⟨h, le_rfl⟩
  rintro t event ⟨ordered, read⟩
  obtain ⟨next, -, -, later⟩ := step_ordered ordered event
  exact ⟨next, read.trans later⟩

lemma start_ordered (reorderWindow) (window_pos : 0 < reorderWindow) :
    Ordered maxReorderBuffer (start reorderWindow window_pos).inbox where
  increasing := List.Pairwise.nil
  passed m mem := absurd mem not_mem_nil
  ahead sequence e found := absurd found (by simp [start, Inbox.start])
  bounded := zero_le _
  reached := .inl rfl
  read := .inl zero_lt_one

/-- Every stream is delivered in order out of a bounded buffer, and a message that arrives in its
turn is delivered at once with the buffered messages that follow it. -/
theorem stream_delivered_in_order (reorderWindow : ℚ) (window_pos : 0 < reorderWindow)
    (events : List Event) :
    let s := (start reorderWindow window_pos).run events
    (s.inbox.delivered.map sequence).Pairwise (· < ·) ∧
      (∀ m ∈ s.inbox.delivered, m.sequence < s.inbox.expectedSequence) ∧
      s.inbox.buffer.size ≤ maxReorderBuffer ∧
      (∀ sequence e, s.inbox.buffer.get? sequence = some e →
        s.inbox.expectedSequence < sequence) ∧
      (∀ event, s.inbox.expectedSequence ≤ (s.step event).inbox.expectedSequence ∧
        (s.step event).inbox.delivered = s.inbox.delivered ++ s.deliveries event) ∧
      ∀ m now, m.sequence = s.inbox.expectedSequence →
        s.inbox.seenIds.contains m.messageId = false →
        ∃ run, (s.inbox.accept m now).1 = { verdict := .deliver, deliverable := m :: run } ∧
          s.inbox.Run (m.sequence + 1) run := by
  intro s
  obtain ⟨h, -⟩ := run_ordered (start_ordered reorderWindow window_pos) events
  refine ⟨h.increasing, h.passed, h.bounded, h.ahead, fun event => ?_, fun m now here fresh => ?_⟩
  · obtain ⟨-, expected, delivered, -⟩ := step_ordered h event
    exact ⟨expected, delivered⟩
  · exact Inbox.accept_next here fresh

/-- The second message comes first; the first one takes it along. -/
theorem gap_filled_in_order :
    let s := (start 5 (by decide)).run [.arrival (plainMessage second 2 (by decide)) 0]
    (s.inbox.accept opening 1).1.deliverable.map sequence = [1, 2] ∧
      ∃ run, (s.inbox.accept opening 1).1 = { verdict := .deliver, deliverable := opening :: run } ∧
        s.inbox.Run 2 run := by
  intro s
  obtain ⟨-, -, -, -, -, inTurn⟩ := stream_delivered_in_order 5 (by decide)
    [.arrival (plainMessage second 2 (by decide)) 0]
  exact ⟨by decide +kernel, inTurn opening 1 (by decide +kernel) (by decide +kernel)⟩

/-- The read cursor stays within the delivered messages, and below the buffered ones, exactly
while nothing is buffered. It never decreases. -/
theorem cursor_within_delivered_iff (reorderWindow : ℚ) (window_pos : 0 < reorderWindow)
    (events : List Event) :
    let s := (start reorderWindow window_pos).run events
    (s.inbox.markAllRead.1 ≤ s.inbox.highestDelivered ↔ s.inbox.buffer.keys = []) ∧
      ((∀ sequence ∈ s.inbox.buffer.keys, s.inbox.markAllRead.1 < sequence) ↔
        s.inbox.buffer.keys = []) ∧
      ∀ more, s.inbox.markAllRead.1 ≤ ((s.step .readAll).run more).inbox.markAllRead.1 := by
  intro s
  obtain ⟨h, -⟩ := run_ordered (start_ordered reorderWindow window_pos) events
  refine ⟨h.cursor_delivered_iff.1, h.cursor_delivered_iff.2, fun more => ?_⟩
  exact (run_ordered (s := s.step .readAll) h.markAllRead more).2.trans (le_max_left _ _)

theorem cursor_after_first_message :
    ((start 5 (by decide)).run [.arrival opening 0]).inbox.markAllRead.1 ≤
      ((start 5 (by decide)).run [.arrival opening 0]).inbox.highestDelivered :=
  (cursor_within_delivered_iff 5 (by decide) [.arrival opening 0]).1.mpr (by decide +kernel)

theorem buffered_message_read :
    let s := (start 5 (by decide)).run [.arrival (plainMessage second 3 (by decide)) 0]
    s.inbox.delivered = [] ∧ s.inbox.buffer.keys = [3] ∧ s.inbox.markAllRead.1 = 3 ∧
      s.inbox.highestDelivered = 0 := by
  decide +kernel

end Stream
end Ghostlink.Messaging
