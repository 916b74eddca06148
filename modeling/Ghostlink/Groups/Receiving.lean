import Ghostlink.Base.Runs
import Ghostlink.Groups.Frames

/-! What happens to an authenticated message frame. Two gates decide: a bounded memory of ids,
which marks an id on first sight, and a cursor for each sender, which may then refuse the frame.
A frame that passes both is shown and acknowledged; one whose id is remembered is acknowledged
again. Both message handlers end in these steps. Beside the state stand the messages shown, the
acknowledgements sent, and the ids that the second gate refused or the memory let go of. -/

namespace Ghostlink.Groups
open Collections List Dict

def groupSeenIdsPerSender : ℕ := 512
def groupGseqMaxGap : ℤ := 64
def groupSeqStateMax : ℕ := 32

abbrev SeenKey := Fingerprint × MessageId

structure SeenMessageIds where
  capacity : ℕ
  ids : Dict SeenKey Unit
  senders : Dict Fingerprint ℕ

namespace SeenMessageIds

def make (capacity : ℕ) : SeenMessageIds :=
  { capacity := max 1 capacity, ids := Dict.empty, senders := Dict.empty }

def evictOldestOf (sender : Fingerprint) (m : SeenMessageIds) : SeenMessageIds :=
  match m.ids.keys.find? fun key => key.1 = sender with
  | none => m
  | some key =>
    { m with ids := m.ids.erase key
             senders := m.senders.set sender ((m.senders.get? sender).getD 0 - 1) }

def evictIfNeeded (m : SeenMessageIds) (sender : Fingerprint) : SeenMessageIds :=
  (evictOldestOf sender)^[(m.senders.get? sender).getD 0 - m.capacity] m

def popOldest (m : SeenMessageIds) : SeenMessageIds :=
  match m.ids.keys.head? with
  | none => m
  | some key =>
    { m with ids := m.ids.erase key
             senders := m.senders.set key.1 ((m.senders.get? key.1).getD 1 - 1) }

def seen (m : SeenMessageIds) (key : SeenKey) : Bool × SeenMessageIds :=
  if m.ids.contains key then (true, { m with ids := m.ids.moveToEnd key })
  else
    let m := { m with
      ids := m.ids.set key ()
      senders := m.senders.set key.1 ((m.senders.get? key.1).getD 0 + 1) }
    let m := m.evictIfNeeded key.1
    (false, popOldest^[m.ids.size - m.capacity * maxGroupMembers] m)

def Within (m m' : SeenMessageIds) : Prop :=
  ∀ key, m'.ids.contains key → m.ids.contains key

variable (m : SeenMessageIds)

lemma within_erase (key : SeenKey) (senders : Dict Fingerprint ℕ) :
    Within m { m with ids := m.ids.erase key, senders } := by
  intro key' inside
  rw [contains_erase] at inside
  exact inside.2

lemma within_evictOldestOf (sender) (m : SeenMessageIds) : Within m (m.evictOldestOf sender) := by
  unfold evictOldestOf
  split
  · exact fun _ inside => inside
  · exact within_erase m _ _

lemma within_popOldest : Within m m.popOldest := by
  unfold popOldest
  split
  · exact fun _ inside => inside
  · exact within_erase m _ _

lemma within_iterate {op} (shrinks : ∀ m, Within m (op m)) (n m) : Within m (op^[n] m) := by
  induction n generalizing m with
  | zero => exact fun _ inside => inside
  | succ n ih => exact fun key inside => shrinks m key (ih (op m) key inside)

lemma seen_fst (key) : (m.seen key).1 = m.ids.contains key := by
  unfold seen
  split_ifs with inside
  · rw [inside]
  · exact (Bool.not_eq_true _ ▸ inside).symm

lemma seen_of_contains {m : SeenMessageIds} {key} (inside : m.ids.contains key)
    (key') : (m.seen key).2.ids.contains key' = m.ids.contains key' := by
  have same : (m.ids.moveToEnd key).get? key' = m.ids.get? key' := by
    refine Option.ext fun u => ?_
    rw [get?_eq_some_iff, get?_eq_some_iff, mem_moveToEnd]
  unfold seen
  rw [if_pos inside, Dict.contains, same]
  rfl

lemma contains_of_seen {m : SeenMessageIds} {key key'}
    (outside : m.ids.contains key = false) (inside : (m.seen key).2.ids.contains key') :
    (m.ids.set key ()).contains key' := by
  unfold seen at inside
  rw [outside, if_neg Bool.false_ne_true] at inside
  have kept := within_iterate within_popOldest _ _ key' inside
  exact within_iterate (within_evictOldestOf key.1) _ _ key' kept

end SeenMessageIds

inductive GseqVerdict
  | new | gap | duplicate | excessiveGap
  deriving DecidableEq, Repr

def GseqVerdict.accepts : GseqVerdict → Bool
  | .new | .gap => true
  | .duplicate | .excessiveGap => false

structure GseqTracker where
  maxGap : ℤ
  maxSenders : ℕ
  last : Dict Fingerprint ℤ

namespace GseqTracker

def make (maxGap : ℤ) : GseqTracker :=
  { maxGap, maxSenders := groupSeqStateMax, last := Dict.empty }

def observe (t : GseqTracker) (sender : Fingerprint) (gseq : ℤ) : GseqVerdict × GseqTracker :=
  match t.last.get? sender with
  | none =>
    if t.last.size ≥ t.maxSenders then (.excessiveGap, t)
    else (.new, { t with last := t.last.set sender gseq })
  | some last =>
    if gseq ≤ last then (.duplicate, t)
    else if gseq - last > t.maxGap then (.excessiveGap, t)
    else (if gseq - last > 1 then .gap else .new, { t with last := t.last.set sender gseq })

end GseqTracker

structure MessageFrame where
  groupId : GroupId
  epoch : ℕ
  sender : Fingerprint
  recipient : String
  messageId : MessageId
  gseq : ℤ
  name : String
  text : String
  ts : Seconds

def MessageFrame.key (frame : MessageFrame) : SeenKey := (frame.sender, frame.messageId)

structure Shown where
  frame : MessageFrame
  gap : Bool

structure Receiver where
  seen : SeenMessageIds
  gseq : GseqTracker
  shown : List Shown
  gacks : List SeenKey
  refused : List SeenKey
  evicted : List SeenKey

namespace Receiver
variable {r : Receiver} {frame : MessageFrame} {linked : Bool}

def start : Receiver :=
  { seen := .make groupSeenIdsPerSender, gseq := .make groupGseqMaxGap, shown := [], gacks := [],
    refused := [], evicted := [] }

def sendGack (r : Receiver) (frame : MessageFrame) (linked : Bool) : Receiver :=
  if linked then { r with gacks := r.gacks ++ [frame.key] } else r

def letGo (m : SeenMessageIds) (key : SeenKey) : List SeenKey :=
  (m.ids.set key ()).keys.filter fun k => !(m.seen key).2.ids.contains k

def receive (r : Receiver) (frame : MessageFrame) (linked : Bool) : Receiver :=
  match r.seen.seen frame.key with
  | (true, seen) => { r with seen }.sendGack frame linked
  | (false, seen) =>
    let r := { r with seen, evicted := r.evicted ++ letGo r.seen frame.key }
    match r.gseq.observe frame.sender frame.gseq with
    | (.duplicate, _) | (.excessiveGap, _) => { r with refused := r.refused ++ [frame.key] }
    | (verdict, gseq) =>
      let shown : Shown := { frame, gap := verdict = .gap }
      { r with gseq, shown := r.shown ++ [shown] }.sendGack frame linked

structure Arrival where
  frame : MessageFrame
  linked : Bool

def step (r : Receiver) (a : Arrival) : Receiver := r.receive a.frame a.linked

def run (arrivals : List Arrival) : Receiver := arrivals.foldl step start

def shownKeys (r : Receiver) : List SeenKey := r.shown.map fun s => s.frame.key

/-- The frame is not a copy of one that the cursor refused and the memory still has, nor does
it carry, to a cursor that takes it, an id that the memory let go of. -/
def fresh (r : Receiver) (a : Arrival) : Bool :=
  if r.seen.ids.contains a.frame.key then a.frame.key ∉ r.refused
  else a.frame.key ∉ r.evicted ||
    !(r.gseq.observe a.frame.sender a.frame.gseq).1.accepts

structure Honest (r : Receiver) : Prop where
  marked : ∀ key, r.seen.ids.contains key → key ∈ r.shownKeys ∨ key ∈ r.refused
  recalled : ∀ key ∈ r.shownKeys, r.seen.ids.contains key ∨ key ∈ r.evicted
  once : r.shownKeys.Nodup
  acked : ∀ key ∈ r.gacks, key ∈ r.shownKeys

lemma honest_start : Honest start :=
  ⟨nofun, nofun, nodup_nil, nofun⟩

lemma Honest.sendGack (h : Honest r) (shown : frame.key ∈ r.shownKeys) (linked) :
    Honest (r.sendGack frame linked) := by
  unfold Receiver.sendGack
  split_ifs
  · refine ⟨h.marked, h.recalled, h.once, ?_⟩
    intro key mem
    rcases mem_append.mp mem with old | new
    · exact h.acked key old
    · rwa [mem_singleton.mp new]
  · exact h

lemma receive_of_contains (inside : r.seen.ids.contains frame.key) :
    r.receive frame linked =
      { r with seen := (r.seen.seen frame.key).2 }.sendGack frame linked := by
  have found := r.seen.seen_fst frame.key
  rw [inside] at found
  unfold receive
  rw [show r.seen.seen frame.key = (true, (r.seen.seen frame.key).2) from Prod.ext found rfl]

lemma receive_of_not_contains (outside : r.seen.ids.contains frame.key = false) :
    (r.gseq.observe frame.sender frame.gseq).1.accepts = false ∧
      r.receive frame linked =
        { r with seen := (r.seen.seen frame.key).2
                 evicted := r.evicted ++ letGo r.seen frame.key
                 refused := r.refused ++ [frame.key] } ∨
    (r.gseq.observe frame.sender frame.gseq).1.accepts ∧
      ∃ gseq gap, r.receive frame linked =
        sendGack
          { r with seen := (r.seen.seen frame.key).2
                   evicted := r.evicted ++ letGo r.seen frame.key
                   gseq
                   shown := r.shown ++ [{ frame, gap }] } frame linked := by
  have found := r.seen.seen_fst frame.key
  rw [outside] at found
  unfold receive
  rw [show r.seen.seen frame.key = (false, (r.seen.seen frame.key).2) from Prod.ext found rfl]
  dsimp only
  cases observed : r.gseq.observe frame.sender frame.gseq with
  | mk verdict gseq =>
    cases verdict with
    | new | gap => exact .inr ⟨rfl, gseq, _, rfl⟩
    | duplicate | excessiveGap => exact .inl ⟨rfl, rfl⟩

lemma mem_letGo {m : SeenMessageIds} {key key'} (inside : (m.ids.set key ()).contains key') :
    (m.seen key).2.ids.contains key' ∨ key' ∈ letGo m key := by
  by_cases stays : (m.seen key).2.ids.contains key'
  · exact .inl stays
  · refine .inr (mem_filter.mpr ⟨?_, ?_⟩)
    · by_contra absent
      simp [Dict.contains, (get?_eq_none_iff _ _).mpr absent] at inside
    · rw [Bool.not_eq_true] at stays
      simp [stays]

lemma Honest.step (h : Honest r) (a) (fresh : r.fresh a) : Honest (r.step a) := by
  obtain ⟨frame, linked⟩ := a
  unfold Receiver.step
  cases known : r.seen.ids.contains frame.key with
  | true =>
    rw [receive_of_contains known]
    have same := SeenMessageIds.seen_of_contains known
    have shown : frame.key ∈ r.shownKeys := by
      rw [Receiver.fresh, if_pos known] at fresh
      exact (h.marked frame.key known).resolve_right (of_decide_eq_true fresh)
    have kept : Honest { r with seen := (r.seen.seen frame.key).2 } := by
      refine ⟨?_, ?_, h.once, h.acked⟩
      · intro key inside
        exact h.marked key ((same key).symm.trans inside)
      · intro key mem
        rw [same key]
        exact h.recalled key mem
    exact kept.sendGack shown linked
  | false =>
    have marked : ∀ key, (r.seen.seen frame.key).2.ids.contains key →
        key = frame.key ∨ key ∈ r.shownKeys ∨ key ∈ r.refused := by
      intro key inside
      have joined := SeenMessageIds.contains_of_seen known inside
      rw [contains_set] at joined
      exact joined.imp_right (h.marked key)
    have recalled : ∀ key, key = frame.key ∨ key ∈ r.shownKeys →
        (r.seen.seen frame.key).2.ids.contains key ∨
          key ∈ r.evicted ++ letGo r.seen frame.key := by
      intro key mem
      have here : (r.seen.ids.set frame.key ()).contains key ∨ key ∈ r.evicted := by
        rw [contains_set]
        rcases mem with new | old
        · exact .inl (.inl new)
        · exact (h.recalled key old).imp_left .inr
      rcases here with joined | gone
      · exact (mem_letGo joined).imp_right (mem_append_right _)
      · exact .inr (mem_append_left _ gone)
    rcases @receive_of_not_contains r frame linked known with
      ⟨-, refused⟩ | ⟨accepts, gseq, gap, shown⟩
    · rw [refused]
      refine ⟨?_, ?_, h.once, h.acked⟩
      · intro key inside
        rcases marked key inside with rfl | old
        · exact .inr (mem_append_right _ mem_cons_self)
        · exact old.imp_right (mem_append_left _)
      · exact fun key mem => recalled key (.inr mem)
    · rw [shown]
      -- the cursor takes the frame, so the id was not let go of, and it is in no memory
      have unseen : frame.key ∉ r.shownKeys := by
        intro mem
        rw [Receiver.fresh, if_neg (by rw [known]; exact Bool.false_ne_true)] at fresh
        rw [accepts, Bool.not_true, Bool.or_false, decide_eq_true_eq] at fresh
        rcases h.recalled frame.key mem with there | gone
        · rw [known] at there
          exact nomatch there
        · exact fresh gone
      let entry : Shown := { frame, gap }
      have keys : (r.shown ++ [entry]).map (fun s : Shown => s.frame.key) =
          r.shownKeys ++ [frame.key] := by
        rw [map_append]
        rfl
      refine Honest.sendGack ⟨?_, ?_, ?_, ?_⟩ ?_ linked
      · intro key inside
        rw [shownKeys, keys]
        rcases marked key inside with rfl | old
        · exact .inl (mem_append_right _ mem_cons_self)
        · exact old.imp_left (mem_append_left _)
      · intro key mem
        rw [shownKeys, keys] at mem
        rcases mem_append.mp mem with old | new
        · exact recalled key (.inr old)
        · exact recalled key (.inl (mem_singleton.mp new))
      · rw [shownKeys, keys]
        exact nodup_append_comm.mp (nodup_cons.mpr ⟨unseen, h.once⟩)
      · intro key mem
        rw [shownKeys, keys]
        exact mem_append_left _ (h.acked key mem)
      · rw [shownKeys, keys]
        exact mem_append_right _ mem_cons_self

/-- If no frame comes again after the cursor refused it or the memory let go of its id, then
only messages that were shown are acknowledged, and none is shown twice. -/
theorem acknowledged_messages_shown_once (arrivals : List Arrival)
    (fresh : Runs.Along step (fun r a => r.fresh a) start arrivals) :
    (∀ key ∈ (run arrivals).gacks, (run arrivals).shownKeys.count key = 1) ∧
      ∀ key, (run arrivals).shownKeys.count key ≤ 1 := by
  have h : Honest (run arrivals) :=
    fresh.invariant honest_start fun r a h ok => h.step a ok
  refine ⟨?_, ?_⟩
  · intro key mem
    exact count_eq_one_of_mem h.once (h.acked key mem)
  · exact nodup_iff_count_le_one.mp h.once

def alice : Fingerprint := ⟨"GLFP-0000-0000-0000", by decide⟩
def first : MessageId := ⟨"gmsg_0000000000000000", by decide⟩
def second : MessageId := ⟨"gmsg_0000000000000001", by decide⟩

lemma arrival_group : isValidGroupId "gl-group-AAAA-AAAA-AAAA" := by decide

def arrival (messageId : MessageId) (gseq : ℤ) : Arrival :=
  { frame := { groupId := ⟨"gl-group-AAAA-AAAA-AAAA", arrival_group⟩, epoch := 1, sender := alice,
               recipient := "GLFP-0000-0100-0000", messageId, gseq,
               name := "Alice", text := "hi", ts := 0 }
    linked := true }

def resent : List Arrival := [arrival first 1, arrival second 2, arrival first 1]

theorem resent_message_acknowledged_again :
    (run resent).gacks = [(alice, first), (alice, second), (alice, first)] ∧
      (∀ key ∈ (run resent).gacks, (run resent).shownKeys.count key = 1) ∧
      ∀ key, (run resent).shownKeys.count key ≤ 1 :=
  ⟨by decide +kernel, acknowledged_messages_shown_once resent (by decide +kernel)⟩

/-- The cursor refuses a number too far ahead, but the id is marked by then: the second copy of
the frame is acknowledged, and the message is never shown. -/
theorem refused_message_acknowledged :
    let r := run [arrival first 1, arrival second 100, arrival second 100]
    r.gacks = [(alice, first), (alice, second)] ∧ r.shownKeys = [(alice, first)] := by
  decide +kernel

end Receiver
end Ghostlink.Groups
