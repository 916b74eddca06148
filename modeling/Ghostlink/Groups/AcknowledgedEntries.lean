import Ghostlink.Groups.MessagingService
import Ghostlink.Groups.OutboxDelivery
import Ghostlink.Groups.SenderKeyCoverage

/-! Which ledger entries the service may still write. An entry is written by a task that holds
the ledger, or through the message id of something that waits in a queue. For a set of entries
that no task and no queue reaches, each operation of either half keeps it so, and if those
entries say delivered or read they go on saying it. -/

namespace Ghostlink.Groups
open Collections Text List Option Dict

def DeliveryState.acknowledged (state : DeliveryState) : Bool :=
  state = .delivered || state = .read

structure Books where
  kept : GroupId → MessageId → Option ℕ
  ledgers : Dict ℕ GroupMessageLedger
  nextLedger : ℕ

namespace Books
variable {A : ℕ → Fingerprint → Prop} {b b₀ : Books}

def entry (b : Books) (ref : ℕ) (f : Fingerprint) : Option DeliveryState :=
  (b.ledgers.get? ref).bind fun l => l.recipients.get? f

structure Filed (b : Books) : Prop where
  heap : ∀ ref l, b.ledgers.get? ref = some l → ref < b.nextLedger
  kept : ∀ gid id ref, b.kept gid id = some ref →
    ∃ l, b.ledgers.get? ref = some l ∧ l.messageId = id

/-- Later books of the same service: the entries in `A` are acknowledged, and their ledgers are
kept under no id they were not kept under before. -/
structure Later (A : ℕ → Fingerprint → Prop) (b₀ b : Books) : Prop where
  filed : b.Filed
  settled : ∀ ref f, A ref f → (b.entry ref f).any DeliveryState.acknowledged
  kept : ∀ ref f, A ref f → ∀ gid id, b.kept gid id = some ref → b₀.kept gid id = some ref

def mark (b : Books) (ref : ℕ) (f : Fingerprint) (state : DeliveryState) : Books :=
  match b.ledgers.get? ref with
  | none => b
  | some l => { b with ledgers := b.ledgers.set ref (l.mark f state) }

lemma Later.rewrite (h : Later A b₀ b) {ref l l'} (found : b.ledgers.get? ref = some l)
    (same : l'.messageId = l.messageId)
    (settled : ∀ f, A ref f → (l.recipients.get? f).any DeliveryState.acknowledged →
      (l'.recipients.get? f).any DeliveryState.acknowledged) :
    Later A b₀ { b with ledgers := b.ledgers.set ref l' } := by
  refine ⟨⟨forall_of_set (h.filed.heap ref l found) h.filed.heap, ?_⟩, ?_, h.kept⟩
  · intro gid id r kept
    obtain ⟨k, at_r, named⟩ := h.filed.kept gid id r kept
    by_cases own : r = ref
    · subst own
      cases found.symm.trans at_r
      exact ⟨l', get?_set_self .., same.trans named⟩
    · exact ⟨k, (get?_set_ne _ _ own).trans at_r, named⟩
  · intro r f mem
    have before := h.settled r f mem
    simp only [entry, get?_set] at before ⊢
    split_ifs with own
    · subst own
      rw [found] at before
      exact settled f mem before
    · exact before

variable {ref : ℕ}

variable {f : Fingerprint}

section
variable (h : Later A b₀ b)
include h

lemma Later.mark (state) (miss : ¬ A ref f) : Later A b₀ (b.mark ref f state) := by
  unfold Books.mark
  cases found : b.ledgers.get? ref with
  | none => exact h
  | some l =>
    refine h.rewrite found rfl fun g mem acknowledged => ?_
    have other : g ≠ f := by
      rintro rfl
      exact miss mem
    rwa [GroupMessageLedger.mark, get?_set_ne _ _ other]

lemma Later.read {l} (found : b.ledgers.get? ref = some l) (cursor : ℕ) :
    Later A b₀ { b with ledgers := b.ledgers.set ref (l.applyReadCursor cursor) } := by
  refine h.rewrite found rfl fun g _ acknowledged => ?_
  rw [GroupMessageLedger.applyReadCursor, get?_mapVals]
  obtain ⟨state, held, good⟩ := (Option.any_eq_true ..).mp acknowledged
  rw [held, map_some, any_some]
  split_ifs
  · rfl
  · exact good

lemma Later.found (mem : A ref f) : ∃ l, b.ledgers.get? ref = some l := by
  have before := h.settled ref f mem
  cases found : b.ledgers.get? ref with
  | none => simp [entry, found] at before
  | some l => exact ⟨l, rfl⟩

lemma Later.fresh (f) : ¬ A b.nextLedger f := by
  intro mem
  obtain ⟨l, found⟩ := h.found mem
  exact absurd (h.filed.heap _ l found) (Nat.lt_irrefl _)

lemma Later.enter {kept} (l : GroupMessageLedger) (origin : ∀ gid id ref, kept gid id = some ref →
      b.kept gid id = some ref ∨ id = l.messageId ∧ ref = b.nextLedger) :
    Later A b₀ ⟨kept, b.ledgers.set b.nextLedger l, b.nextLedger + 1⟩ := by
  have old {ref : ℕ} {l' : GroupMessageLedger} (found : b.ledgers.get? ref = some l') :
      (b.ledgers.set b.nextLedger l).get? ref = some l' := by
    rwa [get?_set_ne _ _ (Nat.ne_of_lt (h.filed.heap ref l' found))]
  refine ⟨⟨?_, ?_⟩, ?_, ?_⟩
  · exact forall_of_set (Nat.lt_succ_self _) fun ref l' found =>
      Nat.lt_succ_of_lt (h.filed.heap ref l' found)
  · intro gid id ref found
    rcases origin gid id ref found with before | ⟨rfl, rfl⟩
    · obtain ⟨l', found', named⟩ := h.filed.kept gid id ref before
      exact ⟨l', old found', named⟩
    · exact ⟨l, get?_set_self .., rfl⟩
  · intro ref f mem
    obtain ⟨l', found⟩ := h.found mem
    have before := h.settled ref f mem
    simp only [entry, old found, found] at before ⊢
    exact before
  · intro ref f mem gid id found
    rcases origin gid id ref found with before | ⟨-, rfl⟩
    · exact h.kept ref f mem gid id before
    · exact absurd mem (h.fresh f)

lemma Later.miss {state : DeliveryState}
    (shown : b.entry ref f = some state) (other : state.acknowledged = false) : ¬ A ref f := by
  intro mem
  have settled := h.settled ref f mem
  simp [shown, any_some, other] at settled

end

end Books

def PumpPoint.ledger? : PumpPoint → Option ℕ
  | .starting => none
  | .linking _ ledger => ledger
  | .sending _ ledger _ _ _ => ledger

namespace OutboxService
variable {A : ℕ → Fingerprint → Prop} {s s₀ : OutboxService} {gid : GroupId} {f : Fingerprint}

def books (s : OutboxService) : Books := ⟨s.kept, s.ledgers, s.nextLedger⟩

structure Spared (A : ℕ → Fingerprint → Prop) (s₀ s : OutboxService) : Prop where
  books : Books.Later A s₀.books s.books
  queues : ∀ gid f, ∀ job ∈ s.queue gid f, ∀ ref, s.kept gid job.messageId = some ref → ¬ A ref f
  pumps : ∀ id task, s.tasks.get? id = some task →
    ∀ ref, task.point.ledger? = some ref → ¬ A ref task.member

lemma books_mark (s : OutboxService) (ref f state) :
    (s.mark ref f state).books = s.books.mark ref f state := by
  unfold mark Books.mark books
  cases s.ledgers.get? ref <;> rfl

lemma Spared.still (h : Spared A s₀ s) {s' : OutboxService}
    (books : Books.Later A s₀.books s'.books) (queue : s'.queue = s.queue) (kept : s'.kept = s.kept)
    (tasks : s'.tasks = s.tasks) : Spared A s₀ s' := by
  refine ⟨books, ?_, ?_⟩
  · rw [queue, kept]
    exact h.queues
  · rw [tasks]
    exact h.pumps

variable {ref : ℕ} {job : QueuedMessage} {op : OutboxService → OutboxService}

lemma Spared.mark (h : Spared A s₀ s) (state) (miss : ¬ A ref f) :
    Spared A s₀ (s.mark ref f state) := by
  have later : Books.Later A s₀.books (s.mark ref f state).books := by
    rw [books_mark]
    exact h.books.mark state miss
  obtain ⟨ledgers, eq⟩ := mark_frame s ref f state
  rw [eq] at later ⊢
  exact h.still later rfl rfl rfl

lemma Spared.report (h : Spared A s₀ s) {ledger} (state)
    (miss : ∀ ref, ledger = some ref → ¬ A ref f) : Spared A s₀ (s.report ledger f state) := by
  cases ledger with
  | none => exact h
  | some ref => exact h.mark state (miss ref rfl)

variable {id : MessageId} {task : PumpTask}

lemma Spared.markKept (h : Spared A s₀ s) (state)
    (miss : ∀ ref, s.kept gid id = some ref → ¬ A ref f) :
    Spared A s₀ (s.markKept gid id f state) := by
  unfold OutboxService.markKept
  split
  · exact h
  · rename_i ref found
    split_ifs
    · exact h.mark state (miss ref found)
    · exact h

lemma Spared.suspend (h : Spared A s₀ s) (id)
    (miss : ∀ ref, task.point.ledger? = some ref → ¬ A ref task.member) :
    Spared A s₀ (s.suspend id task) :=
  ⟨h.books, h.queues, forall_of_set miss h.pumps⟩

lemma Spared.finish (h : Spared A s₀ s) (id) : Spared A s₀ (s.finish id) :=
  ⟨h.books, h.queues, fun id' task found => h.pumps id' task (get?_of_erase found)⟩

lemma books_setOutbox (s : OutboxService) (gid f o) : (s.setOutbox gid f o).books = s.books := by
  simp only [books, kept_setOutbox]
  rfl

lemma Spared.setOutbox (h : Spared A s₀ s) {o : MemberOutbox}
    (miss : ∀ job ∈ o.queue, ∀ ref, s.kept gid job.messageId = some ref → ¬ A ref f) :
    Spared A s₀ (s.setOutbox gid f o) := by
  refine ⟨?_, ?_, h.pumps⟩
  · rw [books_setOutbox]
    exact h.books
  · intro gid' f' job mem
    rw [kept_setOutbox]
    rw [OutboxService.queue, outbox_setOutbox] at mem
    split_ifs at mem with own
    · obtain ⟨rfl, rfl⟩ := own
      exact miss job mem
    · exact h.queues gid' f' job mem

lemma Spared.setQueue (h : Spared A s₀ s) {queue}
    (miss : ∀ job ∈ queue, ∀ ref, s.kept gid job.messageId = some ref → ¬ A ref f) :
    Spared A s₀ (s.setQueue gid f queue) :=
  h.setOutbox miss

lemma Spared.leave (h : Spared A s₀ s) {rest}
    (fewer : ∀ j ∈ rest, j ∈ s.queue gid f) : Spared A s₀ (s.leave gid f job rest) := by
  have taken : Spared A s₀ (s.setQueue gid f rest) :=
    h.setQueue fun j mem => h.queues gid f j (fewer j mem)
  exact taken.still taken.books rfl rfl rfl

section
variable (s)

lemma kept_leave (gid f job rest) : (s.leave gid f job rest).kept = s.kept :=
  kept_setQueue s gid f rest

lemma kept_mark (ref f state) : (s.mark ref f state).kept = s.kept := by
  obtain ⟨ledgers, eq⟩ := mark_frame s ref f state
  rw [eq]
  rfl

lemma kept_markKept (gid id f state) :
    (s.markKept gid id f state).kept = s.kept := by
  unfold markKept
  split
  · rfl
  · split_ifs
    · exact kept_mark ..
    · rfl

end

lemma Spared.drop (h : Spared A s₀ s) {rest}
    (mem : job ∈ s.queue gid f) (fewer : ∀ j ∈ rest, j ∈ s.queue gid f) :
    Spared A s₀ ((s.leave gid f job rest).markKept gid job.messageId f .failed) := by
  apply (h.leave fewer).markKept
  rw [kept_leave]
  exact h.queues gid f job mem

lemma Spared.dropOldest (h : Spared A s₀ s) (gid f) : Spared A s₀ (dropOldest gid f s) := by
  unfold OutboxService.dropOldest
  split
  · exact h
  · rename_i job rest queue
    apply h.drop
    · rw [queue]
      exact mem_cons_self
    · rw [queue]
      exact fun j mem => mem_cons_of_mem job mem

lemma Spared.dropNewest (h : Spared A s₀ s) (gid f) : Spared A s₀ (dropNewest gid f s) := by
  unfold OutboxService.dropNewest
  split
  · exact h
  · rename_i job last
    exact h.drop (mem_of_getLast? last) fun j mem => dropLast_subset _ mem

lemma kept_dropOldest (gid f) (s : OutboxService) : (dropOldest gid f s).kept = s.kept := by
  unfold dropOldest
  split
  · rfl
  · rw [kept_markKept, kept_leave]

lemma kept_dropNewest (gid f) (s : OutboxService) : (dropNewest gid f s).kept = s.kept := by
  unfold dropNewest
  split
  · rfl
  · rw [kept_markKept, kept_leave]

lemma kept_iterate (same : ∀ s, (op s).kept = s.kept)
    (n) (s : OutboxService) : (op^[n] s).kept = s.kept := by
  induction n generalizing s with
  | zero => rfl
  | succ n ih => rw [Function.iterate_succ_apply, ih, same]

lemma Spared.failQueue (h : Spared A s₀ s) (gid f) : Spared A s₀ (s.failQueue gid f) :=
  Function.Iterate.rec (Spared A s₀) h (fun _ h => h.dropOldest gid f) _

lemma Spared.enqueue (h : Spared A s₀ s)
    (miss : ∀ ref, s.kept gid job.messageId = some ref → ¬ A ref f) :
    Spared A s₀ (s.enqueue gid f job) := by
  have dropped := Function.Iterate.rec (Spared A s₀) h (fun _ h => h.dropOldest gid f)
    ((s.queue gid f).length + 1 - groupOfflineQueuePerMember)
  apply dropped.setQueue
  intro j mem
  rcases mem_append.mp mem with old | new
  · exact dropped.queues gid f j old
  · rwa [kept_iterate (kept_dropOldest gid f), mem_singleton.mp new]

lemma kept_enqueue (s : OutboxService) (gid f job) : (s.enqueue gid f job).kept = s.kept := by
  unfold enqueue
  rw [kept_setQueue, kept_iterate (kept_dropOldest gid f)]

lemma Spared.requeueJob (h : Spared A s₀ s)
    (miss : ∀ ref, s.kept gid job.messageId = some ref → ¬ A ref f) :
    Spared A s₀ (requeueJob gid f s job) := by
  refine Function.Iterate.rec (Spared A s₀) (h.setQueue ?_) (fun _ h => h.dropNewest gid f) _
  intro j mem
  rcases mem_cons.mp mem with rfl | old
  · exact miss
  · exact h.queues gid f j old

lemma kept_requeueJob (gid f) (s : OutboxService)
    (job) : (requeueJob gid f s job).kept = s.kept := by
  unfold requeueJob
  rw [kept_iterate (kept_dropNewest gid f), kept_setQueue]

lemma sentLedgers_entry (mem : ref ∈ s.sentLedgers gid f) : s.books.entry ref f = some .sent := by
  have out := (mem_filter.mp mem).2
  obtain ⟨l, found, sent⟩ := (Option.any_eq_true ..).mp out
  rw [Books.entry, books, found, bind_some]
  exact of_decide_eq_true sent

section
variable (h : Spared A s₀ s)
include h

lemma Spared.requeuedJobs
    (mem : job ∈ s.requeuedJobs gid f) (kept : s.kept gid job.messageId = some ref) :
    ¬ A ref f := by
  obtain ⟨l, out, made⟩ := mem_filterMap.mp mem
  obtain ⟨ref', sent, found⟩ := mem_filterMap.mp out
  split_ifs at made
  obtain rfl : jobOf l = job := Option.some.inj made
  obtain ⟨id, keptAs⟩ := (mem_values _ _).mp (mem_filter.mp sent).1
  obtain ⟨l', found', named⟩ := h.books.filed.kept gid id ref' keptAs
  obtain rfl : l' = l := Option.some.inj (found'.symm.trans found)
  have same : some ref' = some ref := by
    rw [← kept, ← keptAs, ← named]
    rfl
  cases same
  exact h.books.miss (sentLedgers_entry sent) rfl

lemma Spared.requeueSent (gid f) : Spared A s₀ (s.requeueSent gid f) := by
  obtain ⟨marked, same⟩ := Runs.foldl_keeps_with (J := Spared A s₀) (k := kept)
    (fun _ ref => ¬ A ref f)
    (fun s ref h miss => ⟨h.mark .queued miss, kept_mark s ref f .queued⟩) _ h
    fun ref mem => h.books.miss (sentLedgers_entry mem) rfl
  refine (Runs.foldl_keeps_with (k := kept)
    (fun kept job => ∀ ref, kept gid job.messageId = some ref → ¬ A ref f)
    (fun s job h miss => ⟨h.requeueJob miss, kept_requeueJob gid f s job⟩) _ marked ?_).1
  intro job mem
  rw [same]
  rw [mem_reverse, mem_insertionSort] at mem
  exact fun ref kept => h.requeuedJobs mem kept

lemma Spared.ensurePump (gid f) : Spared A s₀ (ensurePump gid s f) := by
  unfold OutboxService.ensurePump
  split_ifs
  · exact h
  · have put : Spared A s₀ (s.setOutbox gid f { s.outbox gid f with pump := some s.nextTask }) :=
      h.setOutbox (h.queues gid f)
    have opened : Spared A s₀ ((s.setOutbox gid f _).suspend s.nextTask ⟨gid, f, .starting⟩) :=
      put.suspend s.nextTask (by rintro ref ⟨⟩)
    exact { opened with }

lemma Spared.pumpNext (id gid f) : Spared A s₀ (s.pumpNext id gid f) := by
  unfold OutboxService.pumpNext
  split
  · exact h.finish id
  · rename_i job rest queue
    have head : job ∈ s.queue gid f := by
      rw [queue]
      exact mem_cons_self
    split_ifs
    · exact h.finish id
    · split
      · exact (h.failQueue gid f).finish id
      · split_ifs
        · have miss := h.queues gid f job head
          exact (h.report .sending miss).suspend id miss
        · exact (h.failQueue gid f).finish id

lemma Spared.popNext (id gid f) {after} (keep : ∀ s, Spared A s₀ s → Spared A s₀ (after s)) :
    Spared A s₀ (s.popNext id gid f after) := by
  unfold OutboxService.popNext
  split
  · exact h.finish id
  · rename_i head rest queue
    apply (keep _ (h.leave ?_)).pumpNext
    rw [queue]
    exact fun j mem => mem_cons_of_mem head mem

end

lemma Spared.resumePump (dumps) (h : Spared A s₀ s) {id}
    (held : s.tasks.get? id = some task) (outcome) :
    Spared A s₀ (s.resumePump dumps id task outcome) := by
  obtain ⟨gid, f, point⟩ := task
  have miss := h.pumps id _ held
  unfold OutboxService.resumePump
  dsimp only at miss ⊢
  split
  · exact h.pumpNext id gid f
  · exact (h.report .queued miss).finish id
  · exact (h.report .failed miss).popNext id gid f fun _ h => h
  · split
    · exact (h.report .failed miss).popNext id gid f fun _ h => h
    · split_ifs
      · exact h.pumpNext id gid f
      · split
        · exact h.popNext id gid f fun _ h => h.report .failed miss
        · exact h.suspend id miss
  · refine Spared.suspend ?_ id miss
    exact h.still h.books rfl rfl rfl
  · exact (h.report .failed miss).finish id
  · refine Spared.popNext ?_ id gid f fun _ h => h.report .sent miss
    exact h.still h.books rfl rfl rfl
  · exact h

lemma entered_origin {text messageId ts recipients gid'}
    (found : (s.entered gid text messageId ts recipients).kept gid' id = some ref) :
    (gid' ≠ gid ∨ id ≠ messageId) ∧ s.kept gid' id = some ref ∨
      id = messageId ∧ ref = s.nextLedger := by
  rw [entered_kept] at found
  split_ifs at found with same
  · rcases get?_dropOldest_moveToEnd_set found with ⟨rfl, rfl⟩ | ⟨other, old⟩
    · exact .inr ⟨rfl, rfl⟩
    · exact .inl ⟨.inr other, same ▸ old⟩
  · exact .inl ⟨.inl same, found⟩

section
variable (h : Spared A s₀ s)
include h

lemma Spared.entered (gid text messageId ts recipients) :
    Spared A s₀ (s.entered gid text messageId ts recipients) := by
  refine ⟨h.books.enter (.waiting messageId gid (s.runtime gid).nextGseq text ts recipients) ?_,
    ?_, h.pumps⟩
  · intro gid' id ref found
    exact (entered_origin found).imp_left And.right
  · intro gid' f job mem ref found hit
    rw [entered_queue] at mem
    rcases entered_origin found with ⟨-, old⟩ | ⟨-, rfl⟩
    · exact h.queues gid' f job mem ref old hit
    · exact h.books.fresh f hit

lemma Spared.send (gid text messageId ts) : Spared A s₀ (s.send gid text messageId ts).1 := by
  unfold OutboxService.send
  cases s.groups.checkSend s.me gid text with
  | error => exact h
  | ok record =>
    -- the new message is filed under a ledger that nobody has acknowledged
    have entered := h.entered gid text messageId ts (record.recipients s.me)
    have queued : Spared A s₀ ((record.recipients s.me).foldl
        (fun s' f => s'.enqueue gid f
          { messageId, gseq := (s.runtime gid).nextGseq, text, ts })
        (s.entered gid text messageId ts (record.recipients s.me))) := by
      refine (Runs.foldl_keeps_with (k := kept) (fun kept _ => ∀ ref, kept gid messageId = some ref →
          ref = s.nextLedger) (fun s' f h' fits => ⟨h'.enqueue ?_, kept_enqueue s' gid f _⟩)
        _ entered ?_).1
      · intro f _ ref found
        rcases entered_origin found with ⟨other, -⟩ | ⟨-, own⟩
        · exact absurd rfl (other.resolve_left fun other => other rfl)
        · exact own
      · intro ref found
        rw [fits ref found]
        exact h.books.fresh f
    exact Runs.foldl_keeps (fun s' f h' => h'.ensurePump gid f) _ queued

lemma Spared.flushMember (gid f) : Spared A s₀ (s.flushMember gid f) := by
  unfold OutboxService.flushMember
  split_ifs
  · exact h
  · exact h.ensurePump gid f

lemma Spared.readLedger (sender cursor ref) :
    Spared A s₀ (readLedger sender cursor s ref) := by
  unfold OutboxService.readLedger
  split
  · exact h
  · rename_i l found
    split_ifs
    · exact h.still (h.books.read found cursor) rfl rfl rfl
    · exact h

lemma Spared.applyGread (gid sender cursor) : Spared A s₀ (s.applyGread gid sender cursor) :=
  List.foldlRecOn (motive := fun s => Spared A s₀ s) _ _ h
    fun _ h ref _ => h.readLedger sender cursor ref

lemma Spared.failInFlight (f ref) : Spared A s₀ (failInFlight f s ref) := by
  unfold OutboxService.failInFlight
  split
  · exact h
  · rename_i l found
    have shown : s.books.entry ref f = l.recipients.get? f := by
      rw [Books.entry, OutboxService.books, found, bind_some]
    split_ifs with flying
    · apply h.mark
      rcases flying with sending | sent
      · exact h.books.miss (shown.trans sending) rfl
      · exact h.books.miss (shown.trans sent) rfl
    · exact h

lemma Spared.onForwardError (gid f code now) : Spared A s₀ (s.onForwardError gid f code now) := by
  have failed {s : OutboxService} (h : Spared A s₀ s) (refs : List ℕ) :
      Spared A s₀ (refs.foldl (OutboxService.failInFlight f) s) :=
    List.foldlRecOn (motive := fun s => Spared A s₀ s) _ _ h fun _ h ref _ => h.failInFlight f ref
  cases code with
  | offline | rate => exact h.requeueSent gid f
  | unknown =>
    have defunct : Spared A s₀ { s with groups := s.groups.markDefunct gid now } :=
      h.still h.books rfl rfl rfl
    exact failed defunct _
  | notMember | other => exact failed h _

end

end OutboxService

/-- The task will write no entry in `A`. A send holds its ledger, and what it puts into a retry
queue is found again through the message id. -/
def SkTask.Spares (A : ℕ → Fingerprint → Prop) (kept : GroupId → MessageId → Option ℕ) :
    SkTask → Prop
  | .send t _ => ∀ f, f = t.member ∨ f ∈ t.remaining →
      ∀ ref, ref = t.ledger ∨ kept t.groupId t.message.messageId = some ref → ¬ A ref f
  | .drain q (.messaging _ m _) => ∀ ref, kept q.groupId m.messageId = some ref → ¬ A ref q.member
  | .drain _ _ => True
  | .respond _ _ => True

namespace SenderKeyService
variable {A : ℕ → Fingerprint → Prop} {X : ServicePrimitives} {s s₀ : SenderKeyService}
  {gid : GroupId} {f : Fingerprint}

def kept (s : SenderKeyService) (gid : GroupId) (id : MessageId) : Option ℕ :=
  (s.runtime gid).ledgers.get? id

def books (s : SenderKeyService) : Books := ⟨s.kept, s.ledgers, s.nextLedger⟩

structure Spared (A : ℕ → Fingerprint → Prop) (s₀ s : SenderKeyService) : Prop where
  books : Books.Later A s₀.books s.books
  deques : ∀ q, ∀ m ∈ s.deque q, ∀ ref, s.kept q.groupId m.messageId = some ref → ¬ A ref q.member
  tasks : ∀ id task, s.tasks.get? id = some task → task.Spares A s.kept

lemma books_mark (s : SenderKeyService) (ref f state) :
    (s.mark ref f state).books = s.books.mark ref f state := by
  unfold mark Books.mark books
  cases s.ledgers.get? ref <;> rfl

lemma Spared.still (h : Spared A s₀ s) {s' : SenderKeyService}
    (books : Books.Later A s₀.books s'.books) (deques : s'.deques = s.deques)
    (kept : s'.kept = s.kept) (tasks : s'.tasks = s.tasks) : Spared A s₀ s' := by
  refine ⟨books, ?_, ?_⟩
  · simp only [deque, deques, kept]
    exact h.deques
  · rw [kept, tasks]
    exact h.tasks

variable {ref : ℕ} {id : MessageId} {task : SkTask} {q : QueueRef} {t : SendTask}

lemma Spared.mark (h : Spared A s₀ s) (state) (miss : ¬ A ref f) :
    Spared A s₀ (s.mark ref f state) := by
  have later : Books.Later A s₀.books (s.mark ref f state).books := by
    rw [books_mark]
    exact h.books.mark state miss
  obtain ⟨ledgers, eq, -⟩ := mark_eq s ref f state
  rw [eq] at later ⊢
  exact h.still later rfl rfl rfl

lemma kept_mark (s : SenderKeyService) (ref f state) : (s.mark ref f state).kept = s.kept := by
  obtain ⟨ledgers, eq, -⟩ := mark_eq s ref f state
  rw [eq]
  rfl

lemma Spared.markKept (h : Spared A s₀ s) (state)
    (miss : ∀ ref, s.kept gid id = some ref → ¬ A ref f) :
    Spared A s₀ (s.markKept gid id f state) := by
  unfold SenderKeyService.markKept
  split
  · exact h
  · rename_i ref found
    split_ifs
    · exact h.mark state (miss ref found)
    · exact h

lemma kept_markKept (s : SenderKeyService) (gid id f state) :
    (s.markKept gid id f state).kept = s.kept := by
  unfold markKept
  split
  · rfl
  · split_ifs
    · exact kept_mark ..
    · rfl

section
variable (h : Spared A s₀ s)
include h

lemma Spared.suspend (id) (spares : task.Spares A s.kept) : Spared A s₀ (s.suspend id task) :=
  ⟨h.books, h.deques, forall_of_set spares h.tasks⟩

lemma Spared.spawn (spares : task.Spares A s.kept) :
    Spared A s₀ (s.spawn task) := by
  exact { h.suspend s.nextTask spares with }

lemma Spared.finish (id) : Spared A s₀ (s.finish id) :=
  ⟨h.books, h.deques, fun id' task found => h.tasks id' task (get?_of_erase found)⟩

lemma Spared.setDeque {entries}
    (miss : ∀ m ∈ entries, ∀ ref, s.kept q.groupId m.messageId = some ref → ¬ A ref q.member) :
    Spared A s₀ (s.setDeque q entries) := by
  refine ⟨h.books, ?_, h.tasks⟩
  intro q' m mem
  rw [deque_setDeque] at mem
  split_ifs at mem with own
  · rw [own]
    exact miss m mem
  · exact h.deques q' m mem

lemma Spared.retryQueue (gid f) :
    Spared A s₀ (s.retryQueue gid f).2 ∧ (s.retryQueue gid f).2.kept = s.kept ∧
      (s.retryQueue gid f).1.groupId = gid ∧ (s.retryQueue gid f).1.member = f := by
  unfold SenderKeyService.retryQueue
  split
  · exact ⟨h, rfl, rfl, rfl⟩
  · have opened : Spared A s₀ (s.setDeque ⟨gid, f, s.nextDeque⟩ []) :=
      h.setDeque fun m mem => absurd mem not_mem_nil
    exact ⟨{ opened with }, rfl, rfl, rfl⟩

end

lemma Spared.skRetryAdd (h : Spared A s₀ s) (entry : SealedMessage)
    (miss : ∀ ref, s.kept gid entry.messageId = some ref → ¬ A ref f) :
    Spared A s₀ (s.skRetryAdd gid f entry) ∧ (s.skRetryAdd gid f entry).kept = s.kept := by
  obtain ⟨opened, same, group, member⟩ := h.retryQueue gid f
  unfold SenderKeyService.skRetryAdd
  cases reply : s.retryQueue gid f with
  | mk q s' =>
    rw [reply] at opened same group member
    have entries : ∀ m ∈ s'.deque q ++ [entry],
        ∀ ref, s'.kept gid m.messageId = some ref → ¬ A ref f := by
      intro m mem
      rcases mem_append.mp mem with old | new
      · have spared := opened.deques q m old
        rwa [group, member] at spared
      · rwa [mem_singleton.mp new, same]
    have stored : Spared A s₀ (s'.setDeque q ((s'.deque q ++ [entry]).drop
        ((s'.deque q ++ [entry]).length - skRetryPerMember))) := by
      apply opened.setDeque
      rw [group, member]
      exact fun m mem => entries m (mem_of_mem_drop mem)
    rw [← same]
    exact Runs.foldl_keeps_with (J := Spared A s₀) (fun kept (m : SealedMessage) =>
        ∀ ref, kept gid m.messageId = some ref → ¬ A ref f)
      (fun s m h miss => ⟨h.markKept .failed miss, kept_markKept s gid m.messageId f .failed⟩) _
      stored fun m mem => entries m (mem_of_mem_take mem)

lemma Spared.requeueLedger (h : Spared A s₀ s) (gid f) (keeps : ∃ id, s.kept gid id = some ref) :
    Spared A s₀ (requeueLedger gid f s ref) ∧ (requeueLedger gid f s ref).kept = s.kept := by
  obtain ⟨id, keptAs⟩ := keeps
  obtain ⟨l, found, named⟩ := h.books.filed.kept gid id ref keptAs
  change s.ledgers.get? ref = some l at found
  have shown : s.books.entry ref f = l.recipients.get? f := by
    rw [Books.entry, SenderKeyService.books, found, bind_some]
  simp only [SenderKeyService.requeueLedger, found]
  split_ifs with flying
  · have miss : ¬ A ref f := by
      rcases flying with sending | sent
      · exact h.books.miss (shown.trans sending) rfl
      · exact h.books.miss (shown.trans sent) rfl
    split
    · exact ⟨h.mark .failed miss, kept_mark ..⟩
    · rename_i gen seq sealed cached
      have own : ∀ ref', s.kept gid l.messageId = some ref' → ¬ A ref' f := by
        intro ref' found'
        rw [named, keptAs] at found'
        cases found'
        exact miss
      have added := h.skRetryAdd ⟨l.messageId, gen, seq, sealed⟩ own
      exact ⟨added.1.mark .queued miss, (kept_mark ..).trans added.2⟩
  · exact ⟨h, rfl⟩

lemma Spared.skOfflineRequeue (h : Spared A s₀ s) (gid f) :
    Spared A s₀ (s.skOfflineRequeue gid f) := by
  refine (Runs.foldl_keeps_with (k := kept) (fun kept ref => ∃ id, kept gid id = some ref)
    (fun s ref h keeps => h.requeueLedger gid f keeps) _ h ?_).1
  exact fun ref mem => (mem_values _ _).mp mem

lemma Spared.sendSkDistribution (X) (h : Spared A s₀ s) (gid epoch f index root) :
    Spared A s₀ (s.sendSkDistribution X gid epoch f index root).1 ∧
      (s.sendSkDistribution X gid epoch f index root).1.kept = s.kept := by
  obtain ⟨store, eq, -⟩ := sendSkDistribution_outgoing X s gid epoch f index root
  rw [eq]
  exact ⟨h.still h.books rfl rfl rfl, rfl⟩

section
variable (h : Spared A s₀ s)
include h

lemma Spared.distributionSent (job) : Spared A s₀ (s.distributionSent job) :=
  h.still h.books rfl rfl rfl

lemma Spared.forwardMessage (gid epoch f m) : Spared A s₀ (s.forwardMessage gid epoch f m) :=
  h.still h.books rfl rfl rfl

lemma Spared.respondSkDistribution (gid f root) :
    Spared A s₀ (s.respondSkDistribution X gid f root) := by
  unfold SenderKeyService.respondSkDistribution
  split
  · exact h
  · split
    · exact h
    · rename_i record _ _ chain _
      have made := h.sendSkDistribution X gid record.epoch f chain.nextIndex root
      cases reply : s.sendSkDistribution X gid record.epoch f chain.nextIndex root with
      | mk s' job =>
        rw [reply] at made
        cases job with
        | none => exact made.1
        | some => exact made.1.spawn trivial

lemma Spared.resumeRespond (id job stage outcome) :
    Spared A s₀ (s.resumeRespond id job stage outcome) := by
  unfold SenderKeyService.resumeRespond
  split
  · exact h.suspend id trivial
  · exact (h.distributionSent job).finish id
  · exact h.finish id
  · exact h

lemma Spared.nextLeg (id) (spares : ∀ f ∈ t.remaining, ∀ ref,
      ref = t.ledger ∨ s.kept t.groupId t.message.messageId = some ref → ¬ A ref f) :
    Spared A s₀ (s.nextLeg id t) := by
  unfold SenderKeyService.nextLeg
  split
  · exact h.finish id
  · rename_i member rest remaining
    rw [remaining] at spares
    apply (h.mark .sending (spares member mem_cons_self t.ledger (.inl rfl))).suspend
    rw [kept_mark]
    rintro f (rfl | mem)
    · exact spares _ mem_cons_self
    · exact spares f (mem_cons_of_mem member mem)

lemma Spared.resumeSend {id point} (held : s.tasks.get? id = some (.send t point)) (outcome) :
    Spared A s₀ (s.resumeSend X id t point outcome) := by
  have spares : (SkTask.send t point).Spares A s.kept := h.tasks id _ held
  have miss : ¬ A t.ledger t.member := spares t.member (.inl rfl) t.ledger (.inl rfl)
  -- the legs still to come, in a later state with the same kept ledgers
  have onward {s' : SenderKeyService} (h' : Spared A s₀ s') (same : s'.kept = s.kept) :
      Spared A s₀ (s'.nextLeg id t) := by
    apply h'.nextLeg
    rw [same]
    exact fun f mem => spares f (.inr mem)
  have marked (state : DeliveryState) : Spared A s₀ ((s.mark t.ledger t.member state).nextLeg id t) :=
    onward (h.mark state miss) (kept_mark ..)
  unfold SenderKeyService.resumeSend
  split
  · split
    · exact marked .failed
    · rename_i linkEpoch root _ record _
      split_ifs
      · exact onward h rfl
      · have made := h.sendSkDistribution X t.groupId record.epoch t.member t.message.seq root
        cases reply : s.sendSkDistribution X t.groupId record.epoch t.member t.message.seq root with
        | mk s' job =>
          rw [reply] at made
          have kept : s'.kept = s.kept := made.2
          cases job with
          | none | some =>
            apply made.1.suspend
            rwa [kept]
  · have added := h.skRetryAdd t.message
      fun ref found => spares t.member (.inl rfl) ref (.inr found)
    exact onward (added.1.mark .queued miss) ((kept_mark ..).trans added.2)
  · exact marked .failed
  · exact marked .failed
  · exact h.suspend id spares
  · exact (h.distributionSent _).suspend id spares
  · exact h.suspend id spares
  · exact (h.forwardMessage ..).suspend id spares
  · exact marked .sent
  · exact marked .failed
  · exact h

lemma Spared.drainSkRetry (gid f) : Spared A s₀ (s.drainSkRetry gid f) := by
  unfold SenderKeyService.drainSkRetry
  split
  · exact h
  · dsimp only
    split_ifs
    · exact h
    · split
      · exact h
      · exact h.spawn trivial

lemma Spared.drainNext (id q linkEpoch) :
    Spared A s₀ (s.drainNext id q linkEpoch) := by
  unfold SenderKeyService.drainNext
  split
  · exact h.finish id
  · rename_i entry rest queue
    split
    · exact h.finish id
    · split_ifs
      · exact h.finish id
      · apply h.suspend
        exact h.deques q entry (by rw [queue]; exact mem_cons_self)

lemma Spared.resumeDrain {id point} (held : s.tasks.get? id = some (.drain q point)) (outcome) :
    Spared A s₀ (s.resumeDrain X id q point outcome) := by
  have spares : (SkTask.drain q point).Spares A s.kept := h.tasks id _ held
  unfold SenderKeyService.resumeDrain
  split
  · split
    · exact h.finish id
    · rename_i epoch linkEpoch root _ last _
      have made := h.sendSkDistribution X q.groupId epoch q.member last.seq root
      cases reply : s.sendSkDistribution X q.groupId epoch q.member last.seq root with
      | mk s' job =>
        rw [reply] at made
        cases job with
        | none => exact made.1.drainNext id q linkEpoch
        | some => exact made.1.suspend id trivial
  · exact h.finish id
  · exact h.finish id
  · exact h.finish id
  · exact h.suspend id trivial
  · exact (h.distributionSent _).drainNext id q _
  · exact h.drainNext id q _
  · exact (h.forwardMessage ..).suspend id spares
  · split
    · exact h.finish id
    · rename_i epoch entry _ head rest queue
      have shorter : Spared A s₀ (s.setDeque q rest) := by
        apply h.setDeque
        intro m mem
        exact h.deques q m (by rw [queue]; exact mem_cons_of_mem head mem)
      exact (shorter.markKept .sent spares).drainNext id q epoch
  · exact h.finish id
  · exact h

end

lemma takeSeq_origin {record : LocalGroupRecord} {text} {d : Draw} {recipients}
    (found : (s.takeSeq X record text d recipients).2.kept gid id = some ref) :
    (gid ≠ record.groupId ∨ id ≠ d.messageId) ∧ s.kept gid id = some ref ∨
      id = d.messageId ∧ ref = s.nextLedger := by
  simp only [kept, takeSeq, runtime, get?_set] at found
  split_ifs at found with same
  · subst same
    rcases get?_dropOldest_moveToEnd_set found with ⟨rfl, rfl⟩ | ⟨other, old⟩
    · exact .inr ⟨rfl, rfl⟩
    · exact .inl ⟨.inr other, old⟩
  · exact .inl ⟨.inl same, found⟩

section
variable (h : Spared A s₀ s)
include h

lemma Spared.takeSeq (record text d recipients) :
    Spared A s₀ (s.takeSeq X record text d recipients).2 := by
  have older {gid : GroupId} {id : MessageId} {ref : ℕ} {f : Fingerprint}
      (found : (s.takeSeq X record text d recipients).2.kept gid id = some ref) (hit : A ref f) :
      s.kept gid id = some ref := by
    rcases takeSeq_origin found with ⟨-, old⟩ | ⟨-, rfl⟩
    · exact old
    · exact absurd hit (h.books.fresh f)
  refine ⟨h.books.enter (newLedger record (s.runtime record.groupId).nextGseq text d recipients) ?_,
    ?_, ?_⟩
  · intro gid id ref found
    exact (takeSeq_origin found).imp_left And.right
  · intro q m mem ref found hit
    exact h.deques q m mem ref (older found hit) hit
  · intro id task held
    have spares := h.tasks id task held
    cases task with
    | send =>
      intro f leg ref found hit
      exact spares f leg ref (found.imp_right fun found => older found hit) hit
    | drain q point =>
      cases point with
      | messaging =>
        intro ref found hit
        exact spares ref (older found hit) hit
      | linking | distributing => trivial
    | respond => trivial

lemma Spared.sendSenderKey (record text d) : Spared A s₀ (s.sendSenderKey X record text d).1 := by
  unfold SenderKeyService.sendSenderKey
  dsimp only
  split_ifs
  · exact h
  · have taken := h.takeSeq (X := X) record text d (s.recipientsOf record)
    split
    · exact taken
    · rename_i sealed chain _
      -- the task reports to the ledger just entered, which nobody has acknowledged
      apply Spared.nextLeg
      · exact taken.still taken.books rfl rfl rfl
      · intro f _ ref found hit
        rcases found with rfl | found
        · exact h.books.fresh f hit
        · change (s.takeSeq X record text d (s.recipientsOf record)).2.kept record.groupId
            d.messageId = some ref at found
          rcases takeSeq_origin found with ⟨other, -⟩ | ⟨-, rfl⟩
          · exact other.elim (fun other => other rfl) fun other => other rfl
          · exact h.books.fresh f hit

lemma Spared.resume (P id outcome) :
    Spared A s₀ (s.step P X (.resume id outcome)) := by
  simp only [step]
  split
  · exact h
  · rename_i t point held
    exact h.resumeSend held outcome
  · rename_i q point held
    exact h.resumeDrain held outcome
  · rename_i job stage held
    exact h.resumeRespond id job stage outcome

lemma Spared.onRecordState (record event) : Spared A s₀ (s.onRecordState record event) := by
  unfold SenderKeyService.onRecordState
  dsimp only
  split_ifs <;> exact h.still h.books rfl rfl rfl

end

end SenderKeyService
end Ghostlink.Groups
