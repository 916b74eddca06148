import Ghostlink.Groups.Outbox
import Ghostlink.Groups.SenderKeyAlignment

/-! What becomes of a message in a member's outbox. A ledger entry that says queued should have
its message in the queue; while an action is under way it may instead be owed to the queue. The
invariant carries these debts, every operation either takes one on or settles one, and between
actions there are none. -/

namespace Ghostlink.Groups
open Collections Text List Option Dict

def jobIds (queue : List QueuedMessage) : List MessageId := queue.map QueuedMessage.messageId

namespace OutboxService
variable {P : Primitives} {dumps : GmsgFields → Bytes} {s s' s₀ : OutboxService}
  {gid : GroupId} {f : Fingerprint} {mid : MessageId} {job : QueuedMessage}

abbrev Debt := GroupId × Fingerprint × MessageId

def kept (s : OutboxService) (gid : GroupId) (mid : MessageId) : Option ℕ :=
  (s.runtime gid).ledgers.get? mid

def Failed (s : OutboxService) (p : Posted) : Prop :=
  ∃ ref l, s.ledgers.get? ref = some l ∧ l.messageId = p.job.messageId ∧
    l.groupId = p.groupId ∧ l.recipients.get? p.member = some .failed

def givesUp (dumps : GmsgFields → Bytes) (s : OutboxService) (gid : GroupId) (f : Fingerprint)
    (job : QueuedMessage) (linkEpoch : ℕ) : Bool :=
  match s.groups.requireSendable s.me gid with
  | .error _ => true
  | .ok record => linkEpoch = record.epoch && (s.frameFor dumps record f job).toOption.isNone

/-- A pump that takes the head off the queue finds the message it saw there, and one that finds
the member offline finds its message in the queue. -/
def pumpSteady (dumps : GmsgFields → Bytes) (s : OutboxService) (task : PumpTask)
    (outcome : PumpOutcome) : Bool :=
  let queue := s.queue task.groupId task.member
  match task.point, outcome with
  | .linking job _, .offline => job ∈ queue
  | .linking job _, .groupError => queue.head? = some job
  | .linking job _, .linked linkEpoch =>
    !s.givesUp dumps task.groupId task.member job linkEpoch || queue.head? = some job
  | .sending job _ _ _ .forwarding, .forwarded => queue.head? = some job
  | _, _ => true

/-- A new message has an id of its own, and keeping its ledger makes the runtime forget none
whose message is still in a queue. -/
def sendSteady (s : OutboxService) (gid : GroupId) (messageId : MessageId) : Bool :=
  s.ledgers.values.all (fun l => l.messageId ≠ messageId) &&
  (s.runtime gid).ledgers.keys.all fun mid =>
    ((s.runtime gid).keepLedger messageId s.nextLedger).ledgers.contains mid ||
    (s.runtime gid).outboxes.values.all fun o => mid ∉ jobIds o.queue

def steady (dumps : GmsgFields → Bytes) (s : OutboxService) : Action → Bool
  | .send gid _ messageId _ => s.sendSteady gid messageId
  | .resume id outcome => (s.tasks.get? id).all fun task => s.pumpSteady dumps task outcome
  | _ => true

def Listed (s : OutboxService) (gid : GroupId) (f : Fingerprint) (mid : MessageId) : Prop :=
  ∃ ref l, s.kept gid mid = some ref ∧ s.ledgers.get? ref = some l ∧
    l.recipients.contains f

def Holds (s : OutboxService) (gid : GroupId) (job : QueuedMessage) (ledger : Option ℕ) : Prop :=
  ∃ ref l, ledger = some ref ∧ s.ledgers.get? ref = some l ∧ l.messageId = job.messageId ∧
    l.groupId = gid

def TaskOk (s : OutboxService) (task : PumpTask) : Prop :=
  match task.point with
  | .starting => True
  | .linking job ledger => Holds s task.groupId job ledger
  | .sending job ledger _ _ _ => Holds s task.groupId job ledger

structure Sound (owed : List Debt) (s : OutboxService) : Prop where
  heap : ∀ ref l, s.ledgers.get? ref = some l → ref < s.nextLedger
  unique : ∀ ref ref' l l', s.ledgers.get? ref = some l → s.ledgers.get? ref' = some l' →
    l.messageId = l'.messageId → ref = ref'
  kept : ∀ gid mid ref, s.kept gid mid = some ref →
    ∃ l, s.ledgers.get? ref = some l ∧ l.messageId = mid ∧ l.groupId = gid
  listed : ∀ gid f mid, mid ∈ jobIds (s.queue gid f) ∨ (gid, f, mid) ∈ owed → Listed s gid f mid
  distinct : ∀ gid f, (jobIds (s.queue gid f)).Nodup
  apart : ∀ gid f mid, (gid, f, mid) ∈ owed → mid ∉ jobIds (s.queue gid f)
  once : owed.Nodup
  queued : ∀ ref l f, s.ledgers.get? ref = some l → l.recipients.get? f = some .queued →
    l.messageId ∈ jobIds (s.queue l.groupId f) ∨ (l.groupId, f, l.messageId) ∈ owed
  tasks : ∀ id task, s.tasks.get? id = some task → TaskOk s task

/-- From `s₀` to `s` the messages `gone` have left their queues and `passed` have been
transmitted. -/
structure Accounts (s₀ s : OutboxService) (gone passed : List Posted) : Prop where
  left : s.left = s₀.left ++ gone
  sent : s.sent = s₀.sent ++ passed
  excused : ∀ p ∈ gone, p ∈ passed ∨ Failed s p
  conserved : ∀ gid f job, job ∈ s₀.queue gid f →
    job ∈ s.queue gid f ∨ { groupId := gid, member := f, job } ∈ gone

/-- An action that began in `s₀` has got to `s`, and every message that left is accounted for. -/
structure Ok (s₀ : OutboxService) (owed : List Debt) (s : OutboxService) : Prop where
  sound : Sound owed s
  accounts : ∃ gone passed, Accounts s₀ s gone passed

section
variable (s)

lemma outbox_setOutbox (gid f o gid' f') :
    (s.setOutbox gid f o).outbox gid' f' = if gid' = gid ∧ f' = f then o else s.outbox gid' f' := by
  simp only [setOutbox, outbox, runtime, get?_set]
  by_cases group : gid' = gid
  · subst group
    rw [if_pos rfl, getD_some]
    by_cases member : f' = f
    · rw [member, get?_set_self, getD_some, if_pos ⟨rfl, rfl⟩]
    · rw [get?_set_ne _ _ member, if_neg fun both => member both.2]
  · rw [if_neg group, if_neg fun both => group both.1]

lemma queue_setQueue (gid f q gid' f') :
    (s.setQueue gid f q).queue gid' f' = if gid' = gid ∧ f' = f then q else s.queue gid' f' := by
  rw [queue, setQueue, outbox_setOutbox]
  split_ifs
  · rfl
  · rfl

lemma kept_setOutbox (gid f o) : (s.setOutbox gid f o).kept = s.kept := by
  funext gid' mid
  simp only [kept, setOutbox, runtime, get?_set]
  split_ifs with same
  · simp [same]
  · rfl

lemma kept_setQueue (gid f q) : (s.setQueue gid f q).kept = s.kept :=
  kept_setOutbox s gid f _

end

structure Still (s s' : OutboxService) : Prop where
  queue : s'.queue = s.queue
  kept : s'.kept = s.kept
  ledgers : s'.ledgers = s.ledgers
  nextLedger : s'.nextLedger = s.nextLedger

variable {task : PumpTask} {owed : List Debt} {state : DeliveryState}

structure Relabels (s s' : OutboxService) : Prop where
  queue : s'.queue = s.queue
  kept : s'.kept = s.kept
  nextLedger : s'.nextLedger = s.nextLedger
  tasks : s'.tasks = s.tasks
  left : s'.left = s.left
  sent : s'.sent = s.sent
  lasting : ∀ ref l, s.ledgers.get? ref = some l → ∃ l', s'.ledgers.get? ref = some l' ∧
    l'.messageId = l.messageId ∧ l'.groupId = l.groupId ∧
    ∀ f, l.recipients.contains f → l'.recipients.contains f
  origin : ∀ ref l', s'.ledgers.get? ref = some l' → ∃ l, s.ledgers.get? ref = some l ∧
    l'.messageId = l.messageId ∧ l'.groupId = l.groupId

lemma Holds.relabel (r : Relabels s s') {ledger} (h : Holds s gid job ledger) :
    Holds s' gid job ledger := by
  obtain ⟨ref, l, rfl, found, id, group⟩ := h
  obtain ⟨l', found', id', group', -⟩ := r.lasting ref l found
  exact ⟨ref, l', rfl, found', id'.trans id, group'.trans group⟩

lemma TaskOk.mono (h : TaskOk s task)
    (lasts : ∀ job ledger, Holds s task.groupId job ledger → Holds s' task.groupId job ledger) :
    TaskOk s' task := by
  unfold TaskOk at h ⊢
  split
  · trivial
  · rename_i point
    rw [point] at h
    exact lasts _ _ h
  · rename_i point
    rw [point] at h
    exact lasts _ _ h

lemma Listed.relabel (r : Relabels s s') (h : Listed s gid f mid) : Listed s' gid f mid := by
  obtain ⟨ref, l, kept, found, lists⟩ := h
  obtain ⟨l', found', -, -, lists'⟩ := r.lasting ref l found
  exact ⟨ref, l', by rwa [r.kept], found', lists' f lists⟩

lemma Sound.relabel (h : Sound owed s) (r : Relabels s s')
    (queued : ∀ ref l' f, s'.ledgers.get? ref = some l' → l'.recipients.get? f = some .queued →
      (∃ l, s.ledgers.get? ref = some l ∧ l.recipients.get? f = some .queued) ∨
      l'.messageId ∈ jobIds (s.queue l'.groupId f) ∨ (l'.groupId, f, l'.messageId) ∈ owed) :
    Sound owed s' := by
  refine ⟨?_, ?_, ?_, ?_, ?_, ?_, h.once, ?_, ?_⟩
  · intro ref l' found'
    obtain ⟨l, found, -⟩ := r.origin ref l' found'
    rw [r.nextLedger]
    exact h.heap ref l found
  · intro ref₁ ref₂ l₁' l₂' found₁' found₂' same
    obtain ⟨l₁, found₁, id₁, -⟩ := r.origin ref₁ l₁' found₁'
    obtain ⟨l₂, found₂, id₂, -⟩ := r.origin ref₂ l₂' found₂'
    exact h.unique ref₁ ref₂ l₁ l₂ found₁ found₂ (id₁.symm.trans (same.trans id₂))
  · intro gid mid ref kept
    rw [r.kept] at kept
    obtain ⟨l, found, id, group⟩ := h.kept gid mid ref kept
    obtain ⟨l', found', id', group', -⟩ := r.lasting ref l found
    exact ⟨l', found', id'.trans id, group'.trans group⟩
  · intro gid f mid mem
    rw [r.queue] at mem
    exact (h.listed gid f mid mem).relabel r
  · rw [r.queue]
    exact h.distinct
  · rw [r.queue]
    exact h.apart
  · intro ref l' f found' state
    rw [r.queue]
    rcases queued ref l' f found' state with ⟨l, found, old⟩ | there
    · obtain ⟨l₀, found₀, id, group⟩ := r.origin ref l' found'
      cases found.symm.trans found₀
      rw [id, group]
      exact h.queued ref l f found old
    · exact there
  · intro id task found
    rw [r.tasks] at found
    exact (h.tasks id task found).mono fun _ _ => Holds.relabel r

lemma TaskOk.still (same : Still s s') (h : TaskOk s task) : TaskOk s' task := by
  refine h.mono fun job ledger holds => ?_
  unfold Holds
  rwa [same.ledgers]

lemma Sound.still (h : Sound owed s) (same : Still s s')
    (tasks : ∀ id task, s'.tasks.get? id = some task →
      s.tasks.get? id = some task ∨ TaskOk s' task) : Sound owed s' := by
  obtain ⟨queue, kept, ledgers, next⟩ := same
  -- with the old tasks and records `s'` relabels `s`, every member keeping its mark
  have sound : Sound owed { s' with tasks := s.tasks, left := s.left, sent := s.sent } := by
    refine h.relabel ⟨queue, kept, next, rfl, rfl, rfl, fun ref l found => ?_, fun ref l found => ?_⟩
      fun ref l f found queued => .inl ⟨l, ledgers ▸ found, queued⟩
    · exact ⟨l, ledgers ▸ found, rfl, rfl, fun _ lists => lists⟩
    · exact ⟨l, ledgers ▸ found, rfl, rfl⟩
  exact { sound with
    tasks := fun id task found => (tasks id task found).elim (sound.tasks id task) fun ok => ok }

variable {gone passed : List Posted}

lemma Accounts.still (h : Accounts s₀ s gone passed)
    (same : Still s s') (left : s'.left = s.left) (sent : s'.sent = s.sent) :
    Accounts s₀ s' gone passed := by
  refine ⟨left.trans h.left, sent.trans h.sent, ?_, ?_⟩
  · unfold Failed
    rw [same.ledgers]
    exact h.excused
  · rw [same.queue]
    exact h.conserved

lemma Accounts.refl (s) : Accounts s s [] [] where
  left := (append_nil _).symm
  sent := (append_nil _).symm
  excused := nofun
  conserved _ _ _ mem := .inl mem

lemma Ok.start (h : Sound owed s) : Ok s owed s :=
  ⟨h, [], [], Accounts.refl s⟩

lemma Ok.still (h : Ok s₀ owed s) (same : Still s s')
    (left : s'.left = s.left) (sent : s'.sent = s.sent)
    (tasks : ∀ id task, s'.tasks.get? id = some task →
      s.tasks.get? id = some task ∨ TaskOk s' task) : Ok s₀ owed s' := by
  obtain ⟨gone, passed, accounts⟩ := h.accounts
  exact ⟨h.sound.still same tasks, gone, passed, accounts.still same left sent⟩

lemma Ok.suspend (h : Ok s₀ owed s) (id) (ok : TaskOk s task) : Ok s₀ owed (s.suspend id task) := by
  have same : Still s (s.suspend id task) := ⟨rfl, rfl, rfl, rfl⟩
  exact h.still same rfl rfl (forall_of_set (.inr (ok.still same)) fun _ _ => .inl)

lemma Ok.finish (h : Ok s₀ owed s) (id) : Ok s₀ owed (s.finish id) :=
  h.still ⟨rfl, rfl, rfl, rfl⟩ rfl rfl fun _ _ found => .inl (get?_of_erase found)

section
variable (s)

lemma mark_get? (ref f state ref') : (s.mark ref f state).ledgers.get? ref' =
      (s.ledgers.get? ref').map fun l => if ref' = ref then l.mark f state else l := by
  unfold mark
  cases found : s.ledgers.get? ref with
  | none =>
    by_cases same : ref' = ref
    · simp [same, found]
    · simp [if_neg same, Option.map_id']
  | some =>
    rw [get?_set]
    by_cases same : ref' = ref
    · rw [same, found, if_pos rfl, map_some, if_pos rfl]
    · simp [if_neg same, Option.map_id']

lemma mark_frame (ref f state) :
    ∃ ledgers, s.mark ref f state = { s with ledgers } := by
  unfold mark
  split
  · exact ⟨s.ledgers, rfl⟩
  · exact ⟨_, rfl⟩

lemma relabels_mark (ref f state) : Relabels s (s.mark ref f state) := by
  obtain ⟨ledgers, eq⟩ := mark_frame s ref f state
  refine ⟨?_, ?_, ?_, ?_, ?_, ?_, ?_, ?_⟩
  · rw [eq]
    rfl
  · rw [eq]
    rfl
  · rw [eq]
  · rw [eq]
  · rw [eq]
  · rw [eq]
  · intro ref' l found
    refine ⟨_, by rw [mark_get?, found, map_some], ?_⟩
    split_ifs
    · refine ⟨rfl, rfl, ?_⟩
      intro f' lists
      rw [GroupMessageLedger.mark, contains_set]
      simp [lists]
    · exact ⟨rfl, rfl, fun _ lists => lists⟩
  · intro ref' l' found'
    rw [mark_get?] at found'
    obtain ⟨l, found, rfl⟩ := map_eq_some_iff.mp found'
    refine ⟨l, found, ?_⟩
    split_ifs
    · exact ⟨rfl, rfl⟩
    · exact ⟨rfl, rfl⟩

end

lemma mark_entry {ref ref'}
    {l' : GroupMessageLedger} (h : (s.mark ref f state).ledgers.get? ref' = some l') (f') :
    ∃ l, s.ledgers.get? ref' = some l ∧ l'.recipients.get? f' =
      if ref' = ref ∧ f' = f then some state else l.recipients.get? f' := by
  rw [mark_get?] at h
  obtain ⟨l, found, rfl⟩ := map_eq_some_iff.mp h
  refine ⟨l, found, ?_⟩
  by_cases same : ref' = ref
  · rw [if_pos same, GroupMessageLedger.mark, get?_set]
    simp [same]
  · rw [if_neg same, if_neg fun both => same both.1]

lemma Sound.mark (h : Sound owed s) (ref f state)
    (ok : state = .queued → ∀ l, s.ledgers.get? ref = some l →
      l.messageId ∈ jobIds (s.queue l.groupId f) ∨ (l.groupId, f, l.messageId) ∈ owed) :
    Sound owed (s.mark ref f state) := by
  have r := relabels_mark s ref f state
  refine h.relabel r ?_
  intro ref' l' f' found' queued
  obtain ⟨l, found, entry⟩ := mark_entry found' f'
  rw [queued] at entry
  split_ifs at entry with own
  · obtain ⟨rfl, rfl⟩ := own
    obtain ⟨l₀, found₀, id, group⟩ := r.origin ref' l' found'
    rw [id, group]
    exact .inr (ok (Option.some.inj entry).symm l₀ found₀)
  · exact .inl ⟨l, found, entry.symm⟩

lemma Failed.mark {p : Posted} (h : Failed s p) (ref)
    (other : state ≠ .failed → ∀ l, s.ledgers.get? ref = some l →
      ¬ (l.messageId = p.job.messageId ∧ l.groupId = p.groupId ∧ f = p.member)) :
    Failed (s.mark ref f state) p := by
  obtain ⟨ref', l, found, id, group, failed⟩ := h
  obtain ⟨l', found', id', group', -⟩ := (relabels_mark s ref f state).lasting ref' l found
  refine ⟨ref', l', found', id'.trans id, group'.trans group, ?_⟩
  obtain ⟨l₀, found₀, entry⟩ := mark_entry found' p.member
  cases found.symm.trans found₀
  rw [entry]
  split_ifs with own
  · by_contra differs
    have hit := other (fun eq => differs (congrArg some eq)) l (own.1 ▸ found)
    exact hit ⟨id, group, own.2.symm⟩
  · exact failed

lemma Accounts.mark (h : Accounts s₀ s gone passed) (ref)
    (other : state ≠ .failed → ∀ p ∈ gone, p ∉ passed → ∀ l, s.ledgers.get? ref = some l →
      ¬ (l.messageId = p.job.messageId ∧ l.groupId = p.groupId ∧ f = p.member)) :
    Accounts s₀ (s.mark ref f state) gone passed := by
  have r := relabels_mark s ref f state
  refine ⟨r.left.trans h.left, r.sent.trans h.sent, ?_, ?_⟩
  · intro p mem
    by_cases transmitted : p ∈ passed
    · exact .inl transmitted
    · have failed := (h.excused p mem).resolve_left transmitted
      exact .inr (failed.mark ref fun differs => other differs p mem transmitted)
  · rw [r.queue]
    exact h.conserved

lemma Ok.markFailed (h : Ok s₀ owed s) (ref f) : Ok s₀ owed (s.mark ref f .failed) := by
  obtain ⟨gone, passed, accounts⟩ := h.accounts
  exact ⟨h.sound.mark ref f .failed nofun, gone, passed, accounts.mark ref (absurd rfl)⟩

lemma Sound.perm {owed'} (h : Sound owed s) (same : owed.Perm owed') : Sound owed' s := by
  refine ⟨h.heap, h.unique, h.kept, ?_, h.distinct, ?_, same.nodup_iff.mp h.once, ?_, h.tasks⟩
  · simpa only [same.mem_iff] using h.listed
  · simpa only [same.mem_iff] using h.apart
  · simpa only [same.mem_iff] using h.queued

lemma Sound.borrow (h : Sound [] s) (once : owed.Nodup)
    (listed : ∀ gid f mid, (gid, f, mid) ∈ owed → Listed s gid f mid)
    (apart : ∀ gid f mid, (gid, f, mid) ∈ owed → mid ∉ jobIds (s.queue gid f)) : Sound owed s := by
  refine ⟨h.heap, h.unique, h.kept, ?_, h.distinct, apart, once, ?_, h.tasks⟩
  · intro gid f mid mem
    rcases mem with inside | due
    · exact h.listed gid f mid (.inl inside)
    · exact listed gid f mid due
  · intro ref l f found queued
    rcases h.queued ref l f found queued with inside | due
    · exact .inl inside
    · exact nomatch due

lemma Sound.settle (h : Sound ((gid, f, mid) :: owed) s)
    (settled : ∀ ref l, s.ledgers.get? ref = some l → l.messageId = mid → l.groupId = gid →
      l.recipients.get? f ≠ some .queued) : Sound owed s := by
  refine ⟨h.heap, h.unique, h.kept, ?_, h.distinct, ?_, (nodup_cons.mp h.once).2, ?_, h.tasks⟩
  · intro gid' f' mid' mem
    exact h.listed gid' f' mid' (mem.imp_right (mem_cons_of_mem _))
  · intro gid' f' mid' mem
    exact h.apart gid' f' mid' (mem_cons_of_mem _ mem)
  · intro ref l f' found queued
    rcases h.queued ref l f' found queued with inside | due
    · exact .inl inside
    · rcases mem_cons.mp due with this | other
      · obtain ⟨group, rest⟩ := Prod.mk.inj this
        obtain ⟨rfl, id⟩ := Prod.mk.inj rest
        exact absurd queued (settled ref l found id group)
      · exact .inr other

section Queue
variable {q : List QueuedMessage}

lemma queue_setQueue_self (s : OutboxService) (gid f q) : (s.setQueue gid f q).queue gid f = q := by
  rw [queue_setQueue, if_pos ⟨rfl, rfl⟩]

lemma Listed.setQueue {gid' f'} (h : Listed s gid f mid) :
    Listed (s.setQueue gid' f' q) gid f mid := by
  unfold Listed
  rwa [kept_setQueue]

/-- A message that stands in one queue of `s` does not in `s'`, and that is all the difference. -/
structure Yields (gid : GroupId) (f : Fingerprint) (mid : MessageId) (s s' : OutboxService) :
    Prop where
  here : (jobIds (s.queue gid f)).Perm (mid :: jobIds (s'.queue gid f))
  others : ∀ gid' f', ¬ (gid' = gid ∧ f' = f) → s'.queue gid' f' = s.queue gid' f'

section Yields
variable (yields : Yields gid f mid s s')
include yields

lemma Yields.mem_iff {gid' f' mid'} : mid' ∈ jobIds (s.queue gid' f') ↔
    (gid', f', mid') = (gid, f, mid) ∨ mid' ∈ jobIds (s'.queue gid' f') := by
  by_cases this : gid' = gid ∧ f' = f
  · obtain ⟨rfl, rfl⟩ := this
    simp [yields.here.mem_iff]
  · have other : (gid', f', mid') ≠ (gid, f, mid) := by
      rintro ⟨⟩
      exact this ⟨rfl, rfl⟩
    simp [other, yields.others gid' f' this]

lemma Yields.placed_iff {gid' f' mid'} :
    mid' ∈ jobIds (s'.queue gid' f') ∨ (gid', f', mid') ∈ (gid, f, mid) :: owed ↔
      mid' ∈ jobIds (s.queue gid' f') ∨ (gid', f', mid') ∈ owed := by
  rw [yields.mem_iff, mem_cons, or_left_comm]
  exact or_assoc.symm

lemma Yields.nodup_iff : (∀ gid' f', (jobIds (s.queue gid' f')).Nodup) ↔
    mid ∉ jobIds (s'.queue gid f) ∧ ∀ gid' f', (jobIds (s'.queue gid' f')).Nodup := by
  have own : (jobIds (s.queue gid f)).Nodup ↔ _ := yields.here.nodup_iff.trans nodup_cons
  constructor
  · intro all
    refine ⟨(own.mp (all gid f)).1, fun gid' f' => ?_⟩
    by_cases this : gid' = gid ∧ f' = f
    · obtain ⟨rfl, rfl⟩ := this
      exact (own.mp (all gid' f')).2
    · rw [yields.others gid' f' this]
      exact all gid' f'
  · rintro ⟨outside, all⟩ gid' f'
    by_cases this : gid' = gid ∧ f' = f
    · obtain ⟨rfl, rfl⟩ := this
      exact own.mpr ⟨outside, all gid' f'⟩
    · rw [← yields.others gid' f' this]
      exact all gid' f'

end Yields

lemma Sound.leave {before after} (h : Sound owed s) (eq : s.queue gid f = before ++ job :: after) :
    Sound ((gid, f, job.messageId) :: owed) (s.leave gid f job (before ++ after)) := by
  have yields : Yields gid f job.messageId s (s.leave gid f job (before ++ after)) := by
    refine ⟨?_, fun gid' f' other => (queue_setQueue s gid f _ gid' f').trans (if_neg other)⟩
    rw [eq, show (s.leave gid f job (before ++ after)).queue gid f = _ from
      queue_setQueue_self s gid f _]
    exact perm_middle.map QueuedMessage.messageId
  obtain ⟨outside, distinct⟩ := yields.nodup_iff.mp h.distinct
  refine ⟨h.heap, h.unique, ?_, ?_, distinct, ?_, ?_, ?_, h.tasks⟩
  · rw [show (s.leave gid f job (before ++ after)).kept = _ from kept_setQueue s gid f _]
    exact h.kept
  · intro gid' f' mid' mem
    exact (h.listed gid' f' mid' (yields.placed_iff.mp mem)).setQueue
  · intro gid' f' mid' due
    rcases mem_cons.mp due with this | old
    · cases this
      exact outside
    · exact fun mem => h.apart gid' f' mid' old (yields.mem_iff.mpr (.inr mem))
  · exact nodup_cons.mpr ⟨fun old => h.apart gid f _ old (yields.mem_iff.mpr (.inl rfl)), h.once⟩
  · intro ref l f' found queued
    exact yields.placed_iff.mpr (h.queued ref l f' found queued)

lemma Sound.put (h : Sound ((gid, f, job.messageId) :: owed) s)
    (added : q.Perm (job :: s.queue gid f)) : Sound owed (s.setQueue gid f q) := by
  have yields : Yields gid f job.messageId (s.setQueue gid f q) s := by
    refine ⟨?_, fun gid' f' other => ((queue_setQueue s gid f q gid' f').trans (if_neg other)).symm⟩
    rw [queue_setQueue_self]
    exact added.map QueuedMessage.messageId
  have outside := h.apart gid f job.messageId mem_cons_self
  obtain ⟨settled, once⟩ := nodup_cons.mp h.once
  refine ⟨h.heap, h.unique, ?_, ?_, yields.nodup_iff.mpr ⟨outside, h.distinct⟩, ?_, once, ?_, h.tasks⟩
  · rw [kept_setQueue]
    exact h.kept
  · intro gid' f' mid' mem
    exact (h.listed gid' f' mid' (yields.placed_iff.mpr mem)).setQueue
  · intro gid' f' mid' due inside
    rcases yields.mem_iff.mp inside with this | old
    · exact settled (this ▸ due)
    · exact h.apart gid' f' mid' (mem_cons_of_mem _ due) old
  · intro ref l f' found queued
    exact yields.placed_iff.mp (h.queued ref l f' found queued)

end Queue

end OutboxService
end Ghostlink.Groups
