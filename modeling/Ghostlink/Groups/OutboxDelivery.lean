import Ghostlink.Groups.OutboxDebts

/-! What each operation of the outbox does to the debts: a message that is dropped or put back
settles one, the pump takes one on and settles it, and everything else leaves them alone. Between
the actions of a run there are none. -/

namespace Ghostlink.Groups
open Collections Text List Option Dict GroupMessageLedger

namespace OutboxService
variable {P : Primitives} {dumps : GmsgFields → Bytes} {s s' s₀ : OutboxService}
  {gid : GroupId} {f : Fingerprint} {mid : MessageId} {job : QueuedMessage}

lemma Listed.markKept (listed : Listed s gid f mid) (state) :
    ∃ ref l, s.ledgers.get? ref = some l ∧ s.kept gid mid = some ref ∧
      s.markKept gid mid f state = s.mark ref f state := by
  obtain ⟨ref, l, kept, found, lists⟩ := listed
  refine ⟨ref, l, found, kept, ?_⟩
  unfold OutboxService.markKept
  rw [show (s.runtime gid).ledgers.get? mid = some ref from kept]
  dsimp only
  rw [found, any_some, if_pos lists]

variable {owed : List Debt} {before : List QueuedMessage} {gone passed : List Posted}

lemma Sound.settleMark (h : Sound ((gid, f, mid) :: owed) s) {ref}
    {l : GroupMessageLedger} (found : s.ledgers.get? ref = some l) (id : l.messageId = mid)
    {state} (other : state ≠ .queued) : Sound owed (s.mark ref f state) := by
  have marked := h.mark ref f state fun eq => absurd eq other
  refine marked.settle ?_
  intro ref' l' found' id' _
  obtain ⟨l₀, found₀, same, -⟩ := (relabels_mark s ref f state).origin ref' l' found'
  obtain ⟨_, _, entry⟩ := mark_entry found' f
  have own : ref' = ref := h.unique ref' ref l₀ l found₀ found (same.symm.trans (id'.trans id.symm))
  rw [entry, if_pos ⟨own, rfl⟩]
  exact fun eq => other (Option.some.inj eq)

lemma failed_mark {ref} {l : GroupMessageLedger} (found : s.ledgers.get? ref = some l)
    (id : l.messageId = job.messageId) (group : l.groupId = gid) :
    Failed (s.mark ref f .failed) { groupId := gid, member := f, job } := by
  obtain ⟨l', found', id', group', -⟩ := (relabels_mark s ref f .failed).lasting ref l found
  refine ⟨ref, l', found', id'.trans id, group'.trans group, ?_⟩
  obtain ⟨_, _, entry⟩ := mark_entry found' f
  rw [entry, if_pos ⟨rfl, rfl⟩]

lemma leave_conserves {after}
    (eq : s.queue gid f = before ++ job :: after) {gid' f' job'} (mem : job' ∈ s.queue gid' f') :
    job' ∈ (s.leave gid f job (before ++ after)).queue gid' f' ∨
      ({ groupId := gid', member := f', job := job' } : Posted) =
        { groupId := gid, member := f, job } := by
  rw [show (s.leave gid f job (before ++ after)).queue gid' f' = _ from
    queue_setQueue s gid f _ gid' f']
  split_ifs with own
  · obtain ⟨rfl, rfl⟩ := own
    rw [eq, mem_append, mem_cons] at mem
    rcases mem with inFront | rfl | behind
    · exact .inl (mem_append_left _ inFront)
    · exact .inr rfl
    · exact .inl (mem_append_right _ behind)
  · exact .inl mem

lemma Accounts.leave {after}
    (h : Accounts s₀ s gone passed) (eq : s.queue gid f = before ++ job :: after)
    (excused : { groupId := gid, member := f, job } ∈ passed ∨
      Failed s { groupId := gid, member := f, job }) :
    Accounts s₀ (s.leave gid f job (before ++ after))
      (gone ++ [{ groupId := gid, member := f, job }]) passed := by
  refine ⟨?_, h.sent, ?_, ?_⟩
  · rw [← append_assoc, ← h.left]
    rfl
  · intro p mem
    rcases mem_append.mp mem with old | new
    · exact h.excused p old
    · rwa [mem_singleton.mp new]
  · intro gid' f' job' mem
    rcases h.conserved gid' f' job' mem with stayed | left
    · refine (leave_conserves eq stayed).imp_right fun this => ?_
      rw [this]
      exact mem_append_right _ mem_cons_self
    · exact .inr (mem_append_left _ left)

lemma Accounts.leaveMark {after}
    (h : Accounts s₀ s gone passed) (eq : s.queue gid f = before ++ job :: after) {ref}
    {l : GroupMessageLedger} (found : s.ledgers.get? ref = some l)
    (id : l.messageId = job.messageId) (group : l.groupId = gid) :
    Accounts s₀ ((s.leave gid f job (before ++ after)).mark ref f .failed)
      (gone ++ [{ groupId := gid, member := f, job }]) passed := by
  have swap : (s.leave gid f job (before ++ after)).mark ref f .failed =
      (s.mark ref f .failed).leave gid f job (before ++ after) := by
    simp [OutboxService.mark, OutboxService.leave, setQueue, setOutbox, runtime, outbox, found]
  rw [swap]
  refine (h.mark ref (absurd rfl)).leave ?_ (.inr (failed_mark found id group))
  rw [(relabels_mark s ref f .failed).queue, eq]

section
variable (h : Ok s₀ owed s)
include h

lemma Ok.drop {after} (eq : s.queue gid f = before ++ job :: after) :
    Ok s₀ owed ((s.leave gid f job (before ++ after)).markKept gid job.messageId f .failed) := by
  have left := h.sound.leave eq
  obtain ⟨ref, l, found, kept, marks⟩ :=
    (left.listed gid f job.messageId (.inr mem_cons_self)).markKept .failed
  obtain ⟨l', found', id, group⟩ := left.kept gid job.messageId ref kept
  cases found.symm.trans found'
  obtain ⟨gone, passed, accounts⟩ := h.accounts
  rw [marks]
  exact ⟨left.settleMark found id nofun, _, passed, accounts.leaveMark eq found id group⟩

lemma Ok.dropOldest (gid f) : Ok s₀ owed (s.dropOldest gid f) := by
  unfold OutboxService.dropOldest
  split
  · exact h
  · rename_i job rest eq
    have dropped := h.drop (show s.queue gid f = [] ++ job :: rest from eq)
    rwa [nil_append] at dropped

lemma Ok.dropNewest (gid f) : Ok s₀ owed (s.dropNewest gid f) := by
  unfold OutboxService.dropNewest
  split
  · exact h
  · rename_i job last
    have eq : s.queue gid f = (s.queue gid f).dropLast ++ [job] :=
      (dropLast_append_getLast? job last).symm
    have dropped := h.drop eq
    rwa [append_nil] at dropped

lemma Ok.failQueue (gid f) : Ok s₀ owed (s.failQueue gid f) :=
  Function.Iterate.rec (Ok s₀ owed) h (fun _ ok => ok.dropOldest gid f) _

end

variable {q : List QueuedMessage}

section
variable (h : Ok s₀ ((gid, f, job.messageId) :: owed) s)
include h

lemma Ok.put (added : q.Perm (job :: s.queue gid f)) :
    Ok s₀ owed (s.setQueue gid f q) := by
  obtain ⟨gone, passed, accounts⟩ := h.accounts
  refine ⟨h.sound.put added, gone, passed, accounts.left, accounts.sent, accounts.excused, ?_⟩
  intro gid' f' job' mem
  refine (accounts.conserved gid' f' job' mem).imp_left fun stayed => ?_
  rw [queue_setQueue]
  split_ifs with own
  · obtain ⟨rfl, rfl⟩ := own
    exact added.mem_iff.mpr (mem_cons_of_mem _ stayed)
  · exact stayed

lemma Ok.enqueue :
    Ok s₀ owed (s.enqueue gid f job) := by
  have room := Function.Iterate.rec (Ok s₀ _) h (fun _ ok => ok.dropOldest gid f)
    ((s.queue gid f).length + 1 - groupOfflineQueuePerMember)
  exact room.put (perm_append_singleton job _)

lemma Ok.requeueJob :
    Ok s₀ owed (s.requeueJob gid f job) :=
  Function.Iterate.rec (Ok s₀ owed) (h.put (List.Perm.refl _))
    (fun _ ok => ok.dropNewest gid f) _

end

lemma requeued_ids (h : Sound [] s) (gid f) :
    (jobIds (s.requeuedJobs gid f)).Sublist (s.runtime gid).ledgers.keys := by
  have named : ∀ e ∈ (s.runtime gid).ledgers.entries,
      ∃ l, s.ledgers.get? e.2 = some l ∧ l.messageId = e.1 := by
    intro e mem
    obtain ⟨l, found, id, -⟩ := h.kept gid e.1 e.2 ((get?_eq_some_iff _ _ _).mpr mem)
    exact ⟨l, found, id⟩
  unfold requeuedJobs sentLedgers Dict.values Dict.keys
  generalize (s.runtime gid).ledgers.entries = entries at named ⊢
  induction entries with
  | nil => exact List.Sublist.slnil
  | cons e entries ih =>
    obtain ⟨l, found, id⟩ := named e mem_cons_self
    have rest := ih fun e' mem => named e' (mem_cons_of_mem e mem)
    rw [map_cons, map_cons, filter_cons]
    split_ifs with out
    · rw [filterMap_cons, found]
      rw [filterMap_cons]
      split
      · exact rest.trans (sublist_cons_self _ _)
      · rename_i job eq
        split_ifs at eq
        cases eq
        rw [jobIds, map_cons, jobOf, id]
        exact rest.cons_cons _
    · exact rest.trans (sublist_cons_self _ _)

lemma mem_requeuedJobs (h : Sound [] s) (mem : mid ∈ jobIds (s.requeuedJobs gid f)) :
    Listed s gid f mid ∧ mid ∉ jobIds (s.queue gid f) := by
  obtain ⟨job, inJobs, rfl⟩ := mem_map.mp mem
  obtain ⟨l, inLedgers, built⟩ := mem_filterMap.mp inJobs
  obtain ⟨ref, inSent, found⟩ := mem_filterMap.mp inLedgers
  obtain ⟨inKept, out⟩ := mem_filter.mp inSent
  obtain ⟨mid, kept⟩ := (mem_values _ _).mp inKept
  obtain ⟨l', found', id, -⟩ := h.kept gid mid ref kept
  cases found.symm.trans found'
  split_ifs at built with inside
  cases built
  rw [found, any_some, decide_eq_true_eq] at out
  refine ⟨⟨ref, l, ?_, found, ?_⟩, ?_⟩
  · rwa [jobOf, id]
  · rw [Dict.contains, out, isSome_some]
  · intro queued
    obtain ⟨job, inQueue, same⟩ := mem_map.mp queued
    exact inside (any_eq_true.mpr ⟨job, inQueue, decide_eq_true same⟩)

lemma Ok.markSent (refs : List ℕ) (h : Ok s₀ owed s) (clear : Accounts s₀ s [] [])
    (due : ∀ ref ∈ refs, ∀ l, s.ledgers.get? ref = some l →
      l.messageId ∈ jobIds (s.queue l.groupId f) ∨ (l.groupId, f, l.messageId) ∈ owed) :
    Ok s₀ owed (refs.foldl (fun s ref => s.mark ref f .queued) s) := by
  induction refs generalizing s with
  | nil => exact h
  | cons ref refs ih =>
    have r := relabels_mark s ref f .queued
    have cleared : Accounts s₀ (s.mark ref f .queued) [] [] := clear.mark ref fun _ => nofun
    refine ih ⟨h.sound.mark ref f .queued fun _ => due ref mem_cons_self, [], [], cleared⟩
      cleared ?_
    intro ref' mem l' found'
    obtain ⟨l, found, id, group⟩ := r.origin ref' l' found'
    rw [r.queue, id, group]
    exact due ref' (mem_cons_of_mem ref mem) l found

lemma Ok.requeueJobs (jobs : List QueuedMessage)
    (h : Ok s₀ (jobs.map fun job => (gid, f, job.messageId)) s) :
    Ok s₀ [] (jobs.foldl (OutboxService.requeueJob gid f) s) := by
  induction jobs generalizing s with
  | nil => exact h
  | cons job jobs ih => exact ih h.requeueJob

lemma Sound.requeueSent (h : Sound [] s) (gid f) : Ok s [] (s.requeueSent gid f) := by
  have due : ∀ gid' f' mid, (gid', f', mid) ∈
      (s.requeuedJobs gid f).map (fun job => (gid, f, job.messageId)) →
      Listed s gid' f' mid ∧ mid ∉ jobIds (s.queue gid' f') := by
    intro gid' f' mid mem
    obtain ⟨job, inJobs, eq⟩ := mem_map.mp mem
    cases eq
    exact mem_requeuedJobs h (mem_map_of_mem inJobs)
  have once : ((s.requeuedJobs gid f).map fun job => (gid, f, job.messageId)).Nodup := by
    have nodup : (jobIds (s.requeuedJobs gid f)).Nodup :=
      (requeued_ids h gid f).nodup (s.runtime gid).ledgers.nodup
    have paired := nodup.map (f := fun mid => (gid, f, mid)) fun a b eq =>
      (Prod.mk.inj (Prod.mk.inj eq).2).2
    rwa [jobIds, List.map_map] at paired
  have borrowed := h.borrow once (fun gid' f' mid mem => (due gid' f' mid mem).1)
    fun gid' f' mid mem => (due gid' f' mid mem).2
  have marked := Ok.markSent (f := f) (s.sentLedgers gid f) (Ok.start borrowed)
    (Accounts.refl s) ?_
  · have sorted : ((s.requeuedJobs gid f).insertionSort fun j k => j.gseq ≤ k.gseq).reverse.Perm
        (s.requeuedJobs gid f) := (reverse_perm _).trans (perm_insertionSort _ _)
    exact Ok.requeueJobs _ ⟨marked.sound.perm (sorted.symm.map _), marked.accounts⟩
  · intro ref inSent l found
    obtain ⟨inKept, out⟩ := mem_filter.mp inSent
    obtain ⟨mid, kept⟩ := (mem_values _ _).mp inKept
    obtain ⟨l', found', -, group⟩ := h.kept gid mid ref kept
    cases found.symm.trans found'
    rw [group]
    by_cases inside : (s.queue gid f).any (fun job => job.messageId = l.messageId)
    · obtain ⟨job, inQueue, same⟩ := any_eq_true.mp inside
      exact .inl (of_decide_eq_true same ▸ mem_map_of_mem inQueue)
    · refine .inr (mem_map.mpr ⟨jobOf l, ?_, rfl⟩)
      refine mem_filterMap.mpr ⟨l, mem_filterMap.mpr ⟨ref, inSent, found⟩, ?_⟩
      exact if_neg inside

lemma Accounts.pumpNext (h : Accounts s₀ s gone passed)
    (sound : Sound [] s) (away : ∀ p ∈ gone, p ∉ passed →
      p.job.messageId ∉ jobIds (s.queue p.groupId p.member))
    (id gid f) : Ok s₀ [] (s.pumpNext id gid f) := by
  have ok : Ok s₀ [] s := ⟨sound, gone, passed, h⟩
  unfold OutboxService.pumpNext
  split
  · exact ok.finish id
  · rename_i job rest eq
    split_ifs
    · exact ok.finish id
    · split
      · exact (ok.failQueue gid f).finish id
      · split_ifs
        · have inside : job.messageId ∈ jobIds (s.queue gid f) := by
            rw [eq]
            exact mem_cons_self
          obtain ⟨ref, l, kept, found, -⟩ := sound.listed gid f job.messageId (.inl inside)
          obtain ⟨l', found', mine, group⟩ := sound.kept gid job.messageId ref kept
          cases found.symm.trans found'
          rw [show (s.runtime gid).ledgers.get? job.messageId = some ref from kept]
          have r := relabels_mark s ref f .sending
          have marked : Ok s₀ [] (s.mark ref f .sending) := by
            refine ⟨sound.mark ref f .sending (by rintro ⟨⟩), gone, passed, h.mark ref ?_⟩
            -- the entry is that of a message in the queue, not of one that left
            intro _ p mem notPassed l' found' hit
            cases found.symm.trans found'
            obtain ⟨same, groups, rfl⟩ := hit
            apply away p mem notPassed
            rwa [← groups, group, ← same, mine]
          refine marked.suspend id ?_
          exact Holds.relabel r ⟨ref, l, rfl, found, mine, group⟩
        · exact (ok.failQueue gid f).finish id

lemma Sound.head_fresh {rest} (h : Sound owed s)
    (eq : s.queue gid f = job :: rest) : job.messageId ∉ jobIds rest := by
  have nodup := h.distinct gid f
  rw [eq] at nodup
  exact (nodup_cons.mp nodup).1

section Pump
variable {rest : List QueuedMessage} {ref : ℕ} {l : GroupMessageLedger}
  (h : Sound [] s) (eq : s.queue gid f = job :: rest) (found : s.ledgers.get? ref = some l)
  (mine : l.messageId = job.messageId) (group : l.groupId = gid) (id : ℕ)
include h eq found mine

lemma Sound.popSent {posted} (same : posted = { groupId := gid, member := f, job }) :
    Ok s [] (({ s with sent := s.sent ++ [posted] } : OutboxService).popNext id gid f
      fun s => s.mark ref f .sent) := by
  have noted : Accounts s ({ s with sent := s.sent ++ [posted] } : OutboxService) [] [posted] :=
    ⟨(append_nil _).symm, rfl, nofun, fun _ _ _ mem => .inl mem⟩
  have sound : Sound [] ({ s with sent := s.sent ++ [posted] } : OutboxService) :=
    h.still ⟨rfl, rfl, rfl, rfl⟩ fun _ _ => .inl
  have eq' : ({ s with sent := s.sent ++ [posted] } : OutboxService).queue gid f =
    [] ++ job :: rest := eq
  have passed : { groupId := gid, member := f, job } ∈ [posted] :=
    mem_singleton.mpr same.symm
  have transmitted : ∀ p ∈ ([] ++ [{ groupId := gid, member := f, job }] : List Posted),
      p ∈ [posted] := by
    intro p mem
    rwa [mem_singleton.mp mem]
  unfold popNext
  rw [eq']
  refine ((noted.leave eq' (.inl passed)).mark ref ?_).pumpNext ?_ ?_ id gid f
  · intro _ p mem notPassed
    exact absurd (transmitted p mem) notPassed
  · exact (sound.leave eq').settleMark found mine nofun
  · intro p mem notPassed
    exact absurd (transmitted p mem) notPassed

include group

lemma Sound.popFailed : Ok s [] ((s.mark ref f .failed).popNext id gid f fun s => s) := by
  have r := relabels_mark s ref f .failed
  have eq' : (s.mark ref f .failed).queue gid f = [] ++ job :: rest := by
    simp [r.queue, eq]
  have failed : Failed (s.mark ref f .failed) { groupId := gid, member := f, job } :=
    failed_mark found mine group
  have marked : Sound [] (s.mark ref f .failed) := h.mark ref f .failed nofun
  have accounts := ((Accounts.refl s).mark ref (absurd rfl)).leave eq' (.inr failed)
  unfold popNext
  rw [eq']
  refine accounts.pumpNext ?_ ?_ id gid f
  · refine (marked.leave eq').settle ?_
    intro ref' l' found' same _
    obtain ⟨l₀, found₀, same₀, -⟩ := r.origin ref' l' found'
    have own : ref' = ref :=
      h.unique ref' ref l₀ l found₀ found (same₀.symm.trans (same.trans mine.symm))
    obtain ⟨_, _, entry⟩ := mark_entry found' f
    rw [entry, if_pos ⟨own, rfl⟩]
    exact nofun
  · intro p mem _
    cases mem_singleton.mp mem
    rw [show ((s.mark ref f .failed).leave gid f job ([] ++ rest)).queue gid f = _ from
      queue_setQueue_self _ gid f _]
    exact h.head_fresh eq

lemma Sound.popThenFail : Ok s [] (s.popNext id gid f fun s => s.mark ref f .failed) := by
  have eq' : s.queue gid f = [] ++ job :: rest := eq
  unfold popNext
  rw [eq]
  refine ((Accounts.refl s).leaveMark eq' found mine group).pumpNext
    ((h.leave eq').settleMark found mine nofun) ?_ id gid f
  intro p mem _
  cases mem_singleton.mp mem
  rw [(relabels_mark _ ref f .failed).queue,
    show (s.leave gid f job ([] ++ rest)).queue gid f = _ from queue_setQueue_self s gid f _]
  exact h.head_fresh eq

end Pump

lemma queue_of_head? (h : q.head? = some job) : ∃ rest, q = job :: rest := by
  obtain ⟨rest, eq⟩ := head?_eq_some_iff.mp h
  exact ⟨rest, eq⟩

lemma Sound.resumePump (h : Sound [] s) {id task} (running : s.tasks.get? id = some task) {outcome}
    (steady : s.pumpSteady dumps task outcome) :
    Ok s [] (s.resumePump dumps id task outcome) := by
  have holds := h.tasks id task running
  obtain ⟨gid, f, point⟩ := task
  unfold OutboxService.resumePump
  dsimp only
  cases point with
  | starting =>
    cases outcome with
    | started => exact (Accounts.refl s).pumpNext h nofun id gid f
    | _ => exact Ok.start h
  | linking job ledger =>
    obtain ⟨ref, l, rfl, found, mine, group⟩ := holds
    cases outcome with
    | offline =>
      have inside : job ∈ s.queue gid f := of_decide_eq_true steady
      have marked : Ok s [] (s.mark ref f .queued) := by
        refine ⟨h.mark ref f .queued ?_, [], [], (Accounts.refl s).mark ref fun _ => nofun⟩
        intro _ l' found'
        cases found.symm.trans found'
        rw [group, mine]
        exact .inl (mem_map_of_mem inside)
      exact marked.finish id
    | groupError =>
      obtain ⟨rest, eq⟩ := queue_of_head? (of_decide_eq_true steady)
      exact h.popFailed eq found mine group id
    | linked linkEpoch =>
      dsimp only
      have head : s.givesUp dumps gid f job linkEpoch →
          ∃ rest, s.queue gid f = job :: rest := by
        intro gives
        simp only [pumpSteady, gives, Bool.not_true, Bool.false_or, decide_eq_true_eq] at steady
        exact queue_of_head? steady
      unfold givesUp at head
      split
      · rename_i refused
        rw [refused] at head
        obtain ⟨rest, eq⟩ := head rfl
        exact h.popFailed eq found mine group id
      · rename_i record sendable
        rw [sendable] at head
        split_ifs with moved
        · exact (Accounts.refl s).pumpNext h nofun id gid f
        · split
          · rename_i broken
            obtain ⟨rest, eq⟩ := head (by
              dsimp only
              rw [broken, not_not.mp moved]
              simp [Except.toOption])
            exact h.popThenFail eq found mine group id
          · exact (Ok.start h).suspend id ⟨ref, l, rfl, found, mine, group⟩
    | _ => exact Ok.start h
  | sending job ledger epoch frame stage =>
    obtain ⟨ref, l, rfl, found, mine, group⟩ := holds
    cases stage with
    | pacing =>
      cases outcome with
      | paced =>
        have noted : Ok s [] ({ s with wire := s.wire ++ [⟨gid, epoch, f, frame,
            groupMessageAad gid epoch s.me f⟩] } : OutboxService) :=
          (Ok.start h).still ⟨rfl, rfl, rfl, rfl⟩ rfl rfl fun _ _ => .inl
        exact noted.suspend id ⟨ref, l, rfl, found, mine, group⟩
      | _ => exact Ok.start h
    | forwarding =>
      cases outcome with
      | transportError => exact ((Ok.start h).markFailed ref f).finish id
      | forwarded =>
        obtain ⟨rest, eq⟩ := queue_of_head? (of_decide_eq_true steady)
        exact h.popSent eq found mine id rfl
      | _ => exact Ok.start h

lemma Ok.ensurePump (h : Ok s₀ [] s) (gid f) : Ok s₀ [] (s.ensurePump gid f) := by
  unfold OutboxService.ensurePump
  split_ifs
  · exact h
  · have queues : (s.setOutbox gid f { s.outbox gid f with pump := some s.nextTask }).queue =
        s.queue := by
      funext gid' f'
      rw [queue, outbox_setOutbox]
      split_ifs with own
      · obtain ⟨rfl, rfl⟩ := own
        rfl
      · rfl
    exact h.still ⟨queues, kept_setOutbox s gid f _, rfl, rfl⟩ rfl rfl
      (forall_of_set (.inr trivial) fun _ _ => .inl)

lemma Ok.failInFlight (h : Ok s₀ [] s) (f ref) : Ok s₀ [] (s.failInFlight f ref) := by
  unfold OutboxService.failInFlight
  split
  · exact h
  · split_ifs
    · exact h.markFailed ref f
    · exact h

lemma Sound.applyGack (h : Sound [] s) (gid sender id) : Ok s [] (s.applyGack gid sender id) := by
  unfold OutboxService.applyGack
  split
  · exact Ok.start h
  · split
    · exact Ok.start h
    · split_ifs
      · exact ⟨h.mark _ sender .delivered nofun, [], [],
          (Accounts.refl s).mark _ fun _ => nofun⟩
      · exact Ok.start h

lemma Ok.readLedger (h : Ok s₀ [] s) (clear : Accounts s₀ s [] []) (sender cursor ref) :
    Ok s₀ [] (s.readLedger sender cursor ref) ∧
      Accounts s₀ (s.readLedger sender cursor ref) [] [] := by
  unfold OutboxService.readLedger
  split
  · exact ⟨h, clear⟩
  · rename_i l found
    split_ifs
    · have same : ∀ f, (l.applyReadCursor cursor).recipients.contains f = l.recipients.contains f := by
        intro f
        simp [applyReadCursor, Dict.contains, get?_mapVals, isSome_map]
      have r : Relabels s
          { s with ledgers := s.ledgers.set ref (l.applyReadCursor cursor) } := by
        refine ⟨rfl, rfl, rfl, rfl, rfl, rfl, ?_, ?_⟩
        · intro ref' l₀ found₀
          rw [get?_set]
          split_ifs with own
          · subst own
            cases found.symm.trans found₀
            exact ⟨_, rfl, rfl, rfl, fun f lists => (same f).trans lists⟩
          · exact ⟨l₀, found₀, rfl, rfl, fun _ lists => lists⟩
        · exact forall_of_set ⟨l, found, rfl, rfl⟩ fun _ l' found' => ⟨l', found', rfl, rfl⟩
      have cleared : Accounts s₀
          { s with ledgers := s.ledgers.set ref (l.applyReadCursor cursor) } [] [] :=
        ⟨clear.left, clear.sent, (by rintro x ⟨⟩), clear.conserved⟩
      refine ⟨⟨h.sound.relabel r ?_, [], [], cleared⟩, cleared⟩
      intro ref' l' f found' queued
      rcases get?_of_set found' with ⟨rfl, rfl⟩ | ⟨-, old'⟩
      · refine .inl ⟨l, found, ?_⟩
        rw [applyReadCursor, get?_mapVals] at queued
        obtain ⟨state, old, eq⟩ := map_eq_some_iff.mp queued
        split_ifs at eq
        rw [old, eq]
      · exact .inl ⟨l', old', queued⟩
    · exact ⟨h, clear⟩

lemma Sound.applyGread (h : Sound [] s) (gid sender cursor) :
    Ok s [] (s.applyGread gid sender cursor) := by
  have every : ∀ (refs : List ℕ) (t : OutboxService), Ok s [] t → Accounts s t [] [] →
      Ok s [] (refs.foldl (OutboxService.readLedger sender cursor) t) := by
    intro refs
    induction refs with
    | nil => exact fun _ ok _ => ok
    | cons ref refs ih =>
      intro t ok clear
      obtain ⟨ok', clear'⟩ := ok.readLedger clear sender cursor ref
      exact ih _ ok' clear'
  exact every _ s (Ok.start h) (Accounts.refl s)

lemma Sound.onForwardError (h : Sound [] s) (gid f code now) :
    Ok s [] (s.onForwardError gid f code now) := by
  have fails : ∀ t, Ok s [] t → ∀ refs : List ℕ,
      Ok s [] (refs.foldl (OutboxService.failInFlight f) t) :=
    fun t ok refs => Runs.foldl_keeps (fun _ ref ok => ok.failInFlight f ref) refs ok
  cases code with
  | offline | rate => exact h.requeueSent gid f
  | unknown =>
    have defunct : Ok s [] ({ s with groups := s.groups.markDefunct gid now } : OutboxService) :=
      (Ok.start h).still ⟨rfl, rfl, rfl, rfl⟩ rfl rfl fun _ _ => .inl
    exact fails _ defunct _
  | notMember | other => exact fails s (Ok.start h) _

lemma Sound.onGroupEvent (h : Sound [] s) (packet now) :
    Ok s [] (s.onGroupEvent P packet now) := by
  have applied : Ok s []
      ({ s with groups := (s.groups.onGroupEvent P packet now).1 } : OutboxService) :=
    (Ok.start h).still ⟨rfl, rfl, rfl, rfl⟩ rfl rfl fun _ _ => .inl
  unfold OutboxService.onGroupEvent
  dsimp only
  split
  · split_ifs
    · exact applied.failQueue _ _
    · exact applied
  · exact applied

section Send
variable (text : String) {messageId : MessageId} (ts : Seconds) {recipients : List Fingerprint}

lemma entered_queue : (s.entered gid text messageId ts recipients).queue = s.queue := by
  funext gid' f
  simp only [queue, outbox, entered, runtime, get?_set]
  split_ifs with same
  · simp [same]
  · rfl

lemma entered_kept (gid' mid) :
    (s.entered gid text messageId ts recipients).kept gid' mid = if gid' = gid then
      ((s.runtime gid).keepLedger messageId s.nextLedger).ledgers.get? mid
    else s.kept gid' mid := by
  simp only [kept, entered, runtime, get?_set]
  split_ifs <;> rfl

variable {l : GroupMessageLedger} {ref : ℕ}

lemma Sound.entered_old (h : Sound owed s) (found : s.ledgers.get? ref = some l) :
    (s.entered gid text messageId ts recipients).ledgers.get? ref = some l := by
  rwa [entered, get?_set_ne _ _ (Nat.ne_of_lt (h.heap ref l found))]

lemma Sound.entered_listed (h : Sound [] s) (steady : s.sendSteady gid messageId)
    {gid'} (inside : mid ∈ jobIds (s.queue gid' f)) :
    Listed (s.entered gid text messageId ts recipients) gid' f mid := by
  obtain ⟨ref, l, kept, found, lists⟩ := h.listed gid' f mid (.inl inside)
  refine ⟨ref, l, ?_, h.entered_old text ts found, lists⟩
  rw [entered_kept]
  split_ifs with same
  · subst same
    simp only [sendSteady, Bool.and_eq_true, List.all_eq_true] at steady
    have known : mid ∈ (s.runtime gid').ledgers.keys := by
      by_contra absent
      rw [OutboxService.kept, (get?_eq_none_iff _ _).mpr absent] at kept
      cases kept
    have remains := steady.2 mid known
    rw [Bool.or_eq_true] at remains
    rcases remains with stays | nowhere
    · obtain ⟨ref', kept'⟩ := isSome_iff_exists.mp stays
      rcases get?_dropOldest_moveToEnd_set kept' with ⟨new, -⟩ | ⟨-, old⟩
      · obtain ⟨l', found', id, -⟩ := h.kept gid' mid ref kept
        have differs := steady.1 l' ((mem_values _ _).mpr ⟨ref, found'⟩)
        exact absurd (id.trans new) (of_decide_eq_true differs)
      · rw [kept', ← old]
        exact kept
    · -- the queue is that of an outbox the runtime has
      cases there : (s.runtime gid').outboxes.get? f with
      | none =>
        rw [queue, outbox, there] at inside
        cases inside
      | some o =>
        have absent := all_eq_true.mp nowhere o ((mem_values _ _).mpr ⟨f, there⟩)
        rw [queue, outbox, there] at inside
        exact absurd inside (of_decide_eq_true absent)
  · exact kept

lemma Sound.entered (h : Sound [] s) (steady : s.sendSteady gid messageId)
    (once : recipients.Nodup) : Sound (recipients.map fun f => (gid, f, messageId))
      (s.entered gid text messageId ts recipients) := by
  have fresh : ∀ ref l, s.ledgers.get? ref = some l → l.messageId ≠ messageId := by
    intro ref l found
    simp only [sendSteady, Bool.and_eq_true, List.all_eq_true] at steady
    exact of_decide_eq_true (steady.1 l ((Dict.mem_values _ _).mpr ⟨ref, found⟩))
  have due : ∀ gid' f mid, (gid', f, mid) ∈ recipients.map (fun f => (gid, f, messageId)) ↔
      gid' = gid ∧ f ∈ recipients ∧ mid = messageId := by
    intro gid' f mid
    rw [List.mem_map]
    constructor
    · rintro ⟨f', mem, eq⟩
      cases eq
      exact ⟨rfl, mem, rfl⟩
    · rintro ⟨rfl, mem, rfl⟩
      exact ⟨f, mem, rfl⟩
  have own : (s.entered gid text messageId ts recipients).ledgers.get? s.nextLedger =
      some (.waiting messageId gid (s.runtime gid).nextGseq text ts recipients) :=
    get?_set_self _ _ _
  have entries := waiting_recipients messageId gid (s.runtime gid).nextGseq text
    ts recipients
  have states : ∀ f, messageId ∉ jobIds (s.queue gid f) := by
    intro f inside
    obtain ⟨ref, l, kept, -⟩ := h.listed gid f messageId (.inl inside)
    obtain ⟨l', found, id, -⟩ := h.kept gid messageId ref kept
    exact fresh ref l' found id
  refine ⟨?_, ?_, ?_, ?_, ?_, ?_, ?_, ?_, ?_⟩
  · exact forall_of_set (Nat.lt_succ_self _) fun ref l old => Nat.lt_succ_of_lt (h.heap ref l old)
  · intro ref₁ ref₂ l₁ l₂ found₁ found₂ same
    rcases get?_of_set found₁ with ⟨own₁, rfl⟩ | ⟨-, old₁⟩
    · rcases get?_of_set found₂ with ⟨own₂, -⟩ | ⟨-, old₂⟩
      · exact own₁.trans own₂.symm
      · exact absurd same.symm (fresh ref₂ l₂ old₂)
    · rcases get?_of_set found₂ with ⟨-, rfl⟩ | ⟨-, old₂⟩
      · exact absurd same (fresh ref₁ l₁ old₁)
      · exact h.unique ref₁ ref₂ l₁ l₂ old₁ old₂ same
  · intro gid' mid ref kept
    rw [entered_kept] at kept
    have old : s.kept gid' mid = some ref → ∃ l,
        (s.entered gid text messageId ts recipients).ledgers.get? ref = some l ∧
          l.messageId = mid ∧ l.groupId = gid' := by
      intro kept
      obtain ⟨l, found, id, group⟩ := h.kept gid' mid ref kept
      exact ⟨l, h.entered_old text ts found, id, group⟩
    split_ifs at kept with same
    · subst same
      rcases get?_dropOldest_moveToEnd_set kept with ⟨rfl, rfl⟩ | ⟨-, before⟩
      · exact ⟨_, own, rfl, rfl⟩
      · exact old before
    · exact old kept
  · intro gid' f mid mem
    rw [entered_queue] at mem
    rcases mem with inside | owed
    · exact h.entered_listed text ts steady inside
    · obtain ⟨rfl, listed, rfl⟩ := (due gid' f mid).mp owed
      refine ⟨s.nextLedger, _, ?_, own, ?_⟩
      · rw [entered_kept, if_pos rfl]
        exact get?_dropOldest_moveToEnd_set_self _ _ _ (by decide)
      · rw [Dict.contains, entries, if_pos listed, isSome_some]
  · rw [entered_queue]
    exact h.distinct
  · intro gid' f mid owed
    obtain ⟨rfl, -, rfl⟩ := (due gid' f mid).mp owed
    rw [entered_queue]
    exact states f
  · exact once.map fun f g eq => (Prod.mk.inj (Prod.mk.inj eq).2).1
  · intro ref l f found queued
    rw [entered_queue]
    rcases get?_of_set found with ⟨-, rfl⟩ | ⟨-, old⟩
    · rw [entries] at queued
      split_ifs at queued with listed
      exact .inr ((due _ _ _).mpr ⟨rfl, listed, rfl⟩)
    · exact (h.queued ref l f old queued).imp_right (by rintro ⟨⟩)
  · intro id task running
    have holds := h.tasks id task running
    refine holds.mono ?_
    rintro job ledger ⟨ref, l, rfl, found, mine, group⟩
    exact ⟨ref, l, rfl, h.entered_old text ts found, mine, group⟩

lemma Ok.enqueueAll (fs : List Fingerprint)
    (h : Ok s₀ (fs.map fun f => (gid, f, job.messageId)) s) :
    Ok s₀ [] (fs.foldl (fun s f => s.enqueue gid f job) s) := by
  induction fs generalizing s with
  | nil => exact h
  | cons f fs ih => exact ih h.enqueue

lemma recipients_nodup (record : LocalGroupRecord) (me) : (record.recipients me).Nodup := by
  have distinct := (record.members.nodup.filter fun f => decide (f ≠ me))
  exact (perm_insertionSort _ _).nodup_iff.mpr distinct

lemma Sound.send (h : Sound [] s) (gid) (steady : s.sendSteady gid messageId) :
    Ok s [] (s.send gid text messageId ts).1 := by
  unfold OutboxService.send
  split
  · exact Ok.start h
  · rename_i record _
    have sound := h.entered text ts steady (recipients_nodup record s.me)
    have accounts : Accounts s (s.entered gid text messageId ts (record.recipients s.me)) [] [] := by
      refine ⟨(append_nil _).symm, (append_nil _).symm, nofun, ?_⟩
      rw [entered_queue]
      exact fun _ _ _ mem => .inl mem
    refine Runs.foldl_keeps (fun _ f ok => ok.ensurePump gid f) _ ?_
    exact Ok.enqueueAll (record.recipients s.me) ⟨sound, [], [], accounts⟩

end Send

lemma sound_start (me groups) : Sound [] (start me groups) := by
  refine ⟨nofun, nofun, nofun, ?_, ?_, nofun, nodup_nil, nofun, nofun⟩
  · intro gid f mid mem
    rcases mem with inside | due
    · exact nomatch inside
    · exact nomatch due
  · intro gid f
    exact nodup_nil

lemma Sound.step (h : Sound [] s) (action) (steady : s.steady dumps action) :
    Ok s [] (step P dumps s action) := by
  cases action with
  | attach => exact (Ok.start h).still ⟨rfl, rfl, rfl, rfl⟩ rfl rfl fun _ _ => .inl
  | close => exact (Ok.start h).still ⟨rfl, rfl, rfl, rfl⟩ rfl rfl nofun
  | send gid text messageId ts => exact h.send text ts gid steady
  | flush gid member =>
    simp only [OutboxService.step, flushMember]
    split_ifs
    · exact Ok.start h
    · exact (Ok.start h).ensurePump gid member
  | resume id outcome =>
    simp only [OutboxService.step]
    split
    · exact Ok.start h
    · rename_i task running
      refine h.resumePump running ?_
      rwa [OutboxService.steady, running, all_some] at steady
  | groupEvent packet now => exact h.onGroupEvent packet now
  | forwardError gid member code now => exact h.onForwardError gid member code now
  | gack gid sender id => exact h.applyGack gid sender id
  | gread gid sender cursor => exact h.applyGread gid sender cursor

/-- In every interleaving in which a pump settles only the message it saw and no ledger of a
waiting message is forgotten: each message that a step takes off a queue was transmitted in it
or its entry has failed, every other message of a queue stays there, and an entry that says
queued has its message in the queue. -/
theorem outbox_loses_nothing (P : Primitives) (dumps : GmsgFields → Bytes) (me : Fingerprint)
    (groups : LocalGroupManager) (actions : List Action)
    (steady : Runs.Along (step P dumps) (fun s action => s.steady dumps action)
      (start me groups) actions) :
    (∀ before action after, actions = before ++ action :: after →
      let s := run P dumps (start me groups) before
      ∃ gone passed, Accounts s (step P dumps s action) gone passed) ∧
    let s := run P dumps (start me groups) actions
    ∀ ref l f, s.ledgers.get? ref = some l → l.recipients.get? f = some .queued →
      l.messageId ∈ jobIds (s.queue l.groupId f) := by
  have sound : ∀ taken, Runs.Along (step P dumps) (fun s action => s.steady dumps action)
      (start me groups) taken → Sound [] (run P dumps (start me groups) taken) := by
    intro taken along
    exact along.invariant (sound_start me groups) fun s action h ok => (h.step action ok).sound
  refine ⟨?_, ?_⟩
  · rintro before action after rfl
    obtain ⟨along, next⟩ := (Runs.along_append before (action :: after)).mp steady
    exact ((sound before along).step action next.1).accounts
  · intro s ref l f found queued
    rcases (sound actions steady).queued ref l f found queued with inside | due
    · exact inside
    · exact nomatch due

open GroupAuthority (plainPrimitives noon nightWatch bob)
open Mirror (alice)
open SenderKeyService (trioManager plainService)

def first : MessageId := SenderKeyService.firstDraw.messageId
def second : MessageId := SenderKeyService.secondDraw.messageId

/-- Bob gets a first message. The relay reports it undelivered while a second one is on its way,
and then the forward of the second one returns. -/
def lateReport : List Action :=
  [.send nightWatch "first" first 0, .resume 0 .started, .resume 0 (.linked 2), .resume 0 .paced,
    .resume 0 .forwarded, .send nightWatch "second" second 0, .resume 2 .started,
    .resume 2 (.linked 2), .resume 2 .paced, .forwardError nightWatch bob .offline noon.wall]

def firstJob : QueuedMessage := { messageId := first, gseq := 1, text := "first", ts := 0 }
def secondJob : QueuedMessage := { messageId := second, gseq := 2, text := "second", ts := 0 }

/-- The pump of the second message takes the first one off the queue: it is neither transmitted
in that step nor failed, and its entry says queued with no message in the queue. -/
theorem late_report_loses_message :
    let s := run plainPrimitives plainService.dumps (start alice trioManager) lateReport
    let s' := step plainPrimitives plainService.dumps s (.resume 2 .forwarded)
    (¬ ∃ gone passed, Accounts s s' gone passed) ∧
      ∃ l, s'.ledgers.get? 0 = some l ∧ l.recipients.get? bob = some .queued ∧
        l.messageId ∉ jobIds (s'.queue l.groupId bob) := by
  intro s s'
  have queued : s.queue nightWatch bob = [firstJob, secondJob] := by decide +kernel
  have taken : s'.queue nightWatch bob = [secondJob] := by decide +kernel
  have sent : s'.sent = s.sent ++ [⟨nightWatch, bob, secondJob⟩] := by decide +kernel
  have entries : ∀ l ∈ s'.ledgers.values, l.messageId = first →
      l.recipients.get? bob = some .queued ∧ l.groupId = nightWatch := by decide +kernel
  have kept : (s'.ledgers.get? 0).map messageId = some first := by
    decide +kernel
  constructor
  · rintro ⟨gone, passed, accounts⟩
    have left : ⟨nightWatch, bob, firstJob⟩ ∈ gone := by
      refine (accounts.conserved nightWatch bob firstJob ?_).resolve_left ?_
      · rw [queued]
        exact mem_cons_self
      · rw [taken]
        decide
    have transmitted : passed = [⟨nightWatch, bob, secondJob⟩] :=
      append_cancel_left (accounts.sent.symm.trans sent)
    rcases accounts.excused _ left with inside | ⟨ref, l, found, id, -, failed⟩
    · rw [transmitted] at inside
      revert inside
      decide
    · have still := (entries l ((mem_values _ _).mpr ⟨ref, found⟩) id).1
      rw [failed] at still
      exact nomatch still
  · obtain ⟨l, found, id⟩ := map_eq_some_iff.mp kept
    obtain ⟨waits, group⟩ := entries l ((mem_values _ _).mpr ⟨0, found⟩) id
    refine ⟨l, found, waits, ?_⟩
    rw [group, id, taken]
    decide

/-- The relay reports the first message undelivered after its pump is done, a second one is sent
behind it, and both go out. -/
def earlyReport : List Action :=
  [.send nightWatch "first" first 0, .resume 0 .started, .resume 0 (.linked 2), .resume 0 .paced,
    .resume 0 .forwarded, .forwardError nightWatch bob .offline noon.wall,
    .send nightWatch "second" second 0, .resume 2 .started, .resume 2 (.linked 2),
    .resume 2 .paced, .resume 2 .forwarded, .resume 2 .offline]

theorem outbox_after_early_report :
    let s := run plainPrimitives plainService.dumps (start alice trioManager) earlyReport
    s.queue nightWatch bob = [secondJob] ∧
      (∀ before action after, earlyReport = before ++ action :: after →
        let s := run plainPrimitives plainService.dumps (start alice trioManager) before
        ∃ gone passed,
          Accounts s (step plainPrimitives plainService.dumps s action) gone passed) ∧
      ∀ ref l f, s.ledgers.get? ref = some l → l.recipients.get? f = some .queued →
        l.messageId ∈ jobIds (s.queue l.groupId f) := by
  intro s
  have steady : Runs.Along (step plainPrimitives plainService.dumps)
      (fun s action => s.steady plainService.dumps action) (start alice trioManager)
      earlyReport := by decide +kernel
  exact ⟨by decide +kernel, outbox_loses_nothing plainPrimitives plainService.dumps alice
    trioManager earlyReport steady⟩

end OutboxService
end Ghostlink.Groups
