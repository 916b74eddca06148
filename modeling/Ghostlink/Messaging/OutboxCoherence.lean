import Ghostlink.Base.Runs
import Ghostlink.Messaging.Outbox

/-! The queue of the outbox against the statuses of its messages, over any sequence of calls. The
caller keeps copies of the messages that `next_queued` gave it and may hand one back with
`restore` at any later time. -/

namespace Ghostlink.Messaging
open Collections List Outbox MessageStatus

lemma Message.moved_status {m : Message} {status}
    (allowed : status ∈ transitionsFor m.direction m.status) :
    (m.moved status).status = status := by
  obtain ⟨m', next, now⟩ := m.withStatus_of_mem none allowed
  rwa [moved, next]

lemma Message.Becomes.of_ended {m m' : Message} (h : m.Becomes m')
    (ended : m.status = .read ∨ m.status = .failed) : m'.status = m.status := by
  rcases Relation.ReflTransGen.cases_head h.status with same | ⟨next, allowed, -⟩
  · exact same.symm
  · exfalso
    rcases ended with now | now
    all_goals
      rw [now] at allowed
      cases hd : m.direction <;> rw [hd] at allowed <;> exact not_mem_nil allowed

namespace Outbox
variable {o o' o'' : Outbox}

variable {m : Message}

lemma outgoing_of_pending (h : isPending m) : m.direction = .outgoing := by
  apply outgoing_of_unsettled
  all_goals
    intro now
    simp [isPending, now] at h

lemma status?_put (o : Outbox) (m : Message) (id) :
    (o.put m).status? id = if id = m.messageId then some m.status else o.status? id := by
  show ((o.messages.set m.messageId m).get? id).map Message.status = _
  rw [Dict.get?_set]
  split_ifs <;> rfl

lemma status?_of_messages (h : o'.messages = o.messages) (id) : o'.status? id = o.status? id := by
  rw [status?, status?, h]

def Slotted (o : Outbox) : Prop := ∀ id, o.status? id = some .queued → id ∈ o.queued

structure Settling (o o' : Outbox) : Prop where
  queue : o'.queued = o.queued
  queued : ∀ id, o'.status? id = some .queued → o.status? id = some .queued

lemma Settling.refl (o) : Settling o o := ⟨rfl, fun _ h => h⟩

lemma Settling.trans (h : Settling o o') (h' : Settling o' o'') : Settling o o'' :=
  ⟨h'.queue.trans h.queue, fun id now => h.queued id (h'.queued id now)⟩

lemma Settling.slotted (h : Settling o o') (slotted : Slotted o) : Slotted o' := by
  intro id now
  rw [h.queue]
  exact slotted id (h.queued id now)

lemma Settling.of_eq (queue : o'.queued = o.queued) (messages : o'.messages = o.messages) :
    Settling o o' := by
  refine ⟨queue, fun id now => ?_⟩
  rwa [← status?_of_messages messages]

lemma Settling.put (h : m.status ≠ .queued) : Settling o (o.put m) := by
  refine ⟨rfl, fun id now => ?_⟩
  rw [status?_put] at now
  split_ifs at now
  · exact absurd (Option.some.inj now) h
  · exact now

lemma settling_release (o : Outbox) (id f) : Settling o (o.release id f) := by
  refine .of_eq ?_ (messages_release o id f)
  unfold release settle
  split
  · rfl
  · split_ifs <;> rfl

lemma settling_transition (o : Outbox) (id) {status} (h : status ≠ .queued) (error) :
    Settling o (o.transition id status error).2 := by
  unfold transition
  cases o.messages.get? id with
  | none => exact .refl o
  | some m =>
    dsimp only
    split_ifs
    · exact .refl o
    · cases next : m.withStatus status error with
      | error => exact .refl o
      | ok =>
        refine .put ?_
        rwa [(Message.withStatus_ok next).2]

lemma settling_announce (id) (r : Option Message × Outbox) : Settling r.2 (announce id r) := by
  obtain ⟨m | m, o⟩ := r
  · exact .refl o
  · exact settling_release o id (.result m)

lemma marks_settling : Marks Settling where
  refl := .refl
  trans := .trans
  transition o id _ error h := settling_transition o id h error
  announce := settling_announce
  sent {o id m} _ sending := by
    have pending : isPending m := by rw [isPending, sending]; rfl
    have allowed : sent ∈ transitionsFor m.direction m.status := by
      rw [outgoing_of_pending pending, sending]
      decide
    refine .put ?_
    rw [Message.moved_status allowed]
    decide
  log _ _ := .of_eq rfl rfl

section
variable (slotted : Slotted o)
include slotted

lemma slotted_put_queued (m) :
    Slotted { o.put m with queued := m.messageId :: o.queued } := by
  intro id now
  change (o.put m).status? id = _ at now
  rw [status?_put] at now
  split_ifs at now with same
  · rw [same]
    exact mem_cons_self
  · exact mem_cons_of_mem _ (slotted id now)

lemma slotted_enqueue (h : o.enqueue m = .ok o') : Slotted o' := by
  unfold enqueue at h
  split_ifs at h
  cases h
  intro id now
  change (o.put m).status? id = _ at now
  rw [status?_put] at now
  split_ifs at now with same
  · rw [same]
    exact mem_append_right _ (mem_singleton.mpr rfl)
  · exact mem_append_left _ (slotted id now)

lemma slotted_toQueued (id) : Slotted (o.toQueued id) := by
  unfold toQueued
  cases found : o.messages.get? id with
  | none => exact slotted
  | some m =>
    dsimp only
    split_ifs
    · have filed : (m.moved .queued).messageId = id :=
        (m.moved_becomes .queued).messageId.trans (o.filed id m found)
      have put := slotted_put_queued slotted (m.moved .queued)
      rwa [filed] at put
    · exact slotted

lemma slotted_restore (h : o.restore m = .ok o') : Slotted o' := by
  unfold restore at h
  split_ifs at h
  cases h
  have put := slotted_put_queued slotted (m.moved .queued)
  rwa [(m.moved_becomes .queued).messageId] at put

end

lemma slotted_nextFrom (slots)
    (h : ∀ id, o.status? id = some .queued → id ∈ slots) : Slotted (o.nextFrom slots).2 := by
  induction slots with
  | nil => exact h
  | cons slot rest ih =>
    have later : ∀ id, id ≠ slot → o.status? id = some .queued → id ∈ rest := by
      intro id other now
      exact (mem_cons.mp (h id now)).resolve_left other
    unfold nextFrom
    cases found : o.messages.get? slot with
    | none =>
      intro id now
      refine later id ?_ now
      rintro rfl
      simp [status?, found] at now
    | some m =>
      dsimp only
      split_ifs with queued
      · intro id now
        have pending : isPending m := by rw [isPending, queued]; rfl
        have allowed : sending ∈ transitionsFor m.direction m.status := by
          rw [outgoing_of_pending pending, queued]
          decide
        have filed : (m.moved .sending).messageId = slot :=
          (m.moved_becomes .sending).messageId.trans (o.filed slot m found)
        change (o.put (m.moved .sending)).status? id = _ at now
        rw [status?_put, filed, Message.moved_status allowed] at now
        split_ifs at now with same
        · exact absurd (Option.some.inj now) (by decide)
        · exact later id same now
      · refine ih fun id now => later id ?_ now
        rintro rfl
        rw [status?, found] at now
        exact queued (Option.some.inj now)

lemma status_of_nextFrom {slots} (h : (o.nextFrom slots).1 = some m) : m.status = .sending := by
  induction slots with
  | nil => cases h
  | cons slot rest ih =>
    unfold nextFrom at h
    cases found : o.messages.get? slot with
    | none =>
      simp [found] at h
    | some n =>
      rw [found] at h
      dsimp only at h
      split_ifs at h with queued
      · have pending : isPending n := by rw [isPending, queued]; rfl
        have allowed : sending ∈ transitionsFor n.direction n.status := by
          rw [outgoing_of_pending pending, queued]
          decide
        rw [← Option.some.inj h]
        exact Message.moved_status allowed
      · exact ih h

structure Rebuilt (o : Outbox) : Prop where
  once : o.queued.Nodup
  exactly : ∀ id, id ∈ o.queued ↔ ∃ m, o.messages.get? id = some m ∧ isPending m
  ascending : o.queued.Pairwise fun id id' => ∀ m m', o.messages.get? id = some m →
    o.messages.get? id' = some m' → m.sequence ≤ m'.sequence

variable {ms : List Message}

lemma get?_foldl_requeue_of_notMem {id} (h : id ∉ ms.map Message.messageId) (o : Outbox) :
    (ms.foldl requeue o).messages.get? id = o.messages.get? id := by
  induction ms generalizing o with
  | nil => rfl
  | cons m ms ih =>
    rw [map_cons, mem_cons, not_or] at h
    have first : (requeue o m).messages.get? id = o.messages.get? id := by
      unfold requeue
      split_ifs
      · exact Dict.get?_set_ne _ _ (by rw [(m.moved_becomes .queued).messageId]; exact h.1)
      · rfl
    exact (ih h.2 (requeue o m)).trans first

lemma status?_requeue (found : o.messages.get? m.messageId = some m)
    (pending : isPending m) : (requeue o m).status? m.messageId = some .queued := by
  have out := outgoing_of_pending pending
  unfold requeue
  split_ifs with other
  · have allowed : MessageStatus.queued ∈ transitionsFor m.direction m.status := by
      rw [out]
      cases now : m.status with
      | queued => exact absurd now other
      | sending | sent => decide
      | delivered | read | failed =>
        simp [isPending, now] at pending
    rw [status?_put, (m.moved_becomes .queued).messageId, if_pos rfl, Message.moved_status allowed]
  · rw [status?, found, Option.map_some, not_not.mp other]

lemma status?_foldl_requeue (distinct : (ms.map Message.messageId).Nodup) (mem : m ∈ ms)
    (found : o.messages.get? m.messageId = some m)
    (pending : isPending m) : (ms.foldl requeue o).status? m.messageId = some .queued := by
  induction ms generalizing o with
  | nil => simp at mem
  | cons n ms ih =>
    rw [map_cons, nodup_cons] at distinct
    rcases mem_cons.mp mem with rfl | mem
    · have now := status?_requeue found pending
      rwa [foldl_cons, status?, get?_foldl_requeue_of_notMem distinct.1]
    · have other : m.messageId ≠ n.messageId := fun same =>
        distinct.1 (same ▸ mem_map_of_mem mem)
      have alone : m.messageId ∉ [n].map Message.messageId := by
        rwa [map_singleton, mem_singleton]
      exact ih distinct.2 mem ((get?_foldl_requeue_of_notMem alone o).trans found)

lemma rebuilt_requeueUnacked (o : Outbox) : Rebuilt o.requeueUnacked := by
  have queue : o.requeueUnacked.queued = o.backlog.map Message.messageId := rfl
  have messages : o.requeueUnacked.messages = (o.backlog.foldl requeue o).messages := rfl
  refine ⟨queue ▸ o.nodup_backlog, fun id => ?_, ?_⟩
  · rw [queue]
    constructor
    · intro mem
      obtain ⟨m, listed, rfl⟩ := mem_map.mp mem
      obtain ⟨found, pending⟩ := (o.mem_backlog m).mp listed
      have now := status?_foldl_requeue o.nodup_backlog listed found pending
      obtain ⟨m', found', queued⟩ := Option.map_eq_some_iff.mp now
      refine ⟨m', messages ▸ found', ?_⟩
      simp [isPending, queued]
    · rintro ⟨m, found, pending⟩
      by_contra absent
      rw [messages, get?_foldl_requeue_of_notMem absent] at found
      have filed := o.filed id m found
      have mem : m ∈ o.backlog := (o.mem_backlog m).mpr ⟨filed ▸ found, pending⟩
      exact absent (filed ▸ mem_map_of_mem mem)
  · rw [queue, pairwise_map]
    have sorted : o.backlog.Pairwise fun m m' => m.sequence ≤ m'.sequence := by
      have total : Std.Total fun m m' : Message => m.sequence ≤ m'.sequence :=
        ⟨fun m m' => Nat.le_total m.sequence m'.sequence⟩
      have trans : IsTrans Message fun m m' => m.sequence ≤ m'.sequence :=
        ⟨fun _ _ _ => Nat.le_trans⟩
      exact pairwise_insertionSort _ _
    refine sorted.imp_of_mem fun {m n} hm hn le m' n' foundm foundn => ?_
    have kept : ∀ a ∈ o.backlog, ∀ a', o.requeueUnacked.messages.get? a.messageId = some a' →
        a'.sequence = a.sequence := by
      intro a mem a' found'
      have found := ((o.mem_backlog a).mp mem).1
      obtain ⟨a'', found'', becomes⟩ := advances_requeueUnacked o a.messageId a found
      rw [← Option.some.inj (found''.symm.trans found')]
      exact becomes.sequence
    rwa [kept m hm m' foundm, kept n hn n' foundn]

lemma Rebuilt.slotted (h : Rebuilt o) : Slotted o := by
  intro id now
  obtain ⟨m, found, queued⟩ := Option.map_eq_some_iff.mp now
  refine (h.exactly id).mpr ⟨m, found, ?_⟩
  simp [isPending, queued]

end Outbox

inductive OutboxCall
  | enqueue (m : Message)
  | nextQueued
  /-- One of the messages that `next_queued` returned, by its place in that order. -/
  | restore (place : ℕ)
  | toQueued (id : MessageId)
  | requeueUnacked
  | markSent (id : MessageId)
  | markDelivered (id : MessageId)
  | markReadUpTo (sequence : ℕ)
  | markFailed (id : MessageId) (error : String)
  deriving DecidableEq

structure OutboxUse where
  outbox : Outbox
  taken : List Message

namespace OutboxUse

def start : OutboxUse := { outbox := .empty, taken := [] }

def attempt (s : OutboxUse) : Except ValidationError Outbox → OutboxUse
  | .error _ => s
  | .ok o => { s with outbox := o }

def step (s : OutboxUse) : OutboxCall → OutboxUse
  | .enqueue m => s.attempt (s.outbox.enqueue m)
  | .nextQueued => { outbox := s.outbox.nextQueued.2, taken := s.taken ++ s.outbox.nextQueued.1.toList }
  | .restore place =>
    match s.taken[place]? with
    | none => s
    | some m => s.attempt (s.outbox.restore m)
  | .toQueued id => { s with outbox := s.outbox.toQueued id }
  | .requeueUnacked => { s with outbox := s.outbox.requeueUnacked }
  | .markSent id => { s with outbox := s.outbox.markSent id }
  | .markDelivered id => { s with outbox := s.outbox.markDelivered id }
  | .markReadUpTo sequence => { s with outbox := s.outbox.markReadUpTo sequence }
  | .markFailed id error => { s with outbox := s.outbox.markFailed id error }

def run (calls : List OutboxCall) : OutboxUse := calls.foldl step start

structure Coherent (s : OutboxUse) (call : OutboxCall) : Prop where
  slotted : (s.step call).outbox.Slotted
  ended : ∀ id status, status = .read ∨ status = .failed →
    s.outbox.status? id = some status → (s.step call).outbox.status? id = some status
  delivered : ∀ id, s.outbox.status? id = some .delivered →
    (s.step call).outbox.status? id = some .delivered ∨
      (s.step call).outbox.status? id = some .read
  rebuilt : call = .requeueUnacked → (s.step call).outbox.Rebuilt

def Fresh (s : OutboxUse) : OutboxCall → Prop
  | .restore place =>
    ∀ m, s.taken[place]? = some m → s.outbox.status? m.messageId ≠ some .delivered ∧
      s.outbox.status? m.messageId ≠ some .read ∧ s.outbox.status? m.messageId ≠ some .failed
  | _ => True

structure Sound (s : OutboxUse) : Prop where
  slotted : s.outbox.Slotted
  sending : ∀ m ∈ s.taken, m.status = .sending

variable {s : OutboxUse}

lemma slotted_attempt (h : s.outbox.Slotted) {r}
    (ok : ∀ o, r = .ok o → o.Slotted) : (s.attempt r).outbox.Slotted := by
  cases r with
  | error => exact h
  | ok o => exact ok o rfl

lemma slotted_step (h : s.outbox.Slotted) (call) : (s.step call).outbox.Slotted := by
  cases call with
  | enqueue => exact slotted_attempt h fun o => slotted_enqueue h
  | nextQueued => exact slotted_nextFrom s.outbox.queued h
  | restore =>
    unfold step
    dsimp only
    split
    · exact h
    · exact slotted_attempt h fun o => slotted_restore h
  | toQueued id => exact slotted_toQueued h id
  | requeueUnacked => exact (rebuilt_requeueUnacked s.outbox).slotted
  | markSent id => exact (marks_settling.markSent s.outbox id).slotted h
  | markDelivered id => exact (marks_settling.markDelivered s.outbox id).slotted h
  | markReadUpTo sequence => exact (marks_settling.markReadUpTo s.outbox sequence).slotted h
  | markFailed id error => exact (marks_settling.markFailed s.outbox id error).slotted h

lemma taken_attempt (r) : (s.attempt r).taken = s.taken := by
  cases r <;> rfl

lemma sound_step (h : Sound s) (call) : Sound (s.step call) := by
  refine ⟨slotted_step h.slotted call, ?_⟩
  cases call with
  | enqueue =>
    rw [step, taken_attempt]
    exact h.sending
  | nextQueued =>
    intro m mem
    rcases mem_append.mp mem with old | new
    · exact h.sending m old
    · exact status_of_nextFrom (Option.mem_toList.mp new)
  | restore =>
    unfold step
    dsimp only
    split
    · exact h.sending
    · rw [taken_attempt]
      exact h.sending
  | toQueued | requeueUnacked | markSent | markDelivered | markReadUpTo | markFailed =>
    exact h.sending

lemma sound_run (calls) : Sound (run calls) := by
  induction calls using List.reverseRecOn with
  | nil =>
    refine ⟨?_, fun m mem => absurd mem not_mem_nil⟩
    rintro id ⟨⟩
  | append_singleton calls call ih =>
    rw [run, foldl_append]
    exact sound_step ih call

variable {call : OutboxCall}

lemma advances_step (s : OutboxUse) (h : ∀ place, call ≠ .restore place) :
    s.outbox.Advances (s.step call).outbox := by
  cases call with
  | enqueue m =>
    show s.outbox.Advances (s.attempt (s.outbox.enqueue m)).outbox
    cases added : s.outbox.enqueue m with
    | error => exact .refl s.outbox
    | ok => exact advances_enqueue added
  | nextQueued => exact advances_nextFrom s.outbox s.outbox.queued
  | restore place => exact absurd rfl (h place)
  | toQueued id => exact advances_toQueued s.outbox id
  | requeueUnacked => exact advances_requeueUnacked s.outbox
  | markSent id => exact marks_advances.markSent s.outbox id
  | markDelivered id => exact marks_advances.markDelivered s.outbox id
  | markReadUpTo sequence => exact marks_advances.markReadUpTo s.outbox sequence
  | markFailed id error => exact marks_advances.markFailed s.outbox id error

lemma coherent_of_advances (h : Sound s)
    (advances : s.outbox.Advances (s.step call).outbox) : Coherent s call where
  slotted := slotted_step h.slotted call
  ended := by
    intro id status ended now
    obtain ⟨m, found, rfl⟩ := Option.map_eq_some_iff.mp now
    obtain ⟨m', found', becomes⟩ := advances id m found
    rw [status?, found', Option.map_some, becomes.of_ended ended]
  delivered := by
    intro id now
    obtain ⟨m, found, delivered⟩ := Option.map_eq_some_iff.mp now
    obtain ⟨m', found', becomes⟩ := advances id m found
    rw [status?, found', Option.map_some]
    exact (becomes.of_settled (.inl delivered)).imp (congrArg some) (congrArg some)
  rebuilt := by
    rintro rfl
    exact rebuilt_requeueUnacked s.outbox

lemma status?_restore (h : Sound s) {place} {m : Message} (found : s.taken[place]? = some m)
    (id) : (s.step (.restore place)).outbox.status? id =
      if id = m.messageId then some .queued else s.outbox.status? id := by
  have sending := h.sending m (mem_of_getElem? found)
  have pending : isPending m := by rw [isPending, sending]; rfl
  have allowed : MessageStatus.queued ∈ transitionsFor m.direction m.status := by
    rw [outgoing_of_pending pending, sending]
    decide
  have next : (s.step (.restore place)).outbox.messages =
      (s.outbox.put (m.moved .queued)).messages := by
    simp [step, found, restore, sending, attempt]
  rw [status?_of_messages next, status?_put, (m.moved_becomes .queued).messageId,
    Message.moved_status allowed]

lemma coherent_iff_fresh (h : Sound s) (call) : Coherent s call ↔ Fresh s call := by
  by_cases back : ∃ place, call = .restore place
  · obtain ⟨place, rfl⟩ := back
    constructor
    · intro coherent m found
      have now : (s.step (.restore place)).outbox.status? m.messageId = some .queued := by
        rw [status?_restore h found, if_pos rfl]
      refine ⟨fun was => ?_, fun was => ?_, fun was => ?_⟩
      · rcases coherent.delivered _ was with still | still <;>
          exact absurd (now.symm.trans still) (by decide)
      · exact absurd (now.symm.trans (coherent.ended _ .read (.inl rfl) was)) (by decide)
      · exact absurd (now.symm.trans (coherent.ended _ .failed (.inr rfl) was)) (by decide)
    · intro fresh
      cases found : s.taken[place]? with
      | none =>
        apply coherent_of_advances h
        simp only [step, found]
        exact .refl s.outbox
      | some m =>
        obtain ⟨notDelivered, notRead, notFailed⟩ := fresh m found
        refine ⟨slotted_step h.slotted _, fun id status ended was => ?_, fun id was => ?_, ?_⟩
        · rw [status?_restore h found, if_neg]
          · exact was
          · rintro rfl
            rcases ended with rfl | rfl
            · exact notRead was
            · exact notFailed was
        · left
          rw [status?_restore h found, if_neg]
          · exact was
          · rintro rfl
            exact notDelivered was
        · rintro ⟨⟩
  · have other : ∀ place, call ≠ .restore place := fun place same => back ⟨place, same⟩
    refine ⟨fun _ => ?_, fun _ => coherent_of_advances h (advances_step s other)⟩
    cases call with
    | restore place => exact absurd rfl (other place)
    | enqueue | nextQueued | toQueued | requeueUnacked | markSent | markDelivered | markReadUpTo
    | markFailed => trivial

/-- Every call of a sequence keeps the outbox coherent exactly if no message is handed back
after it was settled. -/
theorem outbox_coherent_iff (calls : List OutboxCall) :
    (∀ earlier call, earlier ++ [call] <+: calls → Coherent (run earlier) call) ↔
      Runs.Along step Fresh start calls := by
  rw [Runs.along_iff_forall_step]
  constructor
  · intro coherent earlier call before
    exact (coherent_iff_fresh (sound_run earlier) call).mp (coherent earlier call before)
  · intro fresh earlier call before
    exact (coherent_iff_fresh (sound_run earlier) call).mpr (fresh earlier call before)

lemma pingId_wellFormed : Text.fullmatch messageIdPattern "msg_00000000000000aa".toList := by
  decide

def pingId : MessageId := ⟨"msg_00000000000000aa", pingId_wellFormed⟩

lemma ping_text_valid : validateMessageText "ping" = .ok "ping" := by
  decide +kernel

lemma ping_settled : MessageDirection.outgoing = .incoming →
    MessageStatus.queued = .delivered ∨ MessageStatus.queued = .read := by
  rintro ⟨⟩

def ping : Message :=
  { messageId := pingId, direction := .outgoing, text := "ping", sequence := 1, status := .queued,
    error := none, text_valid := ping_text_valid, sequence_pos := first_sequence_pos,
    incoming_settled := ping_settled }

/-- The acknowledgement comes before the caller hands its copy back: the delivered message is
queued once more. -/
theorem restored_after_delivery :
    (run [.enqueue ping, .nextQueued, .markSent pingId, .markDelivered pingId]).outbox.status?
        pingId = some .delivered ∧
      (run [.enqueue ping, .nextQueued, .markSent pingId, .markDelivered pingId,
        .restore 0]).outbox.status? pingId = some .queued := by
  decide +kernel

end OutboxUse

end Ghostlink.Messaging
