import Ghostlink.Base.Runs
import Ghostlink.Messaging.Message

/-! The queue of outgoing chat messages. Futures are objects that the queue shares with the send
pump: they live on a heap, and a waiter is a reference to one. -/

namespace Ghostlink.Messaging
open Collections List Dict Message

inductive Future
  | pending
  | result (m : Message)
  | cancelled
  deriving DecidableEq

def Future.done (f : Future) : Bool := f ≠ .pending

structure Outbox where
  queued : List MessageId
  messages : Dict MessageId Message
  ackWaiters : Dict MessageId ℕ
  deliveredSequences : List ℕ
  futures : Dict ℕ Future
  nextFuture : ℕ
  filed : ∀ id m, messages.get? id = some m → m.messageId = id

namespace Outbox
variable (o : Outbox)

def empty : Outbox :=
  { queued := [], messages := Dict.empty, ackWaiters := Dict.empty, deliveredSequences := [],
    futures := Dict.empty, nextFuture := 0, filed := nofun }

def status? (id : MessageId) : Option MessageStatus :=
  (o.messages.get? id).map status

def put (m : Message) : Outbox :=
  { o with
    messages := o.messages.set m.messageId m
    filed := fun id m' found => by
      rw [get?_set] at found
      split_ifs at found with same
      · cases found
        exact same.symm
      · exact o.filed id m' found }

def settle (ref : ℕ) (f : Future) : Outbox :=
  if o.futures.get? ref = some .pending then { o with futures := o.futures.set ref f } else o

def release (id : MessageId) (f : Future) : Outbox :=
  match o.ackWaiters.get? id with
  | none => o
  | some ref => { o with ackWaiters := o.ackWaiters.erase id }.settle ref f

def isPending (m : Message) : Bool :=
  m.status = .queued || m.status = .sending || m.status = .sent

def enqueue (m : Message) : Except ValidationError Outbox :=
  if o.messages.contains m.messageId then
    let id := m.messageId.val
    .error { message := s!"Duplicate outgoing message id {id}."
             hint := "Message identifiers are generated uniquely per message." }
  else if m.status ≠ .queued then
    .error { message := "Only queued messages can enter the outbox."
             hint := "Create outgoing messages with status QUEUED." }
  else .ok { o.put m with queued := o.queued ++ [m.messageId] }

/-- The loop of `next_queued` over the slots. Stale slots are skipped; a slot without a message
would raise and end the pump, as an empty queue does. -/
def nextFrom (o : Outbox) : List MessageId → Option Message × Outbox
  | [] => (none, { o with queued := [] })
  | id :: rest =>
    match o.messages.get? id with
    | none => (none, { o with queued := rest })
    | some m =>
      if m.status = .queued then
        let m := m.moved .sending
        (some m, { o.put m with queued := rest })
      else o.nextFrom rest

def nextQueued : Option Message × Outbox := o.nextFrom o.queued

def restore (m : Message) : Except ValidationError Outbox :=
  if m.status ≠ .sending then
    .error { message := "Only sending messages can be restored to the outbox."
             hint := "Lifecycle states advance through next_queued()." }
  else .ok { o.put (m.moved .queued) with queued := m.messageId :: o.queued }

def toQueued (id : MessageId) : Outbox :=
  match o.messages.get? id with
  | none => o
  | some m =>
    if m.status = .sending ∨ m.status = .sent then
      { o.put (m.moved .queued) with queued := id :: o.queued }
    else o

def requeue (m : Message) : Outbox :=
  if m.status ≠ .queued then o.put (m.moved .queued) else o

def requeueUnacked : Outbox :=
  let pending := (o.messages.values.filter isPending).insertionSort fun m m' =>
    m.sequence ≤ m'.sequence
  { pending.foldl requeue o with queued := pending.map messageId }

/-- `_transition`: nothing happens to a terminal message or on a status that may not follow. -/
def transition (id : MessageId) (status : MessageStatus) (error : Option String) :
    Option Message × Outbox :=
  match o.messages.get? id with
  | none => (none, o)
  | some m =>
    if m.isTerminal then (none, o)
    else
      match m.withStatus status error with
      | .error _ => (none, o)
      | .ok m => (some m, o.put m)

def markSent (id : MessageId) : Outbox :=
  match o.messages.get? id with
  | none => o
  | some m => if m.status ≠ .sending then o else (o.transition id .sent none).2

def announce (id : MessageId) : Option Message × Outbox → Outbox
  | (none, o) => o
  | (some m, o) => o.release id (.result m)

def markDelivered (id : MessageId) : Outbox :=
  match o.messages.get? id with
  | none => o
  | some m =>
    if m.status = .read ∨ m.status = .delivered then o
    else if m.isTerminal then o
    else
      -- a message that is still being sent passes through sent
      let o := if m.status = .sending then o.put (m.moved .sent) else o
      match o.transition id .delivered none with
      | (none, o) => o
      | (some m, o) =>
        announce id (some m, { o with deliveredSequences := o.deliveredSequences ++ [m.sequence] })

def markRead (sequence : ℕ) (o : Outbox) (m : Message) : Outbox :=
  if m.sequence ≤ sequence ∧ m.status = .delivered then (o.transition m.messageId .read none).2
  else o

def markReadUpTo (sequence : ℕ) : Outbox :=
  o.messages.values.foldl (markRead sequence) o

def markFailed (id : MessageId) (error : String) : Outbox :=
  announce id (o.transition id .failed (some error))

def registerAckWaiter (id : MessageId) : ℕ × Outbox :=
  (o.nextFuture, { o with
    ackWaiters := o.ackWaiters.set id o.nextFuture
    futures := o.futures.set o.nextFuture .pending
    nextFuture := o.nextFuture + 1 })

def dropAckWaiter (id : MessageId) : Outbox := o.release id .cancelled

def resolveAckWaitersOnDisconnect : Outbox :=
  o.ackWaiters.keys.foldl dropAckWaiter o

def clear : Outbox :=
  let o := o.resolveAckWaitersOnDisconnect
  { empty with futures := o.futures, nextFuture := o.nextFuture }

def Advances (o o' : Outbox) : Prop :=
  ∀ id m, o.messages.get? id = some m → ∃ m', o'.messages.get? id = some m' ∧ m.Becomes m'

variable {o : Outbox} {id : MessageId} {m : Message}

variable {o' : Outbox} {f : Future}

lemma Advances.of_eq (h : o'.messages = o.messages) : Advances o o' := by
  intro id m found
  rw [h]
  exact ⟨m, found, .refl m⟩

lemma Advances.refl (o) : Advances o o := .of_eq rfl

lemma Advances.trans {o''} (h : Advances o o') (h' : Advances o' o'') : Advances o o'' := by
  intro id m found
  obtain ⟨m', found', becomes⟩ := h id m found
  obtain ⟨m'', found'', becomes'⟩ := h' id m' found'
  exact ⟨m'', found'', becomes.trans becomes'⟩

lemma Advances.put {m'}
    (found : o.messages.get? id = some m) (becomes : m.Becomes m') : Advances o (o.put m') := by
  intro id' n hn
  have filed : m'.messageId = id := becomes.messageId.trans (o.filed id m found)
  show ∃ n', (o.messages.set m'.messageId m').get? id' = some n' ∧ n.Becomes n'
  rw [filed, get?_set]
  split_ifs with same
  · subst same
    cases found.symm.trans hn
    exact ⟨m', rfl, becomes⟩
  · exact ⟨n, hn, .refl n⟩

section
variable (o)

lemma messages_settle (ref f) : (o.settle ref f).messages = o.messages := by
  unfold settle
  split_ifs <;> rfl

lemma messages_release (id f) : (o.release id f).messages = o.messages := by
  unfold release
  split
  · rfl
  · exact messages_settle ..

lemma advances_dropAckWaiter (id) : Advances o (o.dropAckWaiter id) :=
  .of_eq (messages_release o id .cancelled)

lemma advances_resolveAckWaitersOnDisconnect :
    Advances o o.resolveAckWaitersOnDisconnect :=
  Runs.foldl_keeps (fun o id before => before.trans (advances_dropAckWaiter o id)) _ (.refl o)

end

lemma advances_enqueue (h : o.enqueue m = .ok o') : Advances o o' := by
  unfold enqueue at h
  split_ifs at h with fresh
  cases h
  intro id n found
  -- the new message has an id of its own
  have other : id ≠ m.messageId := by
    rintro rfl
    exact fresh (Option.isSome_iff_exists.mpr ⟨n, found⟩)
  exact ⟨n, (get?_set_ne _ _ other).trans found, .refl n⟩

lemma advances_nextFrom (o : Outbox) (slots) : Advances o (o.nextFrom slots).2 := by
  induction slots with
  | nil => exact .of_eq rfl
  | cons id rest ih =>
    unfold nextFrom
    cases found : o.messages.get? id with
    | none => exact .of_eq rfl
    | some m =>
      dsimp only
      split_ifs
      · exact (Advances.put found (m.moved_becomes .sending)).trans (.of_eq rfl)
      · exact ih

lemma advances_toQueued (o : Outbox) (id) : Advances o (o.toQueued id) := by
  unfold toQueued
  cases found : o.messages.get? id with
  | none => exact .refl o
  | some m =>
    dsimp only
    split_ifs
    · exact (Advances.put found (m.moved_becomes .queued)).trans (.of_eq rfl)
    · exact .refl o

lemma advances_transition (o : Outbox) (id status error) :
    Advances o (o.transition id status error).2 := by
  unfold transition
  cases found : o.messages.get? id with
  | none => exact .refl o
  | some m =>
    dsimp only
    split_ifs
    · exact .refl o
    · cases next : m.withStatus status error with
      | error => exact .refl o
      | ok => exact .put found (withStatus_ok next).1

lemma advances_announce (id) (r : Option Message × Outbox) : Advances r.2 (announce id r) := by
  obtain ⟨m | m, o⟩ := r
  · exact .refl o
  · exact .of_eq (messages_release ..)

/-- A relation that holds along the parts the marking operations are made of. -/
structure Marks (R : Outbox → Outbox → Prop) : Prop where
  refl : ∀ o, R o o
  trans : ∀ {o o' o''}, R o o' → R o' o'' → R o o''
  transition : ∀ o id status error, status ≠ .queued → R o (o.transition id status error).2
  announce : ∀ id (r : Option Message × Outbox), R r.2 (announce id r)
  sent : ∀ {o : Outbox} {id m}, o.messages.get? id = some m → m.status = .sending →
    R o (o.put (m.moved .sent))
  log : ∀ o sequences, R o { o with deliveredSequences := sequences }

namespace Marks
variable {R : Outbox → Outbox → Prop} (h : Marks R)
include h

lemma markSent (o id) : R o (o.markSent id) := by
  unfold Outbox.markSent
  split
  · exact h.refl o
  · split_ifs
    · exact h.refl o
    · exact h.transition o id .sent none (by decide)

lemma markFailed (o : Outbox) (id error) : R o (o.markFailed id error) :=
  h.trans (h.transition o id .failed (some error) (by decide)) (h.announce id _)

lemma markDelivered (o : Outbox) (id) : R o (o.markDelivered id) := by
  unfold Outbox.markDelivered
  cases found : o.messages.get? id with
  | none => exact h.refl o
  | some m =>
    dsimp only
    split
    · exact h.refl o
    · split
      · exact h.refl o
      · set o' := if m.status = .sending then o.put (m.moved .sent) else o with ho'
        have before : R o o' := by
          rw [ho']
          split_ifs with sending
          · exact h.sent found sending
          · exact h.refl o
        have moved := h.trans before (h.transition o' id .delivered none (by decide))
        rcases step : o'.transition id .delivered none with ⟨_ | m', after⟩
        all_goals rw [step] at moved
        · exact moved
        · exact h.trans (h.trans moved (h.log after _)) (h.announce id (some m', _))

lemma markReadUpTo (o : Outbox) (sequence) : R o (o.markReadUpTo sequence) := by
  refine Runs.foldl_keeps (fun o m before => h.trans before ?_) _ (h.refl o)
  unfold markRead
  split_ifs
  · exact h.transition o m.messageId .read none (by decide)
  · exact h.refl o

end Marks

lemma marks_advances : Marks Advances where
  refl := .refl
  trans := .trans
  transition o id status error _ := advances_transition o id status error
  announce := advances_announce
  sent found _ := .put found (moved_becomes _ .sent)
  log _ _ := .of_eq rfl

lemma advances_foldl_requeue {ms : List Message}
    (current : ∀ m ∈ ms, o.messages.get? m.messageId = some m)
    (distinct : (ms.map messageId).Nodup) : Advances o (ms.foldl requeue o) := by
  induction ms generalizing o with
  | nil => exact .refl o
  | cons m ms ih =>
    rw [map_cons, nodup_cons] at distinct
    have found := current m mem_cons_self
    have first : Advances o (requeue o m) := by
      unfold requeue
      split_ifs
      · exact .put found (m.moved_becomes .queued)
      · exact .refl o
    refine first.trans (ih (fun n mem => ?_) distinct.2)
    have other : n.messageId ≠ m.messageId := fun same =>
      distinct.1 (same ▸ mem_map_of_mem mem)
    have kept := current n (mem_cons_of_mem m mem)
    unfold requeue
    split_ifs
    · rw [← (m.moved_becomes .queued).messageId] at other
      exact (get?_set_ne _ _ other).trans kept
    · exact kept

def backlog (o : Outbox) : List Message :=
  (o.messages.values.filter isPending).insertionSort fun m m' => m.sequence ≤ m'.sequence

lemma mem_backlog (o : Outbox) (m : Message) :
    m ∈ o.backlog ↔ o.messages.get? m.messageId = some m ∧ isPending m := by
  rw [backlog, List.mem_insertionSort, List.mem_filter, o.messages.mem_values]
  constructor
  · rintro ⟨⟨id, found⟩, pending⟩
    rw [o.filed id m found]
    exact ⟨found, pending⟩
  · rintro ⟨found, pending⟩
    exact ⟨⟨_, found⟩, pending⟩

lemma nodup_backlog (o : Outbox) : (o.backlog.map messageId).Nodup := by
  have perm : o.backlog.Perm (o.messages.values.filter isPending) := perm_insertionSort _ _
  have keys : o.messages.values.map messageId = o.messages.keys := by
    rw [Dict.values, Dict.keys, map_map]
    refine map_congr_left fun e mem => ?_
    exact o.filed e.1 e.2 ((o.messages.get?_eq_some_iff e.1 e.2).mpr mem)
  refine (perm.map messageId).nodup_iff.mpr ?_
  refine List.Nodup.sublist (filter_sublist.map messageId) ?_
  rw [keys]
  exact o.messages.nodup

lemma advances_requeueUnacked (o : Outbox) : Advances o o.requeueUnacked := by
  have current : ∀ m ∈ o.backlog, o.messages.get? m.messageId = some m := by
    intro m mem
    exact ((o.mem_backlog m).mp mem).1
  exact (advances_foldl_requeue current o.nodup_backlog).trans (.of_eq rfl)

def Released (o : Outbox) (id : MessageId) (o' : Outbox) : Prop :=
  ∀ ref, o.ackWaiters.get? id = some ref → o'.futures.get? ref ≠ some .pending

lemma settle_done (o : Outbox) (ref) (done : f ≠ .pending) :
    (o.settle ref f).futures.get? ref ≠ some .pending := by
  unfold settle
  split_ifs with pending
  · rw [get?_set_self]
    exact fun h => done (Option.some.inj h)
  · exact pending

lemma released_release (o : Outbox) (id) (done : f ≠ .pending) :
    o.Released id (o.release id f) := by
  intro ref waiting
  simp only [release, waiting]
  exact settle_done _ ref done

lemma outgoing_of_unsettled (h : m.status ≠ .delivered) (h' : m.status ≠ .read) :
    m.direction = .outgoing := by
  cases hd : m.direction with
  | outgoing => rfl
  | incoming =>
    rcases m.incoming_settled hd with now | now
    · exact absurd now h
    · exact absurd now h'

section
variable (found : o.messages.get? id = some m)
include found

lemma markDelivered_queued (queued : m.status = .queued) :
    o.markDelivered id = o := by
  have out : m.direction = .outgoing := by
    apply outgoing_of_unsettled <;> rw [queued] <;> exact nofun
  have open' : m.isTerminal = false := by
    rw [isTerminal, out, queued]
    rfl
  have refused : ∃ e, m.withStatus .delivered none = .error e := by
    refine ⟨_, dif_neg ?_⟩
    rw [out, queued]
    decide
  obtain ⟨e, refused⟩ := refused
  simp [markDelivered, found, queued, transition, open', refused, reduceCtorEq]

lemma markDelivered_settled (settled : m.status = .delivered ∨ m.status = .read) :
    o.markDelivered id = o := by
  simp only [markDelivered, found]
  exact if_pos settled.symm

lemma markDelivered_inflight (inflight : m.status = .sending ∨ m.status = .sent) :
    (o.markDelivered id).status? id = some .delivered ∧ o.Released id (o.markDelivered id) := by
  have unsettled : m.status ≠ .delivered ∧ m.status ≠ .read := by
    rcases inflight with now | now <;> rw [now] <;> exact ⟨nofun, nofun⟩
  have out := outgoing_of_unsettled unsettled.1 unsettled.2
  have open' : m.isTerminal = false := by
    rcases inflight with now | now <;> rw [isTerminal, out, now] <;> rfl
  -- whichever of the two it was, it now is sent
  obtain ⟨o', n, ho', hn, sent, nout, waiters⟩ : ∃ (o' : Outbox) (n : Message),
      (if m.status = .sending then o.put (m.moved .sent) else o) = o' ∧
        o'.messages.get? id = some n ∧ n.status = .sent ∧ n.direction = .outgoing ∧
        o'.ackWaiters = o.ackWaiters := by
    rcases inflight with now | now
    · have allowed : MessageStatus.sent ∈ transitionsFor m.direction m.status := by
        rw [out, now]
        decide
      obtain ⟨n, step, status⟩ := m.withStatus_of_mem none allowed
      have moved : m.moved .sent = n := by
        rw [moved, step]
        rfl
      have becomes := (withStatus_ok step).1
      refine ⟨_, n, if_pos now, ?_, status, becomes.direction.trans out, rfl⟩
      show (o.messages.set (m.moved .sent).messageId (m.moved .sent)).get? id = some n
      rw [moved, becomes.messageId, o.filed id m found, get?_set_self]
    · refine ⟨o, m, if_neg ?_, found, now, out, rfl⟩
      rw [now]
      exact nofun
  have nopen : n.isTerminal = false := by
    rw [isTerminal, nout, sent]
    rfl
  have allowed : MessageStatus.delivered ∈ transitionsFor n.direction n.status := by
    rw [nout, sent]
    decide
  obtain ⟨d, step, status⟩ := n.withStatus_of_mem none allowed
  have becomes := (withStatus_ok step).1
  set last : Outbox :=
    { o'.put d with deliveredSequences := o'.deliveredSequences ++ [d.sequence] } with hlast
  have marked : o.markDelivered id = last.release id (.result d) := by
    simp only [markDelivered, found, unsettled, or_self, if_false, open', Bool.false_eq_true, ho',
      transition, hn, nopen, step, announce]
    rfl
  rw [marked]
  constructor
  · rw [status?, messages_release]
    show ((o'.messages.set d.messageId d).get? id).map Message.status = _
    rw [becomes.messageId, o'.filed id n hn, get?_set_self, Option.map_some, status]
  · have released := last.released_release id (f := .result d) nofun
    intro ref waiting
    refine released ref ?_
    show o'.ackWaiters.get? id = some ref
    rw [waiters, waiting]

end

end Outbox

end Ghostlink.Messaging
