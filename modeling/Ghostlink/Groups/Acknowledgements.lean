import Ghostlink.Groups.AcknowledgedEntries

/-! What a group acknowledgement does to the sender's ledger, in any interleaving with pumps,
fan-outs, resends and relay errors. The handler moves an entry from sent to delivered and does
nothing in any other state, so an acknowledgement counts only if it finds the entry sent; and it
lasts only if no other copy of the message is still on its way to the member. -/

namespace Ghostlink.Groups
open Collections Text List Option DeliveryState
open OutboxService (kept runtime applyGack)

namespace MessagingService
variable {P : Primitives} {X : ServicePrimitives} {s : MessagingService}
  {A : ℕ → Fingerprint → Prop}

def entry (s : MessagingService) (ref : ℕ) (f : Fingerprint) : Option DeliveryState :=
  (s.ledgers.get? ref).bind fun l => l.recipients.get? f

def skDeque (s : MessagingService) (q : QueueRef) : List SealedMessage :=
  (s.skDeques.get? q).getD []

inductive Pending (s : MessagingService) (ref : ℕ) (f : Fingerprint) : Prop
  | queued {gid : GroupId} {job : QueuedMessage} (waits : job ∈ s.queue gid f)
      (kept : s.kept gid job.messageId = some ref)
  | pumped {id : ℕ} {task : PumpTask} (held : s.tasks.get? id = some task)
      (member : task.member = f) (ledger : task.point.ledger? = some ref)
  | fannedOut {id : ℕ} {t : SendTask} {point : SendPoint}
      (held : s.skTasks.get? id = some (.send t point)) (leg : f = t.member ∨ f ∈ t.remaining)
      (ledger : ref = t.ledger ∨ s.kept t.groupId t.message.messageId = some ref)
  | retried {q : QueueRef} {m : SealedMessage} (member : q.member = f) (waits : m ∈ s.skDeque q)
      (kept : s.kept q.groupId m.messageId = some ref)
  | drained {id : ℕ} {q : QueueRef} {epoch : ℕ} {m : SealedMessage} {stage : Stage}
      (held : s.skTasks.get? id = some (.drain q (.messaging epoch m stage)))
      (member : q.member = f) (kept : s.kept q.groupId m.messageId = some ref)

section
variable (s)

lemma senderKeys_kept : s.senderKeys.kept = s.kept := by
  funext gid id
  simp only [SenderKeyService.kept, SenderKeyService.runtime, senderKeys, Dict.get?_mapVals,
    kept, runtime]
  cases s.runtimes.get? gid <;> rfl

lemma senderKeys_books : s.senderKeys.books = s.books := by
  simp only [SenderKeyService.books, senderKeys_kept]
  rfl

lemma withSenderKeys_kept (k : SenderKeyService) :
    (s.withSenderKeys k).kept = k.kept := by
  funext gid id
  simp only [SenderKeyService.kept, SenderKeyService.runtime, withSenderKeys, Dict.get?_mapVals,
    kept, runtime]
  cases k.runtimes.get? gid <;> rfl

lemma withSenderKeys_books (k : SenderKeyService) :
    (s.withSenderKeys k).books = k.books := by
  simp only [OutboxService.books, withSenderKeys_kept]
  rfl

end

variable {f : Fingerprint}

variable {gid : GroupId} {k : SenderKeyService} {id : MessageId} {ref : ℕ}

lemma mem_queue_withSenderKeys {job} (mem : job ∈ (s.withSenderKeys k).queue gid f) :
    job ∈ s.queue gid f := by
  simp only [OutboxService.queue, OutboxService.outbox, runtime, withSenderKeys,
    Dict.get?_mapVals] at mem ⊢
  cases found : k.runtimes.get? gid with
  | none =>
    rw [found] at mem
    cases mem
  | some =>
    rw [found] at mem
    exact mem

structure Spared (A : ℕ → Fingerprint → Prop) (s : MessagingService) : Prop where
  outboxes : OutboxService.Spared A s.toOutboxService s.toOutboxService
  senderKeys : SenderKeyService.Spared A s.senderKeys s.senderKeys

section
variable (h : Spared A s)
include h

lemma Spared.withOutboxes {o}
    (moved : OutboxService.Spared A s.toOutboxService o) : Spared A (s.withOutboxes o) := by
  have older {ref : ℕ} {f : Fingerprint} (hit : A ref f) {gid : GroupId} {id : MessageId}
      (found : (s.withOutboxes o).senderKeys.kept gid id = some ref) :
      s.senderKeys.kept gid id = some ref := by
    rw [senderKeys_kept] at found ⊢
    exact moved.books.kept ref f hit gid id found
  refine ⟨⟨⟨moved.books.filed, moved.books.settled, fun _ _ _ _ _ found => found⟩, moved.queues,
    moved.pumps⟩, ?_, ?_, ?_⟩
  · rw [senderKeys_books]
    exact ⟨moved.books.filed, moved.books.settled, fun _ _ _ _ _ found => found⟩
  · intro q m mem ref found hit
    exact h.senderKeys.deques q m mem ref (older hit found) hit
  · intro id task held
    have spares := h.senderKeys.tasks id task held
    cases task with
    | send =>
      intro f leg ref found hit
      exact spares f leg ref (found.imp_right (older hit)) hit
    | drain q point =>
      cases point with
      | messaging =>
        intro ref found hit
        exact spares ref (older hit found) hit
      | linking | distributing => trivial
    | respond => trivial

lemma Spared.withSenderKeys
    (moved : SenderKeyService.Spared A s.senderKeys k) : Spared A (s.withSenderKeys k) := by
  have later := moved.books
  rw [senderKeys_books] at later
  have view : (s.withSenderKeys k).senderKeys.kept = k.kept := by
    rw [senderKeys_kept, withSenderKeys_kept]
  refine ⟨⟨?_, ?_, h.outboxes.pumps⟩, ?_, ?_, ?_⟩
  · rw [withSenderKeys_books]
    exact ⟨later.filed, later.settled, fun _ _ _ _ _ found => found⟩
  · intro gid f job mem ref found hit
    rw [withSenderKeys_kept] at found
    exact h.outboxes.queues gid f job (mem_queue_withSenderKeys mem) ref
      (later.kept ref f hit gid _ found) hit
  · rw [senderKeys_books, withSenderKeys_books]
    exact ⟨later.filed, later.settled, fun _ _ _ _ _ found => found⟩
  · rw [view]
    exact moved.deques
  · rw [view]
    exact moved.tasks

lemma Spared.attach : Spared A s.attach :=
  ⟨⟨h.outboxes.books, h.outboxes.queues, h.outboxes.pumps⟩,
    ⟨h.senderKeys.books, h.senderKeys.deques, h.senderKeys.tasks⟩⟩

lemma Spared.close : Spared A s.close := by
  refine ⟨⟨h.outboxes.books, h.outboxes.queues, ?_⟩,
    ⟨h.senderKeys.books, h.senderKeys.deques, h.senderKeys.tasks⟩⟩
  intro id task held
  cases held

lemma Spared.send (gid text d) : Spared A (s.send X gid text d) := by
  unfold MessagingService.send
  split
  · exact h
  · rename_i record _
    split_ifs
    · exact h.withSenderKeys (h.senderKeys.sendSenderKey record text d)
    · exact h.withOutboxes (h.outboxes.send gid text d.messageId d.ts)

lemma Spared.onForwardError (gid f code now) :
    Spared A (s.onForwardError gid f code now) := by
  unfold MessagingService.onForwardError
  split_ifs
  · exact h.withSenderKeys (h.senderKeys.skOfflineRequeue gid f)
  · exact h.withOutboxes (h.outboxes.onForwardError gid f code now)

lemma Spared.onRecordState (record event) :
    Spared A (s.onRecordState record event) := by
  have reacted := h.withSenderKeys (h.senderKeys.onRecordState record event)
  unfold MessagingService.onRecordState
  split_ifs
  · exact reacted.withOutboxes (reacted.outboxes.failQueue record.groupId _)
  · exact reacted

lemma Spared.onGroupEvent (packet now) :
    Spared A (s.onGroupEvent P packet now) := by
  have taken : Spared A (s.withOutboxes
      { s.toOutboxService with groups := (s.groups.onGroupEvent P packet now).1 }) :=
    h.withOutboxes (h.outboxes.still h.outboxes.books rfl rfl rfl)
  unfold MessagingService.onGroupEvent
  dsimp only
  split
  · exact taken.onRecordState _ _
  · exact taken

end

def Action.isGack : Action → Bool
  | .gack _ _ _ => true
  | _ => false

lemma Spared.step (h : Spared A s) {action : Action} (other : action.isGack = false) :
    Spared A (s.step P X action) := by
  cases action with
  | attach => exact h.attach
  | close => exact h.close
  | send gid text d => exact h.send gid text d
  | flush gid f => exact h.withOutboxes (h.outboxes.flushMember gid f)
  | drain gid f => exact h.withSenderKeys (h.senderKeys.drainSkRetry gid f)
  | respond gid f root => exact h.withSenderKeys (h.senderKeys.respondSkDistribution gid f root)
  | pump id outcome =>
    refine h.withOutboxes ?_
    simp only [OutboxService.step]
    split
    · exact h.outboxes
    · rename_i task held
      exact h.outboxes.resumePump X.dumps held outcome
  | resume id outcome => exact h.withSenderKeys (h.senderKeys.resume P id outcome)
  | groupEvent packet now => exact h.onGroupEvent packet now
  | forwardError gid f code now => exact h.onForwardError gid f code now
  | gack => cases other
  | gread gid f cursor => exact h.withOutboxes (h.outboxes.applyGread gid f cursor)

lemma spared_iff : Spared A s ↔ s.books.Filed ∧ ∀ ref f, A ref f →
    (s.entry ref f).any acknowledged ∧ ¬ s.Pending ref f := by
  constructor
  · rintro ⟨outboxes, senderKeys⟩
    refine ⟨outboxes.books.filed, fun ref f hit => ⟨outboxes.books.settled ref f hit, ?_⟩⟩
    rintro (⟨waits, kept⟩ | ⟨held, rfl, ledger⟩ | ⟨held, leg, ledger⟩ | ⟨rfl, waits, kept⟩ |
      ⟨held, rfl, kept⟩)
    · exact outboxes.queues _ f _ waits ref kept hit
    · exact outboxes.pumps _ _ held ref ledger hit
    · refine senderKeys.tasks _ _ held f leg ref (ledger.imp_right fun kept => ?_) hit
      rwa [senderKeys_kept]
    · refine senderKeys.deques _ _ waits ref ?_ hit
      rwa [senderKeys_kept]
    · refine senderKeys.tasks _ _ held ref ?_ hit
      rwa [senderKeys_kept]
  · rintro ⟨filed, clear⟩
    have later : Books.Later A s.books s.books :=
      ⟨filed, fun ref f hit => (clear ref f hit).1, fun _ _ _ _ _ found => found⟩
    refine ⟨⟨later, ?_, ?_⟩, ?_, ?_, ?_⟩
    · exact fun gid f job waits ref kept hit => (clear ref f hit).2 (.queued waits kept)
    · exact fun id task held ref ledger hit => (clear ref _ hit).2 (.pumped held rfl ledger)
    · rwa [senderKeys_books]
    · rw [senderKeys_kept]
      exact fun q m waits ref kept hit => (clear ref _ hit).2 (.retried rfl waits kept)
    · rw [senderKeys_kept]
      intro id task held
      cases task with
      | send =>
        exact fun f leg ref ledger hit => (clear ref f hit).2 (.fannedOut held leg ledger)
      | drain q point =>
        cases point with
        | messaging =>
          exact fun ref kept hit => (clear ref _ hit).2 (.drained held rfl kept)
        | linking | distributing => trivial
      | respond => trivial

def acknowledges (s : MessagingService) : Action → Option (ℕ × Fingerprint)
  | .gack gid f id =>
    ((s.kept gid id).filter fun ref => (s.entry ref f).isSome).map fun ref => (ref, f)
  | _ => none

def Timely (s : MessagingService) (action : Action) : Prop :=
  ∀ ref f, s.acknowledges action = some (ref, f) →
    (s.entry ref f = some .sent ∨ (s.entry ref f).any acknowledged) ∧
      ¬ s.Pending ref f

def delivered (s : MessagingService) (ref : ℕ) (f : Fingerprint) : MessagingService :=
  s.withOutboxes (s.toOutboxService.mark ref f .delivered)

lemma gack_idle (h : s.acknowledges (.gack gid f id) = none) : s.step P X (.gack gid f id) = s := by
  have unlisted : ∀ ref, s.kept gid id = some ref → s.entry ref f = none := by
    intro ref kept
    simp only [acknowledges, kept, map_eq_none_iff, filter_some] at h
    split_ifs at h with listed
    exact not_isSome_iff_eq_none.mp listed
  change s.withOutboxes (s.toOutboxService.applyGack gid f id) = s
  unfold applyGack
  split
  · rfl
  · rename_i ref kept
    split
    · rfl
    · rename_i l found
      have absent := unlisted ref kept
      rw [entry, found, bind_some] at absent
      rw [if_neg (by rw [absent]; exact fun same => by cases same)]
      rfl

lemma gack_found {g} (h : s.acknowledges (.gack gid f id) = some (ref, g)) :
    g = f ∧ s.step P X (.gack gid f id) =
      if s.entry ref f = some .sent then s.delivered ref f else s := by
  obtain ⟨ref', kept, same⟩ := map_eq_some_iff.mp h
  obtain ⟨rfl, rfl⟩ := Prod.mk.inj same
  obtain ⟨kept, listed⟩ := filter_eq_some_iff.mp kept
  refine ⟨rfl, ?_⟩
  obtain ⟨l, found⟩ : ∃ l, s.ledgers.get? ref' = some l := by
    cases found : s.ledgers.get? ref' with
    | none => simp [entry, found] at listed
    | some l => exact ⟨l, rfl⟩
  have shown : s.entry ref' f = l.recipients.get? f := by
    rw [entry, found, bind_some]
  change s.withOutboxes (s.toOutboxService.applyGack gid f id) = _
  change (s.runtime gid).ledgers.get? id = some ref' at kept
  simp only [applyGack, kept, found, shown]
  split_ifs <;> rfl

lemma entry_delivered (sent : s.entry ref f = some .sent) (r g) : (s.delivered ref f).entry r g =
      if r = ref ∧ g = f then some .delivered else s.entry r g := by
  simp only [entry, delivered, withOutboxes, OutboxService.mark_get?]
  by_cases own : r = ref
  · subst own
    obtain ⟨l, found, -⟩ := bind_eq_some_iff.mp sent
    simp [found, GroupMessageLedger.mark, Dict.get?_set]
  · simp [own, Option.map_id']

lemma pending_delivered (r g) : (s.delivered ref f).Pending r g ↔ s.Pending r g := by
  obtain ⟨ledgers, eq⟩ := OutboxService.mark_frame s.toOutboxService ref f .delivered
  have frame : s.delivered ref f = s.withOutboxes { s.toOutboxService with ledgers } := by
    rw [delivered, eq]
  rw [frame]
  -- neither direction looks at a ledger
  constructor
  all_goals
    rintro (⟨waits, kept⟩ | ⟨held, member, ledger⟩ | ⟨held, leg, ledger⟩ | ⟨member, waits, kept⟩ |
      ⟨held, member, kept⟩)
    · exact .queued waits kept
    · exact .pumped held member ledger
    · exact .fannedOut held leg ledger
    · exact .retried member waits kept
    · exact .drained held member kept

lemma filed_start (me groups) : (start me groups).books.Filed := by
  constructor
  · rintro ref l ⟨⟩
  · rintro gid id ref ⟨⟩

lemma filed_delivered (filed : s.books.Filed) (ref f) : (s.delivered ref f).books.Filed := by
  have later : Books.Later (fun _ _ => False) s.books s.books :=
    ⟨filed, fun _ _ hit => hit.elim, fun _ _ hit => hit.elim⟩
  have marked : Books.Later (fun _ _ => False) s.books (s.books.mark ref f .delivered) :=
    later.mark .delivered id
  rw [← OutboxService.books_mark] at marked
  exact marked.filed

lemma filed_step (filed : s.books.Filed) (action) : (s.step P X action).books.Filed := by
  by_cases gack : action.isGack
  · cases action with
    | gack gid f id =>
      cases found : s.acknowledges (.gack gid f id) with
      | none =>
        rwa [gack_idle found]
      | some entry =>
        obtain ⟨ref, g⟩ := entry
        rw [(gack_found found).2]
        split_ifs
        · exact filed_delivered filed _ f
        · exact filed
    | _ => cases gack
  · have spared : Spared (fun _ _ => False) s :=
      spared_iff.mpr ⟨filed, fun _ _ hit => hit.elim⟩
    exact (spared_iff.mp (spared.step (Bool.eq_false_iff.mpr gack))).1

end MessagingService

structure AckLog where
  service : MessagingService
  acked : List (ℕ × Fingerprint)

namespace AckLog
open MessagingService
variable {P : Primitives} {X : ServicePrimitives} {l : AckLog}

def start (me : Fingerprint) (groups : LocalGroupManager) : AckLog :=
  ⟨MessagingService.start me groups, []⟩

def step (P : Primitives) (X : ServicePrimitives) (l : AckLog) (action : Action) : AckLog :=
  ⟨l.service.step P X action, l.acked ++ (l.service.acknowledges action).toList⟩

def run (P : Primitives) (X : ServicePrimitives) (l : AckLog) (actions : List Action) : AckLog :=
  actions.foldl (step P X) l

def Lasting (l : AckLog) : Prop :=
  ∀ ref f, (ref, f) ∈ l.acked →
    (l.service.entry ref f).any acknowledged ∧ ¬ l.service.Pending ref f

lemma acked_step_of_none {action} (h : l.service.acknowledges action = none) :
    (l.step P X action).acked = l.acked := by
  rw [step, h]
  exact append_nil _

lemma lasting_gack_iff (lasting : l.Lasting) (gid f id) :
    (l.step P X (.gack gid f id)).Lasting ↔ l.service.Timely (.gack gid f id) := by
  cases found : l.service.acknowledges (.gack gid f id) with
  | none =>
    have idle : l.step P X (.gack gid f id) = l := by
      simp [step, found, gack_idle found]
    rw [idle]
    refine iff_of_true lasting ?_
    intro ref g again
    simp [found] at again
  | some acked =>
    obtain ⟨ref, g⟩ := acked
    obtain ⟨rfl, moved⟩ := gack_found (P := P) (X := X) found
    have log : (l.step P X (.gack gid g id)).acked = l.acked ++ [(ref, g)] := by
      simp [step, found]
    have timely : l.service.Timely (.gack gid g id) ↔
        (l.service.entry ref g = some .sent ∨
          (l.service.entry ref g).any acknowledged) ∧
        ¬ l.service.Pending ref g := by
      refine ⟨fun timely => timely ref g found, fun fits ref' g' again => ?_⟩
      rw [found] at again
      cases again
      exact fits
    rw [timely]
    unfold Lasting
    rw [log]
    simp only [step, moved]
    constructor
    · intro after
      obtain ⟨settled, clear⟩ := after ref g (mem_append_right _ mem_cons_self)
      split_ifs at settled clear with sent
      · exact ⟨.inl sent, fun pending => clear ((pending_delivered ref g).mpr pending)⟩
      · exact ⟨.inr settled, clear⟩
    · rintro ⟨shown, clear⟩ ref' g' mem
      split_ifs with sent
      · rw [entry_delivered sent, pending_delivered]
        split_ifs with own
        · obtain ⟨rfl, rfl⟩ := own
          exact ⟨rfl, clear⟩
        · refine lasting ref' g' ((mem_append.mp mem).resolve_right fun last => own ?_)
          exact Prod.mk.inj (mem_singleton.mp last)
      · rcases mem_append.mp mem with old | last
        · exact lasting ref' g' old
        · obtain ⟨rfl, rfl⟩ := Prod.mk.inj (mem_singleton.mp last)
          exact ⟨shown.resolve_left sent, clear⟩

lemma lasting_step_iff (filed : l.service.books.Filed) (lasting : l.Lasting)
    (action) : (l.step P X action).Lasting ↔ l.service.Timely action := by
  by_cases gack : action.isGack
  · cases action with
    | gack gid f id => exact lasting_gack_iff lasting gid f id
    | _ => cases gack
  · have none : l.service.acknowledges action = none := by
      cases action with
      | gack => exact absurd rfl gack
      | _ => rfl
    have spared : Spared (fun ref f => (ref, f) ∈ l.acked) l.service :=
      spared_iff.mpr ⟨filed, lasting⟩
    have moved := (spared_iff.mp
      (spared.step (P := P) (X := X) (Bool.eq_false_iff.mpr gack))).2
    refine iff_of_true ?_ ?_
    · unfold Lasting
      rw [acked_step_of_none none]
      exact moved
    · intro ref f found
      rw [none] at found
      cases found

lemma acknowledged_iff (state : Option DeliveryState) :
    state.any acknowledged ↔
      state = some .delivered ∨ state = some .read := by
  cases state with
  | none => simp
  | some state => cases state <;> simp [acknowledged]

/-- An acknowledged entry says delivered or read at once and for good, with no copy of the
message left to resend, exactly if every acknowledgement finds its entry sent (or acknowledged)
and no copy of the message pending. -/
theorem acknowledgements_last_iff (P : Primitives) (X : ServicePrimitives) (me : Fingerprint)
    (groups : LocalGroupManager) (actions : List Action) :
    Runs.Along (step P X) (fun l action => l.service.Timely action) (start me groups) actions ↔
      ∀ before, before <+: actions →
        ∀ ref f, (ref, f) ∈ (run P X (start me groups) before).acked →
          ((run P X (start me groups) before).service.entry ref f = some .delivered ∨
            (run P X (start me groups) before).service.entry ref f = some .read) ∧
          ¬ (run P X (start me groups) before).service.Pending ref f := by
  have moments : Runs.Along (step P X) (fun l action => l.service.Timely action)
      (start me groups) actions ↔
      ∀ before, before <+: actions → (before.foldl (step P X) (start me groups)).Lasting :=
    Runs.along_iff_forall_moment (filed_start me groups)
      (fun ref f mem => absurd mem not_mem_nil)
      (fun l action _ filed _ _ => filed_step filed action)
      (fun l action _ filed lasting => lasting_step_iff filed lasting action)
  rw [moments]
  simp only [Lasting, acknowledged_iff]
  rfl

open GroupAuthority (plainPrimitives noon nightWatch bob)
open Mirror (alice aliceRecord)
open SenderKeyService (plainService firstDraw)

lemma pairRecord_filed (suite gid) (r : LocalGroupRecord)
    (h : (Dict.empty.set nightWatch { aliceRecord with cryptoSuite := suite }).get? gid = some r) :
    r.groupId = gid := by
  rw [Dict.get?_set] at h
  split_ifs at h with own
  · cases h
    exact own.symm
  · cases h

def pairManager (suite : String) : LocalGroupManager where
  identity := none
  records := Dict.empty.set nightWatch { aliceRecord with cryptoSuite := suite }
  applyErrors := Dict.empty
  filed := pairRecord_filed suite

def alicesLog (suite : String) (actions : List Action) : AckLog :=
  run plainPrimitives plainService (start alice (pairManager suite)) actions

def RestsAt (state : DeliveryState) (l : AckLog) : Prop :=
  (0, bob) ∈ l.acked ∧ l.service.entry 0 bob = some state ∧ l.service.tasks.keys = [] ∧
    l.service.skTasks.keys = []

instance (state : DeliveryState) (l : AckLog) : Decidable (RestsAt state l) :=
  inferInstanceAs (Decidable (_ ∧ _ ∧ _ ∧ _))

def handedOver : List Action :=
  [.send nightWatch "hi" firstDraw, .pump 0 .started, .pump 0 (.linked 2), .pump 0 .paced]

def fannedOut : List Action :=
  [.send nightWatch "hi" firstDraw, .resume 0 (.linked 2 Reception.plainRoot), .resume 0 .paced,
    .resume 0 .forwarded, .resume 0 .paced]

def acknowledged : Action := .gack nightWatch bob firstDraw.messageId

def reported (code : OutboxService.ForwardError) : Action :=
  .forwardError nightWatch bob code noon.wall

/-- The acknowledgement is processed before the sender has marked the message sent, or after an
error about another envelope to Bob has made the service take the message back. No task is left,
and the entry says sent, queued or failed. -/
theorem acknowledgement_ignored :
    RestsAt .sent (alicesLog "mesh-v1" (handedOver ++ [acknowledged, .pump 0 .forwarded])) ∧
      RestsAt .sent (alicesLog "senderkey-v1"
        (fannedOut ++ [acknowledged, .resume 0 .forwarded])) ∧
      RestsAt .queued (alicesLog "mesh-v1"
        (handedOver ++ [.pump 0 .forwarded, reported .rate, acknowledged])) ∧
      RestsAt .queued (alicesLog "senderkey-v1"
        (fannedOut ++ [.resume 0 .forwarded, reported .offline, acknowledged])) ∧
      RestsAt .failed (alicesLog "mesh-v1"
        (handedOver ++ [.pump 0 .forwarded, reported .other, acknowledged])) := by
  decide +kernel

end AckLog
end Ghostlink.Groups
