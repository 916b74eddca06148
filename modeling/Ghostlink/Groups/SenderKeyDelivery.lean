import Ghostlink.Groups.SenderKeyTraffic

/-! New messages and changes of epoch keep the invariant of a sender-key service as well, and so
every message that a run puts on the wire can be opened by the member it is addressed to. -/

namespace Ghostlink.Groups
open Collections Text List Dict Reception Nat

namespace SenderKeyService
variable {P : Primitives} {X : ServicePrimitives} {s s' : SenderKeyService}

/-- `s'` is `s` with the ledger of a new message, whose chain may have been made or moved on. -/
structure Enters (X : ServicePrimitives) (s s' : SenderKeyService) (l : GroupMessageLedger) :
    Prop where
  me : s'.me = s.me
  groups : s'.groups = s.groups
  tasks : s'.tasks = s.tasks
  retry : s'.retry = s.retry
  deques : s'.deques = s.deques
  distributed : s'.distributed = s.distributed
  wire : s'.wire = s.wire
  ledgers : s'.ledgers = s.ledgers.set s.nextLedger l
  nextLedger : s'.nextLedger = s.nextLedger + 1
  counted : ∀ gid, 1 ≤ (s'.runtime gid).nextGseq
  kept : ∀ gid mid ref, (s'.runtime gid).ledgers.get? mid = some ref →
    (s.runtime gid).ledgers.get? mid = some ref ∨
      gid = l.groupId ∧ mid = l.messageId ∧ ref = s.nextLedger
  quiet : l.inFlight = false
  fresh : ∀ ref l', s.ledgers.get? ref = some l' → l'.messageId ≠ l.messageId
  chains : ∀ (gid : GroupId) e c, s'.store.outgoingChain gid.val e = some c →
    s.store.outgoingChain gid.val e = some c ∨ s.epoch? gid = some e ∧ 1 ≤ c.gen ∧
      Moved X s.me gid e c c
  lasting : ∀ (gid : GroupId) e c, s.store.outgoingChain gid.val e = some c →
    ∃ c', s'.store.outgoingChain gid.val e = some c' ∧ c'.gen = c.gen ∧ c'.root = c.root
  cache : ∀ id b, s'.sealedCache.get? id = some b →
    s.sealedCache.get? id = some b ∨ id = l.messageId

section Enters
variable {l : GroupMessageLedger} (entry : Enters X s s' l)
include entry

lemma Enters.epoch? : s'.epoch? = s.epoch? := by
  funext gid
  simp [SenderKeyService.epoch?, record?, entry.groups]

lemma Enters.found {ref l'} (h : s'.ledgers.get? ref = some l') :
    ref = s.nextLedger ∧ l' = l ∨ ref ≠ s.nextLedger ∧ s.ledgers.get? ref = some l' := by
  rw [entry.ledgers] at h
  exact get?_of_set h

lemma Enters.ext (h : Sound X s) (gid) : Ext s s' gid where
  me := entry.me
  epoch := by rw [entry.epoch?]
  chains := entry.lasting gid
  ledgers ref l' found := by
    refine ⟨l', ?_, rfl, rfl, rfl⟩
    rwa [entry.ledgers, get?_set_ne _ _ (Nat.ne_of_lt (h.grounded.heap ref l' found))]
  cache ref l' b found hb := by
    rcases entry.cache _ b hb with old | new
    · exact old
    · exact absurd new (entry.fresh ref l' found)
  wire := by
    rw [entry.wire]
    exact fun _ mem => mem

lemma Sound.enters (h : Sound X s) : Sound X s' := by
  have keeps := entry.ext h
  constructor
  · refine ⟨?_, entry.counted, ?_, ?_, ?_, ?_, ?_⟩
    · rw [entry.epoch?]
      exact h.grounded.positive
    · intro gid e c hc
      rw [entry.me]
      rcases entry.chains gid e c hc with old | ⟨-, gen, follows⟩
      · exact h.grounded.chains gid e c old
      · exact ⟨gen, follows⟩
    · intro gid e c hc
      rw [entry.epoch?]
      rcases entry.chains gid e c hc with old | ⟨current, -⟩
      · exact h.grounded.past gid e c old
      · exact ⟨e, current, le_refl _⟩
    · intro ref l' found
      rw [entry.nextLedger]
      rcases entry.found found with ⟨rfl, -⟩ | ⟨-, old⟩
      · exact lt_succ_self _
      · exact lt_succ_of_lt (h.grounded.heap ref l' old)
    · intro ref₁ ref₂ l₁ l₂ found₁ found₂ same
      rcases entry.found found₁ with ⟨own₁, rfl⟩ | ⟨-, old₁⟩
      · rcases entry.found found₂ with ⟨own₂, -⟩ | ⟨-, old₂⟩
        · exact own₁.trans own₂.symm
        · exact absurd same.symm (entry.fresh ref₂ l₂ old₂)
      · rcases entry.found found₂ with ⟨-, rfl⟩ | ⟨-, old₂⟩
        · exact absurd same (entry.fresh ref₁ l₁ old₁)
        · exact h.grounded.unique ref₁ ref₂ l₁ l₂ old₁ old₂ same
    · intro gid mid ref kept
      rcases entry.kept gid mid ref kept with old | ⟨rfl, rfl, rfl⟩
      · obtain ⟨l', found, id, group⟩ := h.grounded.kept gid mid ref old
        obtain ⟨l'', found', id', group', -⟩ := (keeps gid).ledgers ref l' found
        exact ⟨l'', found', id'.trans id, group'.trans group⟩
      · exact ⟨l, by rw [entry.ledgers, get?_set_self], rfl, rfl⟩
  · refine h.flow.extend keeps ⟨?_, ?_, ?_, .inl entry.wire⟩ ?_ ?_
    · intro id task found
      rw [entry.tasks] at found
      exact .inl ⟨id, found⟩
    · intro q reach m mem
      rw [deque, entry.deques] at mem
      rw [Reachable, entry.retry, entry.tasks] at reach
      exact .inl ⟨reach, mem⟩
    · intro gid f v found
      rw [entry.distributed] at found
      exact .inl found
    · intro ref l' b found moving kept _
      rcases entry.found found with ⟨-, rfl⟩ | ⟨other, old⟩
      · simp [entry.quiet] at moving
      · obtain ⟨mid, kept⟩ := kept
        rcases entry.kept _ mid ref kept with before | ⟨-, -, own⟩
        · exact .inl ⟨l', old, rfl, rfl, moving, mid, before⟩
        · exact absurd own other
    · intro ref l' f found sent
      rcases entry.found found with ⟨-, rfl⟩ | ⟨-, old⟩
      · have moving := (GroupMessageLedger.inFlight_iff l').mpr ⟨f, .sent, sent, rfl⟩
        simp [entry.quiet] at moving
      · exact .inl ⟨l', old, rfl, rfl, sent⟩

end Enters

lemma newLedger_quiet (record seq text d recipients) :
    (newLedger record seq text d recipients).inFlight = false := by
  rw [Bool.eq_false_iff]
  intro moving
  obtain ⟨f, state, found, flying⟩ := (GroupMessageLedger.inFlight_iff _).mp moving
  rw [newLedger, GroupMessageLedger.waiting_recipients] at found
  split_ifs at found
  cases found
  exact nomatch flying

section Send
variable {record : LocalGroupRecord} (text : String) (d : Draw) (recipients : List Fingerprint)

lemma takeSeq_own (h : Grounded X s) :
    (s.takeSeq X record text d recipients).2.store.outgoingChain record.groupId.val record.epoch =
      some (s.takeSeq X record text d recipients).1 ∧
    (∀ c, s.store.outgoingChain record.groupId.val record.epoch = some c →
      (s.takeSeq X record text d recipients).1 = c) ∧
    1 ≤ (s.takeSeq X record text d recipients).1.gen ∧
    Moved X s.me record.groupId record.epoch (s.takeSeq X record text d recipients).1
      (s.takeSeq X record text d recipients).1 := by
  have chain : (s.takeSeq X record text d recipients).1 = (s.store.ensureOutgoing
    X.toSenderKeyPrimitives record.groupId.val record.epoch s.me.val
    (some (s.runtime record.groupId).nextGseq) d.root).1 := rfl
  have store : (s.takeSeq X record text d recipients).2.store = (s.store.ensureOutgoing
    X.toSenderKeyPrimitives record.groupId.val record.epoch s.me.val
    (some (s.runtime record.groupId).nextGseq) d.root).2 := rfl
  rcases ensureOutgoing_cases X.toSenderKeyPrimitives s.store record.groupId.val record.epoch
    s.me.val (some (s.runtime record.groupId).nextGseq) d.root with
    ⟨c, hc, eq⟩ | ⟨absent, k', outgoing, eq, gen, positive, made⟩
  · rw [chain, store, eq]
    refine ⟨hc, ?_, h.chains record.groupId record.epoch c hc⟩
    intro c' hc'
    exact Option.some.inj (hc.symm.trans hc')
  · rw [chain, store, eq]
    refine ⟨?_, ?_, ?_⟩
    · rw [SenderKeyStore.outgoingChain, outgoing, get?_set_self]
    · intro c hc
      simp [absent] at hc
    · rw [made]
      exact ⟨positive, OutgoingChain.follows_make _⟩

lemma takeSeq_kept {gid mid ref}
    (h : ((s.takeSeq X record text d recipients).2.runtime gid).ledgers.get? mid = some ref) :
    (s.runtime gid).ledgers.get? mid = some ref ∨
      gid = record.groupId ∧ mid = d.messageId ∧ ref = s.nextLedger := by
  simp only [takeSeq, runtime, get?_set] at h
  split_ifs at h with same
  · subst same
    rcases get?_dropOldest_moveToEnd_set h with ⟨rfl, rfl⟩ | ⟨-, old⟩
    · exact .inr ⟨rfl, rfl, rfl⟩
    · exact .inl old
  · exact .inl h

lemma enters_takeSeq (h : Grounded X s) (current : s.epoch? record.groupId = some record.epoch)
    (fresh : ∀ ref l, s.ledgers.get? ref = some l → l.messageId ≠ d.messageId) :
    Enters X s (s.takeSeq X record text d recipients).2
      (newLedger record (s.runtime record.groupId).nextGseq text d recipients) := by
  obtain ⟨own, same, gen, follows⟩ := takeSeq_own text d recipients h
  refine ⟨rfl, rfl, rfl, rfl, rfl, rfl, rfl, rfl, rfl, ?_, ?_, ?_, fresh, ?_, ?_, ?_⟩
  · intro gid
    rw [takeSeq_nextGseq]
    split_ifs
    · exact le_add_left 1 _
    · exact h.counted gid
  · intro gid mid ref kept
    exact takeSeq_kept text d recipients kept
  · exact newLedger_quiet record _ text d recipients
  · intro gid e c hc
    by_cases key : gid = record.groupId ∧ e = record.epoch
    · obtain ⟨rfl, rfl⟩ := key
      cases own.symm.trans hc
      exact .inr ⟨current, gen, follows⟩
    · rw [takeSeq_outgoing_ne X s record text d recipients key] at hc
      exact .inl hc
  · intro gid e c hc
    by_cases key : gid = record.groupId ∧ e = record.epoch
    · obtain ⟨rfl, rfl⟩ := key
      refine ⟨_, own, ?_, ?_⟩
      · rw [same c hc]
      · rw [same c hc]
    · refine ⟨c, ?_, rfl, rfl⟩
      rw [takeSeq_outgoing_ne X s record text d recipients key, hc]
  · exact fun _ _ hb => .inl hb

end Send

lemma Enters.keepSealed {l : GroupMessageLedger} (entry : Enters X s s' l)
    {record : LocalGroupRecord} (current : s.epoch? record.groupId = some record.epoch)
    {c c' : OutgoingChain} (own : s'.store.outgoingChain record.groupId.val record.epoch = some c)
    (gen : c'.gen = c.gen) (root : c'.root = c.root) (positive : 1 ≤ c.gen)
    (follows : Moved X s.me record.groupId record.epoch c c') {m : SealedMessage}
    (id : m.messageId = l.messageId) :
    Enters X s (s'.keepSealed record c' m) l := by
  have chains : ∀ (gid : GroupId) e, ¬ (gid = record.groupId ∧ e = record.epoch) →
      (s'.keepSealed record c' m).store.outgoingChain gid.val e =
        s'.store.outgoingChain gid.val e := fun _ _ other => outgoing_set_ne other
  have now : (s'.keepSealed record c' m).store.outgoingChain record.groupId.val record.epoch =
      some c' := get?_set_self _ _ _
  refine { entry with chains := ?_, lasting := ?_, cache := ?_ }
  · intro gid e c₁ hc
    by_cases key : gid = record.groupId ∧ e = record.epoch
    · obtain ⟨rfl, rfl⟩ := key
      cases now.symm.trans hc
      rw [Moved, gen, root]
      exact .inr ⟨current, positive, follows⟩
    · rw [chains gid e key] at hc
      exact entry.chains gid e c₁ hc
  · intro gid e c₁ hc
    obtain ⟨c₂, hc₂, gen₂, root₂⟩ := entry.lasting gid e c₁ hc
    by_cases key : gid = record.groupId ∧ e = record.epoch
    · obtain ⟨rfl, rfl⟩ := key
      cases own.symm.trans hc₂
      exact ⟨c', now, gen.trans gen₂, root.trans root₂⟩
    · rw [chains gid e key]
      exact ⟨c₂, hc₂, gen₂, root₂⟩
  · intro mid b hb
    rcases get?_dropOldest_moveToEnd_set hb with ⟨rfl, -⟩ | ⟨-, old⟩
    · exact .inr id
    · exact entry.cache mid b old

variable {sealed : Bytes} {seq : ℕ}

lemma sealText_sealed {record : LocalGroupRecord} {chain chain' : OutgoingChain} {text d}
    (h : s.sealText X record chain seq text d = .ok (sealed, chain'))
    (follows : Moved X s.me record.groupId record.epoch chain chain) :
    chain'.gen = chain.gen ∧ chain'.root = chain.root ∧
    Moved X s.me record.groupId record.epoch chain chain' ∧
    SealedUnder X s.me record.groupId record.epoch chain.gen chain.root seq sealed := by
  unfold sealText at h
  split at h
  · exact nomatch h
  · rename_i frame _
    split at h
    · exact nomatch h
    · rename_i result sealing
      cases h
      obtain ⟨-, rfl, -, moved⟩ := OutgoingChain.sealAt_eq_ok.mp sealing
      obtain ⟨o, sealing', next⟩ := follows.seals d.nonce frame
        (groupSkMsgAad record.groupId record.epoch s.me chain.gen chain.nextIndex)
      cases sealing.symm.trans sealing'
      refine ⟨?_, ?_, next, d.nonce, frame, rfl⟩
      · rw [← moved]
      · rw [← moved]

lemma Sound.sendSenderKey (h : Sound X s) {record : LocalGroupRecord}
    (current : s.epoch? record.groupId = some record.epoch) (text) (d : Draw)
    (fresh : ∀ ref l, s.ledgers.get? ref = some l → l.messageId ≠ d.messageId) :
    Sound X (s.sendSenderKey X record text d).1 := by
  have entry := enters_takeSeq text d (s.recipientsOf record) h.grounded current fresh
  obtain ⟨own, -, positive, follows⟩ :=
    @takeSeq_own X s record text d (s.recipientsOf record) h.grounded
  unfold SenderKeyService.sendSenderKey
  dsimp only
  split_ifs
  · exact h
  · split
    · exact h.enters entry
    · rename_i sealed chain' sealing
      obtain ⟨gen, root, follows', under⟩ := sealText_sealed sealing follows
      set message : SealedMessage := ⟨d.messageId, (s.takeSeq X record text d
        (s.recipientsOf record)).1.gen, (s.runtime record.groupId).nextGseq, sealed⟩
      have kept := entry.keepSealed current own gen root positive follows' (m := message) rfl
      have owned : ((s.takeSeq X record text d (s.recipientsOf record)).2.keepSealed record chain'
          message).ledgers.get? s.nextLedger = some (newLedger record
            (s.runtime record.groupId).nextGseq text d (s.recipientsOf record)) :=
        get?_set_self _ _ _
      have known : Known X ((s.takeSeq X record text d (s.recipientsOf record)).2.keepSealed record
          chain' message) record.groupId message := by
        refine ⟨⟨record.epoch, chain', current, get?_set_self _ _ _, gen, ?_⟩,
          h.grounded.counted record.groupId, ⟨_, _, owned, rfl, rfl, rfl⟩, ?_⟩
        · rwa [root]
        · intro b hb
          rcases get?_dropOldest_moveToEnd_set hb with ⟨-, same⟩ | ⟨other, -⟩
          · exact same
          · exact absurd rfl other
      have reports : Reports ((s.takeSeq X record text d (s.recipientsOf record)).2.keepSealed
          record chain' message) ⟨record.groupId, message, s.nextLedger, s.me,
            s.recipientsOf record⟩ := ⟨_, owned, rfl, rfl, rfl⟩
      have ticks := (still_nextTask ((s.takeSeq X record text d (s.recipientsOf record)).2.keepSealed
        record chain' message) (s.nextTask + 1)).ext record.groupId
      exact ((h.enters kept).nextTask _).nextLeg _ (known.ext ticks) (Reports.ext ticks reports)

lemma Sound.send (h : Sound X s) (gid text) (d : Draw)
    (fresh : ∀ ref l, s.ledgers.get? ref = some l → l.messageId ≠ d.messageId) :
    Sound X (s.send X gid text d).1 := by
  unfold SenderKeyService.send
  split
  · exact h
  · rename_i record checked
    obtain ⟨found, rfl, -⟩ :=
      requireSendable_ok (LocalGroupManager.checkSend_ok checked).1
    have current := epoch?_of_record found
    exact h.sendSenderKey current text d fresh

structure Leap (s s' : SenderKeyService) (gid : GroupId) (e : ℕ) : Prop where
  me : s'.me = s.me
  runtimes : s'.runtimes = s.runtimes
  ledgers : s'.ledgers = s.ledgers
  nextLedger : s'.nextLedger = s.nextLedger
  cache : s'.sealedCache = s.sealedCache
  tasks : s'.tasks = s.tasks
  deques : s'.deques = s.deques
  wire : s'.wire = s.wire
  before : s.epoch? gid = some e
  epoch : ∀ gid', s'.epoch? gid' = if gid' = gid then some (e + 1) else s.epoch? gid'
  dropped : ∀ (gid' : GroupId) e' c, s'.store.outgoingChain gid'.val e' = some c →
    s.store.outgoingChain gid'.val e' = some c
  chains : ∀ gid' : GroupId, gid' ≠ gid → ∀ e', s'.store.outgoingChain gid'.val e' =
    s.store.outgoingChain gid'.val e'
  retry : ∀ key serial, s'.retry.get? key = some serial → s.retry.get? key = some serial
  marks : ∀ key v, s'.distributed.get? key = some v → s.distributed.get? key = some v

lemma onRecordState_outgoing_ne (s : SenderKeyService) (record : LocalGroupRecord)
    (event) {gid : GroupId} (other : gid ≠ record.groupId) (e) :
    (s.onRecordState record event).store.outgoingChain gid.val e =
      s.store.outgoingChain gid.val e := by
  have differs : gid.val ≠ record.groupId.val := fun same => other (Subtype.ext same)
  have pruned : (s.store.pruneEpoch record.groupId.val record.epoch).outgoingChain gid.val e =
      s.store.outgoingChain gid.val e :=
    get?_filter_of _ fun _ => by simp [differs]
  have torn : ∀ k : SenderKeyStore, (k.teardownGroup record.groupId.val).outgoingChain gid.val e =
      k.outgoingChain gid.val e :=
    fun k => get?_filter_of _ fun _ => by simp [differs]
  unfold onRecordState
  dsimp only
  split_ifs
  · exact (torn _).trans pruned
  · exact (torn _).trans pruned
  · exact pruned
  · exact pruned

lemma onRecordState_retry (s : SenderKeyService) (record event) {key : GroupId × Fingerprint}
    {serial}
    (h : (s.onRecordState record event).retry.get? key = some serial) :
    s.retry.get? key = some serial := by
  unfold onRecordState at h
  dsimp only at h
  split_ifs at h
  · have erased : (s.retry.erase (record.groupId, event.subjectFingerprint)).get? key =
        some serial := get?_of_filter h
    exact get?_of_filter erased
  · exact get?_of_filter h
  · exact get?_of_filter h
  · exact h

lemma onRecordState_leap {groups} {record : LocalGroupRecord} {e}
    (event : GroupEvent) (before : s.epoch? record.groupId = some e)
    (epochs : ∀ gid', ({ s with groups } : SenderKeyService).epoch? gid' =
      if gid' = record.groupId then some (e + 1) else s.epoch? gid') :
    Leap s (({ s with groups } : SenderKeyService).onRecordState record event)
      record.groupId e := by
  obtain ⟨runtimes, tasks, same⟩ :=
    onRecordState_frame ({ s with groups } : SenderKeyService) record event
  refine ⟨?_, runtimes, ?_, ?_, ?_, tasks, ?_, ?_, before, ?_, ?_, ?_, ?_, ?_⟩
  rotate_left 6
  · intro gid'
    rw [← epochs gid']
    simp [epoch?, record?, same]
  · intro gid' e' c hc
    exact (onRecordState_outgoing _ record event hc).1
  · intro gid' other e'
    exact onRecordState_outgoing_ne _ record event other e'
  · intro key serial found
    exact onRecordState_retry ({ s with groups } : SenderKeyService) record event found
  · intro key v found
    unfold onRecordState at found
    dsimp only at found
    split_ifs at found <;> exact get?_of_filter found
  all_goals
    unfold onRecordState
    dsimp only
    split_ifs <;> rfl

section Leap
variable {gid : GroupId} {e : ℕ} (jump : Leap s s' gid e)
include jump

variable {gid' : GroupId}

lemma Leap.grows {e'} (h : s.epoch? gid' = some e') :
    ∃ e'', s'.epoch? gid' = some e'' ∧ e' ≤ e'' := by
  rw [jump.epoch]
  split_ifs with own
  · rw [own, jump.before] at h
    cases h
    exact ⟨e + 1, rfl, le_succ e⟩
  · exact ⟨e', h, le_refl _⟩

lemma Leap.runtime : s'.runtime = s.runtime := by
  funext gid'
  simp [SenderKeyService.runtime, jump.runtimes]

lemma Leap.ext (other : gid' ≠ gid) : Ext s s' gid' where
  me := jump.me
  epoch := by rw [jump.epoch, if_neg other]
  chains e' c hc := ⟨c, by rwa [jump.chains gid' other], rfl, rfl⟩
  ledgers ref l found := ⟨l, by rwa [jump.ledgers], rfl, rfl, rfl⟩
  cache ref l b _ hb := by rwa [jump.cache] at hb
  wire := by
    rw [jump.wire]
    exact fun _ mem => mem

lemma Handed.leap {e' d} (h : Handed s gid' e' d) : Handed s' gid' e' d := by
  by_cases own : gid' = gid
  · subst own
    obtain ⟨e₀, current, le⟩ := h.past
    obtain ⟨e₁, next, le'⟩ := jump.grows current
    refine ⟨⟨e₁, next, le.trans le'⟩, ?_⟩
    intro now
    rw [jump.epoch, if_pos rfl] at now
    cases now
    rw [jump.before] at current
    cases current
    exact absurd le (not_succ_le_self e)
  · exact h.ext (jump.ext own)

lemma Grounded.leap (h : Grounded X s) : Grounded X s' := by
  refine ⟨?_, ?_, ?_, ?_, ?_, ?_, ?_⟩
  · intro gid' e' current
    rw [jump.epoch] at current
    split_ifs at current
    · cases current
      exact le_add_left 1 e
    · exact h.positive gid' e' current
  · rw [jump.runtime]
    exact h.counted
  · intro gid' e' c hc
    rw [jump.me]
    exact h.chains gid' e' c (jump.dropped gid' e' c hc)
  · intro gid' e' c hc
    obtain ⟨e₀, current, le⟩ := h.past gid' e' c (jump.dropped gid' e' c hc)
    obtain ⟨e₁, next, le'⟩ := jump.grows current
    exact ⟨e₁, next, le.trans le'⟩
  · rw [jump.ledgers, jump.nextLedger]
    exact h.heap
  · rw [jump.ledgers]
    exact h.unique
  · rw [jump.runtime, jump.ledgers]
    exact h.kept

lemma TaskOk.leap {task : SkTask} (away : task.carries gid = false) (h : TaskOk X s task) :
    TaskOk X s' task := by
  cases task with
  | send | drain => exact h.ext (jump.ext (of_decide_eq_false away))
  | respond => exact Handed.leap jump h

lemma Sound.leap (h : Sound X s) (idle : s.idle gid) : Sound X s' := by
  refine ⟨h.grounded.leap jump, ?_, ?_, ?_, ?_, ?_, ?_, ?_⟩
  · intro id task found
    rw [jump.tasks] at found
    exact (h.flow.tasks id task found).leap jump (idle_tasks idle found)
  · intro q reach m mem
    rw [deque, jump.deques] at mem
    rw [Reachable, jump.tasks] at reach
    have reach' : Reachable s q := reach.imp_left (jump.retry _ _)
    by_cases own : q.groupId = gid
    · subst own
      rcases reach' with queue | ⟨id, point, found⟩
      · have empty : s.deque q = [] := idle_queues idle queue
        rw [deque] at empty
        simp [empty] at mem
      · have away := idle_tasks idle found
        exact absurd rfl (of_decide_eq_false away)
    · exact (h.flow.queues q reach' m mem).ext (jump.ext own)
  · intro ref l b found moving kept hb
    rw [jump.ledgers] at found
    rw [jump.cache] at hb
    rw [Kept, jump.runtime] at kept
    by_cases own : l.groupId = gid
    · subst own
      obtain ⟨mid, kept⟩ := kept
      simp [idle_ledgers idle kept found moving] at hb
    · exact (h.flow.cached ref l b found moving kept hb).ext (jump.ext own)
  · intro gid' f v found
    rw [OnWire, jump.wire]
    exact h.flow.marks gid' f v (jump.marks _ v found)
  · intro gid' e' f d mem
    rw [jump.wire] at mem
    exact (h.flow.handed gid' e' f d mem).leap jump
  · rw [jump.ledgers, jump.wire]
    exact h.flow.sent
  · rw [jump.wire, jump.me]
    exact h.flow.openable

end Leap

lemma Sound.groups (h : Sound X s) {groups}
    (epochs : ∀ gid, ({ s with groups } : SenderKeyService).epoch? gid = s.epoch? gid) :
    Sound X { s with groups } := by
  have keeps : ∀ gid, Ext s ({ s with groups } : SenderKeyService) gid := by
    intro gid
    refine ⟨rfl, epochs gid, ?_, ?_, fun _ _ _ _ hb => hb, fun _ mem => mem⟩
    · exact fun e c hc => ⟨c, hc, rfl, rfl⟩
    · exact fun ref l found => ⟨l, found, rfl, rfl, rfl⟩
  constructor
  · refine ⟨?_, h.grounded.counted, h.grounded.chains, ?_, h.grounded.heap, h.grounded.unique,
      h.grounded.kept⟩
    · intro gid e current
      exact h.grounded.positive gid e ((epochs gid).symm.trans current)
    · intro gid e c hc
      rw [epochs]
      exact h.grounded.past gid e c hc
  · refine h.flow.extend keeps ⟨fun id task found => .inl ⟨id, found⟩,
      fun q reach m mem => .inl ⟨reach, mem⟩, fun _ _ _ => .inl, .inl rfl⟩ ?_ ?_
    · exact fun ref l b found moving kept _ => .inl ⟨l, found, rfl, rfl, moving, kept⟩
    · exact fun ref l f found sent => .inl ⟨l, found, rfl, rfl, sent⟩

lemma Sound.groupEvent (h : Sound X s) (packet now)
    (calm : s.calm P (.groupEvent packet now)) : Sound X (s.onGroupEvent P packet now) := by
  rcases onGroupEvent_cases P s packet now with
    ⟨groups, eq, epochs⟩ | ⟨groups, gid, e, record, event, before, rfl, -, epochs, eq⟩
  · rw [eq]
    exact h.groups epochs
  · have jump := onRecordState_leap event before epochs
    rw [← eq] at jump
    refine h.leap jump ?_
    -- the group is one the manager has, and its epoch is not what it was
    have listed : record.groupId ∈ s.groups.records.keys := by
      by_contra absent
      simp [epoch?, record?, (get?_eq_none_iff _ _).mpr absent] at before
    have moved := all_eq_true.mp calm record.groupId listed
    rw [Bool.or_eq_true, decide_eq_true_eq] at moved
    refine moved.resolve_left ?_
    rw [jump.epoch, if_pos rfl, before]
    exact fun same => succ_ne_self e (Option.some.inj same)

lemma sound_start (me) (groups : LocalGroupManager)
    (founded : ∀ gid r, groups.records.get? gid = some r → 1 ≤ r.epoch) :
    Sound X (start me groups) := by
  refine ⟨⟨?_, ?_, nofun, nofun, nofun, nofun, nofun⟩, nofun, ?_, nofun, nofun, nofun, nofun, ?_⟩
  · intro gid e current
    obtain ⟨r, found, rfl⟩ := Option.map_eq_some_iff.mp current
    exact founded gid r found
  · exact fun _ => le_refl 1
  · exact fun _ _ _ mem => nomatch mem
  · intro before forward after split
    exact absurd split.symm (append_ne_nil_of_right_ne_nil before (cons_ne_nil _ _))

lemma Sound.step (h : Sound X s) (action) (calm : s.calm P action) :
    Sound X (step P X s action) := by
  cases action with
  | send gid text d =>
    refine h.send gid text d ?_
    intro ref l found
    have fresh := all_eq_true.mp calm l ((mem_values _ _).mpr ⟨ref, found⟩)
    exact of_decide_eq_true fresh
  | drain gid member => exact h.drain gid member
  | respond gid requester root => exact h.respond gid requester root
  | resume id outcome =>
    simp only [SenderKeyService.step]
    split
    · exact h
    · exact h.resumeSend (by assumption) calm
    · exact h.resumeDrain (by assumption) calm
    · exact h.resumeRespond (by assumption) outcome
  | groupEvent packet now => exact h.groupEvent packet now calm
  | offline gid member =>
    simp only [SenderKeyService.step]
    split_ifs
    · exact h.skOfflineRequeue gid member
    · exact h
  | gack gid sender id => exact h.applyGack gid sender id

/-- In every interleaving in which an epoch change finds nothing left to deliver and no
distribution is lost, each message on the wire was sealed for the epoch it is forwarded under
with the chain its addressee was last handed for that epoch, and an entry that says sent has
its message on the wire. -/
theorem messages_openable_by_addressee (P : Primitives) (X : ServicePrimitives)
    (me : Fingerprint) (groups : LocalGroupManager) (actions : List Action)
    (founded : ∀ gid r, groups.records.get? gid = some r → 1 ≤ r.epoch)
    (calm : Runs.Along (step P X) (fun s action => s.calm P action) (start me groups)
      actions) :
    let s := run P X (start me groups) actions
    (∀ before forward after, s.wire = before ++ forward :: after →
      Openable X s.me before forward) ∧
    ∀ ref l f, s.ledgers.get? ref = some l → l.recipients.get? f = some .sent →
      ∃ e gen sealed, .skmsg l.groupId e f gen l.gseq sealed ∈ s.wire := by
  intro s
  have h : Sound X s := calm.invariant (sound_start me groups founded)
    fun s action h ok => h.step action ok
  exact ⟨h.flow.openable, h.flow.sent⟩

open GroupAuthority (plainPrimitives noon nightWatch bob)
open Mirror (alice)

/-- The drain of `bobReturns` goes on: it hands out a chain of the new epoch and then forwards
the message it finds in the queue. -/
def bobIsServed : List Action :=
  bobReturns ++ [.resume 1 .paced, .resume 1 .forwarded, .resume 1 .paced, .resume 1 .forwarded]

def earlierBody : Bytes :=
  sealMessage plainService.toSenderKeyPrimitives
    (messageKey plainService.toSenderKeyPrimitives
      { groupId := nightWatch.val, epoch := 2, sender := alice.val, gen := 1 }
      plainRoot 1)
    (Vector.replicate 12 0) (ascii "hi") (groupSkMsgAad nightWatch 2 alice 1 1)

lemma SealedUnder.suffix {me gid e gen root}
    (h : SealedUnder plainService me gid e gen root seq sealed) :
    groupSkMsgAad gid e me gen seq <:+ sealed := by
  obtain ⟨nonce, plaintext, rfl⟩ := h
  exact (suffix_append _ _).trans (suffix_append _ _)

/-- The body sealed in epoch 2 is forwarded under epoch 3, after a chain of epoch 3, and Alice's
ledger calls it sent. -/
theorem drain_forwards_earlier_body :
    let s := run plainPrimitives plainService (start alice trioManager) bobIsServed
    s.wire = [.sk nightWatch 3 bob ⟨1, 1, plainRoot⟩,
        .skmsg nightWatch 3 bob 1 1 earlierBody] ∧
      (s.ledgers.get? 0).bind (fun l => l.recipients.get? bob) = some .sent ∧
      ¬ Openable plainService s.me [.sk nightWatch 3 bob ⟨1, 1, plainRoot⟩]
        (.skmsg nightWatch 3 bob 1 1 earlierBody) := by
  intro s
  have own : s.me = alice := by decide +kernel
  refine ⟨by decide +kernel, by decide +kernel, ?_⟩
  rw [own]
  rintro ⟨d, -, -, under⟩
  -- the associated data at the end of the body still names epoch 2
  have other : ¬ groupSkMsgAad nightWatch 3 alice 1 1 <:+ earlierBody := by decide +kernel
  exact other (SealedUnder.suffix under)

def carolIsMissed : List Action :=
  [.send nightWatch "hi" firstDraw, .resume 0 (.linked 2 plainRoot),
    .resume 0 .paced, .resume 0 .forwarded, .resume 0 .paced, .resume 0 .forwarded,
    .resume 0 .groupError, .gack nightWatch bob firstDraw.messageId,
    .groupEvent carolLeaves noon.wall, .send nightWatch "again" secondDraw,
    .resume 1 (.linked 3 plainRoot), .resume 1 .paced, .resume 1 .forwarded,
    .resume 1 .paced, .resume 1 .forwarded]

theorem openable_across_epochs :
    let s := run plainPrimitives plainService (start alice trioManager) carolIsMissed
    s.epoch? nightWatch = some 3 ∧ s.wire.length = 4 ∧
      (∀ before forward after, s.wire = before ++ forward :: after →
        Openable plainService s.me before forward) ∧
      ∀ ref l f, s.ledgers.get? ref = some l → l.recipients.get? f = some .sent →
        ∃ e gen sealed, .skmsg l.groupId e f gen l.gseq sealed ∈ s.wire := by
  intro s
  have calm : Runs.Along (step plainPrimitives plainService)
      (fun s action => s.calm plainPrimitives action) (start alice trioManager)
      carolIsMissed := by decide +kernel
  have founded : ∀ gid r, trioManager.records.get? gid = some r → 1 ≤ r.epoch := by
    intro gid r found
    rw [trioManager, get?_set] at found
    split_ifs at found
    · cases found
      decide
    · cases found
  exact ⟨by decide +kernel, by decide +kernel,
    messages_openable_by_addressee plainPrimitives plainService alice trioManager carolIsMissed
      founded calm⟩

end SenderKeyService
end Ghostlink.Groups
