import Ghostlink.Groups.SenderKeyAgreement
import Ghostlink.Groups.SenderKeyService
import Ghostlink.Groups.SignedRosters

/-! The outgoing chain of a group's current epoch stands where the transcript counter stands.
Only `send` moves either of them, and it moves both; what can go wrong is the creation of a
chain, which takes its start from the counter in `send` and from nowhere in a distribution. -/

namespace Ghostlink.Groups
open Collections Text Option Dict SenderKeyStore LocalGroupManager LocalGroupRecord

namespace LocalGroupManager

lemma onGroupEvent_epochs (P) (m : LocalGroupManager) (packet : EventPacket) (now) :
    ((m.onGroupEvent P packet now).2 = none ∧
      ∀ gid, ((m.onGroupEvent P packet now).1.records.get? gid).map epoch =
        (m.records.get? gid).map epoch) ∨
    ∃ gid r r' event, m.records.get? gid = some r ∧ r.Advances event r' ∧ r'.groupId = gid ∧
      eventFromPacket P packet = .ok event ∧
      (m.onGroupEvent P packet now).1.records = m.records.set gid r' ∧
      (m.onGroupEvent P packet now).1.get packet.group = some r' ∧
      (m.onGroupEvent P packet now).2.isSome := by
  have flagged (gid : GroupId) (r : LocalGroupRecord) (suspect : Bool) (e : GroupError)
      (hr : m.records.get? gid = some r) (gid' : GroupId) :
      ((m.flagSuspect { r with suspect } e now).records.get? gid').map
        epoch = (m.records.get? gid').map epoch := by
    have hgid := m.filed gid r hr
    simp only [flagSuspect, save, get?_set, hgid]
    split_ifs with same
    · rw [same, hr, map_some, map_some]
    · rfl
  rw [onGroupEvent_eq]
  cases hget : m.get packet.group with
  | none => exact .inl ⟨rfl, fun _ => rfl⟩
  | some r =>
    obtain ⟨gid, parsed, hr⟩ := bind_eq_some_iff.mp hget
    obtain dropped | ⟨e, suspect, refused⟩ |
      ⟨event, joinMember, r₁, notice, applied, hevent, _, _, _, advances⟩ :=
        intake_cases P r packet now
    · dsimp only
      rw [dropped]
      exact .inl ⟨rfl, fun _ => rfl⟩
    · dsimp only
      rw [refused]
      exact .inl ⟨rfl, flagged gid r suspect _ hr⟩
    · dsimp only
      rw [applied]
      have hgid : (r₁.advance event now).groupId = gid :=
        advances.groupId.1.trans (m.filed gid r hr)
      refine .inr ⟨gid, r, r₁.advance event now, event, hr, advances, hgid, hevent, ?_, ?_, rfl⟩
      · simp [save, hgid]
      · simp [get, parsed, save, hgid, get?_set_self]

end LocalGroupManager

def SkTask.Settled : SkTask → Prop
  | .drain _ (.linking _) => False
  | _ => True

namespace SenderKeyService
variable {P : Primitives} {X : ServicePrimitives} {s s' : SenderKeyService}

def epoch? (s : SenderKeyService) (gid : GroupId) : Option ℕ :=
  (s.record? gid).map epoch

lemma onGroupEvent_cases (P) (s : SenderKeyService) (packet now) :
    (∃ groups, s.onGroupEvent P packet now = { s with groups } ∧
      ∀ gid, ({ s with groups } : SenderKeyService).epoch? gid = s.epoch? gid) ∨
    ∃ groups gid e record event, s.epoch? gid = some e ∧ record.groupId = gid ∧
      record.epoch = e + 1 ∧
      (∀ gid', ({ s with groups } : SenderKeyService).epoch? gid' =
        if gid' = gid then some (e + 1) else s.epoch? gid') ∧
      s.onGroupEvent P packet now =
        ({ s with groups } : SenderKeyService).onRecordState record event := by
  rcases s.groups.onGroupEvent_epochs P packet now with
    ⟨silent, epochs⟩ | ⟨gid, r, r', event, hr, advances, hgid, hevent, records, got, heard⟩
  · refine .inl ⟨(s.groups.onGroupEvent P packet now).1, ?_, epochs⟩
    simp [onGroupEvent, silent]
  · obtain ⟨notice, heard⟩ := isSome_iff_exists.mp heard
    refine .inr ⟨(s.groups.onGroupEvent P packet now).1, gid, r.epoch, r', event, ?_, hgid,
      advances.epoch.2, ?_, ?_⟩
    · rw [epoch?, record?, hr, map_some]
    · intro gid'
      simp only [epoch?, record?, records, get?_set]
      split_ifs
      · rw [map_some, advances.epoch.2]
      · rfl
    · simp [onGroupEvent, heard, got, hevent]

structure Frame (s s' : SenderKeyService) : Prop where
  me : s'.me = s.me
  groups : s'.groups = s.groups
  store : s'.store = s.store
  runtimes : s'.runtimes = s.runtimes
  tasks : s'.tasks = s.tasks

lemma Frame.refl (s) : Frame s s := ⟨rfl, rfl, rfl, rfl, rfl⟩

lemma Frame.trans {s₁ s₂ s₃} (h : Frame s₁ s₂) (h' : Frame s₂ s₃) : Frame s₁ s₃ :=
  ⟨h'.me.trans h.me, h'.groups.trans h.groups, h'.store.trans h.store,
    h'.runtimes.trans h.runtimes, h'.tasks.trans h.tasks⟩

section
variable (s)

lemma frame_mark (ref f state) : Frame s (s.mark ref f state) := by
  unfold mark
  split
  · exact Frame.refl s
  · exact ⟨rfl, rfl, rfl, rfl, rfl⟩

lemma frame_markKept (gid id f state) :
    Frame s (s.markKept gid id f state) := by
  unfold markKept
  split
  · exact Frame.refl s
  · split_ifs
    · exact frame_mark s _ f state
    · exact Frame.refl s

lemma frame_retryQueue (gid f) : Frame s (s.retryQueue gid f).2 := by
  unfold retryQueue
  split
  · exact Frame.refl s
  · exact ⟨rfl, rfl, rfl, rfl, rfl⟩

lemma frame_setDeque (q entries) :
    Frame s (s.setDeque q entries) := ⟨rfl, rfl, rfl, rfl, rfl⟩

lemma frame_skRetryAdd (gid f entry) :
    Frame s (s.skRetryAdd gid f entry) := by
  have queued := frame_retryQueue s gid f
  refine Runs.foldl_keeps ?_ _ (queued.trans (frame_setDeque _ _ _))
  intro s dropped before
  exact before.trans (frame_markKept s gid dropped.messageId f .failed)

end

lemma frame_requeueLedger (gid member s ref) : Frame s (requeueLedger gid member s ref) := by
  unfold requeueLedger
  split
  · exact Frame.refl s
  · split_ifs
    · split
      · exact frame_mark s ref member .failed
      · exact (frame_skRetryAdd s gid member _).trans (frame_mark _ ref member .queued)
    · exact Frame.refl s

section
variable (s)

lemma frame_skOfflineRequeue (gid member) :
    Frame s (s.skOfflineRequeue gid member) :=
  Runs.foldl_keeps (fun s ref before => before.trans (frame_requeueLedger gid member s ref)) _
    (Frame.refl s)

lemma frame_applyGack (gid f id) : Frame s (s.applyGack gid f id) := by
  unfold applyGack
  split
  · exact Frame.refl s
  · split
    · exact Frame.refl s
    · split_ifs
      · exact frame_mark s _ f .delivered
      · exact Frame.refl s

lemma frame_distributionSent (job) :
    Frame s (s.distributionSent job) := ⟨rfl, rfl, rfl, rfl, rfl⟩

lemma frame_forwardMessage (gid epoch f message) :
    Frame s (s.forwardMessage gid epoch f message) :=
  ⟨rfl, rfl, rfl, rfl, rfl⟩

end

structure Aligned (s : SenderKeyService) : Prop where
  counted : ∀ gid, 1 ≤ (s.runtime gid).nextGseq
  level : ∀ gid e c, s.epoch? gid = some e → s.store.outgoingChain gid.val e = some c →
    c.nextIndex = (s.runtime gid).nextGseq
  behind : ∀ gid e c, s.store.outgoingChain gid.val e = some c →
    ∃ e', s.epoch? gid = some e' ∧ e ≤ e'
  drains : ∀ id q e, s.tasks.get? id = some (.drain q (.linking e)) →
    ∃ e', s.epoch? q.groupId = some e' ∧ e ≤ e'

lemma aligned_start (me groups) : Aligned (start me groups) where
  counted := fun _ => Nat.le_refl 1
  level := fun _ _ _ _ none => nomatch none
  behind := fun _ _ _ none => nomatch none
  drains := fun _ _ _ none => nomatch none

lemma Aligned.frame (h : Aligned s) (f : Frame s s') : Aligned s' := by
  have epochs : s'.epoch? = s.epoch? := by funext gid; simp only [epoch?, record?, f.groups]
  have counters : s'.runtime = s.runtime := by funext gid; simp only [runtime, f.runtimes]
  refine ⟨?_, ?_, ?_, ?_⟩
  · rw [counters]
    exact h.counted
  · rw [epochs, counters, f.store]
    exact h.level
  · rw [epochs, f.store]
    exact h.behind
  · rw [epochs, f.tasks]
    exact h.drains

variable {task : SkTask} {c chain : OutgoingChain} {e : ℕ} {text : String}

lemma Aligned.suspend (h : Aligned s) (id) (settled : task.Settled) :
    Aligned (s.suspend id task) := by
  refine ⟨h.counted, h.level, h.behind, ?_⟩
  intro id' t e found
  rcases get?_of_set found with ⟨-, rfl⟩ | ⟨-, old⟩
  · exact settled.elim
  · exact h.drains id' t e old

lemma Aligned.finish (h : Aligned s) (id) : Aligned (s.finish id) := by
  refine ⟨h.counted, h.level, h.behind, ?_⟩
  intro id' t e found
  exact h.drains id' t e (get?_of_erase found)

lemma Aligned.nextLeg (h : Aligned s) (id t) : Aligned (s.nextLeg id t) := by
  unfold SenderKeyService.nextLeg
  split
  · exact h.finish id
  · exact (h.frame (frame_mark s _ _ _)).suspend id trivial

lemma Aligned.drainNext (h : Aligned s) (id q linkEpoch) :
    Aligned (s.drainNext id q linkEpoch) := by
  unfold SenderKeyService.drainNext
  split
  · exact h.finish id
  · split
    · exact h.finish id
    · split_ifs
      · exact h.finish id
      · exact h.suspend id trivial

lemma ensureOutgoing_cases (S) (k : SenderKeyStore) (groupId epoch sender start root) :
    (∃ c, k.outgoingChain groupId epoch = some c ∧
      k.ensureOutgoing S groupId epoch sender start root = (c, k)) ∨
    k.outgoingChain groupId epoch = none ∧ ∃ k', k'.outgoing = k.outgoing.set (groupId, epoch)
        (k.ensureOutgoing S groupId epoch sender start root).1 ∧
      (k.ensureOutgoing S groupId epoch sender start root).2 = k' ∧
      ∃ gen, 1 ≤ gen ∧ (k.ensureOutgoing S groupId epoch sender start root).1 = OutgoingChain.make S
        { groupId, epoch, sender, gen } root
        (start.getD ((k.startIndex.get? (groupId, epoch)).getD 1)) := by
  unfold outgoingChain ensureOutgoing
  cases found : k.outgoing.get? (groupId, epoch) with
  | some c => exact .inl ⟨c, rfl, rfl⟩
  | none => exact .inr ⟨rfl, _, rfl, rfl, _, Nat.le_add_left 1 _, rfl⟩

lemma sendSkDistribution_outgoing (X) (s : SenderKeyService) (gid epoch f index root) :
    ∃ store, (s.sendSkDistribution X gid epoch f index root).1 = { s with store } ∧
      (store.outgoing = s.store.outgoing ∨ s.store.outgoingChain gid.val epoch = none ∧
        ∃ c, store.outgoing = s.store.outgoing.set (gid.val, epoch) c) := by
  refine ⟨(s.store.ensureOutgoing X.toSenderKeyPrimitives gid.val epoch s.me.val none root).2,
    ?_, ?_⟩
  · simp only [sendSkDistribution]
    split_ifs <;> rfl
  · rcases ensureOutgoing_cases X.toSenderKeyPrimitives s.store gid.val epoch s.me.val none root with
      ⟨c, -, found⟩ | ⟨absent, k', outgoing, made, -⟩
    · rw [found]
      exact .inl rfl
    · rw [made]
      exact .inr ⟨absent, _, outgoing⟩

variable {gid : GroupId} {record : LocalGroupRecord}

lemma outgoing_set_ne {k : Dict (String × ℕ) OutgoingChain} {gid' : GroupId} {e'}
    (h : ¬ (gid' = gid ∧ e' = e)) :
    (k.set (gid.val, e) c).get? (gid'.val, e') = k.get? (gid'.val, e') := by
  apply get?_set_ne
  rintro same
  obtain ⟨group, epoch⟩ := Prod.mk.inj same
  exact h ⟨Subtype.ext group, epoch⟩

lemma Aligned.sendSkDistribution (h : Aligned s) (X) {epoch} (f index root)
    (current : s.epoch? gid = some e) (past : epoch ≤ e)
    (ready : epoch = e → (s.store.outgoingChain gid.val epoch).isSome) :
    Aligned (s.sendSkDistribution X gid epoch f index root).1 := by
  obtain ⟨store, eq, chains⟩ := sendSkDistribution_outgoing X s gid epoch f index root
  rw [eq]
  rcases chains with same | ⟨absent, c, set⟩
  · refine ⟨h.counted, ?_, ?_, h.drains⟩
    · intro gid' e' c' he hc
      exact h.level gid' e' c' he (by rwa [outgoingChain, ← same])
    · intro gid' e' c' hc
      exact h.behind gid' e' c' (by rwa [outgoingChain, ← same])
  · -- the new chain belongs to an epoch that is over
    have ended : epoch ≠ e := by
      intro now
      rw [absent] at ready
      exact absurd (ready now) (by decide)
    refine ⟨h.counted, ?_, ?_, h.drains⟩
    · intro gid' e' c' he hc
      have other : ¬ (gid' = gid ∧ e' = epoch) := by
        rintro ⟨rfl, rfl⟩
        exact ended (Option.some.inj (he.symm.trans current))
      rw [outgoingChain, set, outgoing_set_ne other] at hc
      exact h.level gid' e' c' he hc
    · intro gid' e' c' hc
      by_cases same : gid' = gid ∧ e' = epoch
      · obtain ⟨rfl, rfl⟩ := same
        exact ⟨e, current, past⟩
      · rw [outgoingChain, set, outgoing_set_ne same] at hc
        exact h.behind gid' e' c' hc

lemma requireSendable_ok (h : s.requireSendable gid = .ok record) :
    s.record? gid = some record ∧ record.groupId = gid ∧ record.myFingerprint = s.me ∧
      ∃ m, record.members.get? s.me = some m :=
  LocalGroupManager.requireSendable_ok h

lemma epoch?_of_record (found : s.record? gid = some record) : s.epoch? gid = some record.epoch := by
  rw [epoch?, found, map_some]

lemma epoch?_of_sendable (sendable : s.requireSendable gid = .ok record) :
    s.epoch? gid = some record.epoch :=
  epoch?_of_record (requireSendable_ok sendable).1

lemma takeSeq_chain (h : Aligned s)
    (sendable : s.requireSendable gid = .ok record) (text d recipients) :
    (s.takeSeq X record text d recipients).1.nextIndex = (s.runtime record.groupId).nextGseq := by
  obtain ⟨found, rfl, -⟩ := requireSendable_ok sendable
  show (s.store.ensureOutgoing X.toSenderKeyPrimitives record.groupId.val record.epoch s.me.val
    (some (s.runtime record.groupId).nextGseq) d.root).1.nextIndex = _
  rcases ensureOutgoing_cases X.toSenderKeyPrimitives s.store record.groupId.val record.epoch
    s.me.val (some (s.runtime record.groupId).nextGseq) d.root with
    ⟨c, exists_, eq⟩ | ⟨-, -, -, -, gen, -, made⟩
  · rw [eq]
    exact h.level record.groupId record.epoch c (epoch?_of_record found) exists_
  · rw [made]
    exact if_pos (h.counted record.groupId)

lemma sealText_ok {m : GroupMember} {seq} (X d)
    (named : s.nameOf record.groupId s.me = m.displayName) (positive : 1 ≤ seq)
    (position : chain.nextIndex = seq) (short : ¬ text.utf8ByteSize > groupMsgMaxBytes) :
    ∃ sealed chain', s.sealText X record chain seq text d = .ok (sealed, chain') ∧
      chain'.nextIndex = seq + 1 := by
  have built := @gmsgFrame_member X.dumps record.groupId record.epoch s.me none nofun d.messageId
    seq m text d.ts short
  obtain ⟨sealed, chain', sealing, next⟩ := chain.sealAt_nextIndex X.toSenderKeyPrimitives
    record.groupId.val s.me.val record.epoch d.nonce _
    (groupSkMsgAad record.groupId record.epoch s.me chain.gen seq) positive position
  refine ⟨sealed, chain', ?_, next⟩
  unfold sealText
  rw [named, built]
  dsimp only
  rw [sealing]

lemma nameOf_me (sendable : s.requireSendable gid = .ok record) :
    ∃ m : GroupMember, s.nameOf record.groupId s.me = m.displayName := by
  obtain ⟨m, -, named⟩ := LocalGroupManager.nameOf_me sendable
  exact ⟨m, named⟩

lemma Aligned.seals (h : Aligned s) (sendable : s.requireSendable gid = .ok record)
    (short : ¬ text.utf8ByteSize > groupMsgMaxBytes) (d recipients) :
    ∃ sealed chain, (s.takeSeq X record text d recipients).2.sealText X record
        (s.takeSeq X record text d recipients).1 (s.runtime record.groupId).nextGseq text d =
        .ok (sealed, chain) ∧
      chain.nextIndex = (s.runtime record.groupId).nextGseq + 1 := by
  obtain ⟨m, named⟩ := nameOf_me sendable
  exact sealText_ok X d named (h.counted record.groupId)
    (takeSeq_chain h sendable text d recipients) short

lemma takeSeq_outgoing_ne (X) (s : SenderKeyService) (record : LocalGroupRecord) (text d recipients)
    (h : ¬ (gid = record.groupId ∧ e = record.epoch)) :
    (s.takeSeq X record text d recipients).2.store.outgoingChain gid.val e =
      s.store.outgoingChain gid.val e := by
  show (s.store.ensureOutgoing X.toSenderKeyPrimitives record.groupId.val record.epoch s.me.val
    (some (s.runtime record.groupId).nextGseq) d.root).2.outgoingChain gid.val e = _
  rcases ensureOutgoing_cases X.toSenderKeyPrimitives s.store record.groupId.val record.epoch
    s.me.val (some (s.runtime record.groupId).nextGseq) d.root with
    ⟨c, -, eq⟩ | ⟨-, k', outgoing, eq, -⟩
  · rw [eq]
  · simp [eq, outgoingChain, outgoing, outgoing_set_ne h]

lemma takeSeq_nextGseq (X) (s : SenderKeyService)
    (record : LocalGroupRecord) (text d recipients gid) :
    ((s.takeSeq X record text d recipients).2.runtime gid).nextGseq =
      if gid = record.groupId then (s.runtime record.groupId).nextGseq + 1
      else (s.runtime gid).nextGseq := by
  simp only [takeSeq, runtime, get?_set]
  split_ifs <;> rfl

lemma Aligned.keepSealed (h : Aligned s)
    (sendable : s.requireSendable gid = .ok record) (text d recipients message)
    (next : chain.nextIndex = (s.runtime record.groupId).nextGseq + 1) :
    Aligned ((s.takeSeq X record text d recipients).2.keepSealed record chain message) := by
  obtain ⟨found, rfl, -⟩ := requireSendable_ok sendable
  have current := epoch?_of_record found
  have counters := takeSeq_nextGseq X s record text d recipients
  have chains : ∀ gid' e', ¬ (gid' = record.groupId ∧ e' = record.epoch) →
      ((s.takeSeq X record text d recipients).2.keepSealed record chain message).store.outgoingChain
        gid'.val e' = s.store.outgoingChain gid'.val e' := by
    intro gid' e' other
    exact (outgoing_set_ne other).trans (takeSeq_outgoing_ne X s record text d recipients other)
  have own : ((s.takeSeq X record text d recipients).2.keepSealed record chain
      message).store.outgoingChain record.groupId.val record.epoch = some chain :=
    get?_set_self _ _ _
  refine ⟨?_, ?_, ?_, h.drains⟩
  · intro gid'
    refine (counters gid').symm ▸ ?_
    split_ifs
    · exact Nat.le_add_left 1 _
    · exact h.counted gid'
  · intro gid' e' c he hc
    refine (counters gid').symm ▸ ?_
    by_cases same : gid' = record.groupId
    · subst same
      cases current.symm.trans he
      cases own.symm.trans hc
      rw [if_pos rfl, next]
    · rw [chains gid' e' fun both => same both.1] at hc
      rw [if_neg same]
      exact h.level gid' e' c he hc
  · intro gid' e' c hc
    by_cases same : gid' = record.groupId ∧ e' = record.epoch
    · obtain ⟨rfl, rfl⟩ := same
      exact ⟨record.epoch, current, Nat.le_refl _⟩
    · rw [chains gid' e' same] at hc
      exact h.behind gid' e' c hc

def outOfOrder (index next : ℕ) : GroupError :=
  { kind := .message,
    message := s!"Sender-key index {index} out of order (next is {next}).",
    hint := "Could not build the sender-key frame." }

lemma Aligned.sendSenderKey (h : Aligned s) (sendable : s.requireSendable gid = .ok record)
    (short : ¬ text.utf8ByteSize > groupMsgMaxBytes) (d) :
    Aligned (s.sendSenderKey X record text d).1 ∧
      ∀ i n, (s.sendSenderKey X record text d).2 ≠ .error (outOfOrder i n) := by
  unfold SenderKeyService.sendSenderKey
  dsimp only
  split_ifs
  · exact ⟨h, fun i n eq => absurd (congrArg GroupError.hint (Except.error.inj eq)) (by
      show "Invite members first (ghostlink group invite)." ≠ "Could not build the sender-key frame."
      decide)⟩
  · obtain ⟨sealed, chain, sealing, next⟩ := h.seals sendable short d (s.recipientsOf record)
    rw [sealing]
    refine ⟨?_, fun i n eq => nomatch eq⟩
    have kept := h.keepSealed (X := X) sendable text d (s.recipientsOf record)
      { messageId := d.messageId, gen := (s.takeSeq X record text d (s.recipientsOf record)).1.gen,
        seq := (s.runtime record.groupId).nextGseq, sealed } next
    apply Aligned.nextLeg
    exact { kept with }

lemma Aligned.send (h : Aligned s) (gid text d) : Aligned (s.send X gid text d).1 ∧
      ∀ i n, (s.send X gid text d).2 ≠ .error (outOfOrder i n) := by
  unfold SenderKeyService.send
  split
  · rename_i e refused
    refine ⟨h, ?_⟩
    intro i n eq
    cases eq
    rcases checkSend_error refused with kind | hint
    · exact kind rfl
    · revert hint
      show ¬ "Could not build the sender-key frame." ∈ _
      decide
  · rename_i record checked
    obtain ⟨sendable, short⟩ := checkSend_ok checked
    exact h.sendSenderKey sendable short d

/-- The chain a step's `_send_sk_distribution` asks the store for. A key request looks for the
chain itself and asks for nothing it does not find. -/
def distributes (s : SenderKeyService) : Action → Option (GroupId × ℕ)
  | .resume id (.linked linkEpoch _) =>
    match s.tasks.get? id with
    | some (.send t .linking) =>
      match s.requireSendable t.groupId with
      | .ok record => if linkEpoch = record.epoch then some (t.groupId, record.epoch) else none
      | .error _ => none
    | some (.drain q (.linking epoch)) =>
      if (s.deque q).isEmpty then none else some (q.groupId, epoch)
    | _ => none
  | _ => none

def Prepared (s : SenderKeyService) (action : Action) : Prop :=
  ∀ key ∈ s.distributes action, s.epoch? key.1 = some key.2 →
    (s.store.outgoingChain key.1.val key.2).isSome

instance (s : SenderKeyService) (action : Action) : Decidable (Prepared s action) :=
  match h : s.distributes action with
  | none => .isTrue fun key mem => by rw [h] at mem; exact nomatch mem
  | some key => decidable_of_iff
      (s.epoch? key.1 = some key.2 → (s.store.outgoingChain key.1.val key.2).isSome) (by
        simp only [Prepared, h, mem_def, Option.some.injEq, forall_eq'])

section
variable (h : Aligned s)
include h

lemma Aligned.resumeSend {id t point outcome} (task : s.tasks.get? id = some (.send t point))
    (prepared : Prepared s (.resume id outcome)) : Aligned (s.resumeSend X id t point outcome) := by
  unfold SenderKeyService.resumeSend
  split
  · rename_i linkEpoch root
    split
    · exact (h.frame (frame_mark s _ _ _)).nextLeg id t
    · rename_i record sendable
      split_ifs with moved
      · exact h.nextLeg id t
      · have current := epoch?_of_sendable sendable
        have ready := prepared (t.groupId, record.epoch) (by
          simp [distributes, task, sendable, not_not.mp moved]) current
        have after := h.sendSkDistribution X t.member t.message.seq root current (Nat.le_refl _)
          fun _ => ready
        split
        · rename_i s₁ eq
          rw [eq] at after
          exact after.suspend id trivial
        · rename_i s₁ job eq
          rw [eq] at after
          exact after.suspend id trivial
  · exact ((h.frame (frame_skRetryAdd s _ _ _)).frame (frame_mark _ _ _ _)).nextLeg id t
  · exact (h.frame (frame_mark s _ _ _)).nextLeg id t
  · exact (h.frame (frame_mark s _ _ _)).nextLeg id t
  · exact h.suspend id trivial
  · exact (h.frame (frame_distributionSent s _)).suspend id trivial
  · exact h.suspend id trivial
  · exact (h.frame (frame_forwardMessage s _ _ _ _)).suspend id trivial
  · exact (h.frame (frame_mark s _ _ _)).nextLeg id t
  · exact (h.frame (frame_mark s _ _ _)).nextLeg id t
  · exact h

lemma Aligned.resumeDrain {id q point outcome} (task : s.tasks.get? id = some (.drain q point))
    (prepared : Prepared s (.resume id outcome)) :
    Aligned (s.resumeDrain X id q point outcome) := by
  unfold SenderKeyService.resumeDrain
  split
  · rename_i epoch linkEpoch root
    split
    · exact h.finish id
    · rename_i last hlast
      obtain ⟨e, current, past⟩ := h.drains id q epoch task
      have nonempty : (s.deque q).isEmpty = false := by
        cases hq : s.deque q with
        | nil => rw [hq] at hlast; exact nomatch hlast
        | cons => rfl
      have ready : epoch = e → (s.store.outgoingChain q.groupId.val epoch).isSome := by
        rintro rfl
        exact prepared (q.groupId, epoch) (by
          simp [distributes, task, nonempty])
          current
      have after := h.sendSkDistribution X q.member last.seq root current past ready
      split
      · rename_i s₁ eq
        rw [eq] at after
        exact after.drainNext id q linkEpoch
      · rename_i s₁ job eq
        rw [eq] at after
        exact after.suspend id trivial
  · exact h.finish id
  · exact h.finish id
  · exact h.finish id
  · exact h.suspend id trivial
  · exact (h.frame (frame_distributionSent s _)).drainNext id q _
  · exact h.drainNext id q _
  · exact (h.frame (frame_forwardMessage s _ _ _ _)).suspend id trivial
  · split
    · exact h.finish id
    · exact ((h.frame (frame_setDeque s _ _)).frame (frame_markKept _ _ _ _ _)).drainNext id q _
  · exact h.finish id
  · exact h

lemma Aligned.resumeRespond (id job stage outcome) :
    Aligned (s.resumeRespond id job stage outcome) := by
  unfold SenderKeyService.resumeRespond
  split
  · exact h.suspend id trivial
  · exact (h.frame (frame_distributionSent s job)).finish id
  · exact h.finish id
  · exact h

lemma Aligned.spawn (settled : ∀ q e, task = .drain q (.linking e) →
      ∃ e', s.epoch? q.groupId = some e' ∧ e ≤ e') : Aligned (s.spawn task) := by
  refine ⟨h.counted, h.level, h.behind, ?_⟩
  intro id t e found
  rcases get?_of_set found with ⟨-, new⟩ | ⟨-, old⟩
  · exact settled t e new.symm
  · exact h.drains id t e old

lemma Aligned.respond (gid f root) :
    Aligned (s.respondSkDistribution X gid f root) := by
  unfold respondSkDistribution
  split
  · exact h
  · rename_i record found
    split
    · exact h
    · rename_i chain hchain
      have current := epoch?_of_record found
      have after := h.sendSkDistribution X f chain.nextIndex root current (Nat.le_refl _)
        fun _ => by rw [hchain]; rfl
      split
      · rename_i s₁ eq
        rwa [eq] at after
      · rename_i s₁ job eq
        rw [eq] at after
        exact after.spawn fun _ _ eq => nomatch eq

lemma Aligned.drain (gid f) : Aligned (s.drainSkRetry gid f) := by
  unfold drainSkRetry
  split
  · exact h
  · dsimp only
    split_ifs
    · exact h
    · split
      · exact h
      · rename_i record sendable
        apply h.spawn
        intro t e eq
        cases eq
        exact ⟨record.epoch, epoch?_of_sendable sendable, Nat.le_refl _⟩

end

lemma onRecordState_outgoing (s : SenderKeyService) (record : LocalGroupRecord) (event)
    (h : (s.onRecordState record event).store.outgoingChain gid.val e = some c) :
    s.store.outgoingChain gid.val e = some c ∧ (gid = record.groupId → e = record.epoch) := by
  have pruned : (s.store.pruneEpoch record.groupId.val record.epoch).outgoingChain gid.val e =
      some c := by
    unfold onRecordState at h
    dsimp only at h
    split_ifs at h
    · exact ((get?_filter _ _ _ _).mp h).1
    · exact ((get?_filter _ _ _ _).mp h).1
    · exact h
    · exact h
  have kept := (get?_filter _ _ _ _).mp pruned
  refine ⟨kept.1, ?_⟩
  rintro rfl
  simpa using kept.2

lemma onRecordState_frame (s : SenderKeyService) (record event) :
    (s.onRecordState record event).runtimes = s.runtimes ∧
      (s.onRecordState record event).tasks = s.tasks ∧
      (s.onRecordState record event).groups = s.groups := by
  unfold onRecordState
  dsimp only
  split_ifs <;> exact ⟨rfl, rfl, rfl⟩

lemma Aligned.groupEvent (h : Aligned s) (packet now) :
    Aligned (s.onGroupEvent P packet now) := by
  rcases onGroupEvent_cases P s packet now with
    ⟨groups, eq, epochs⟩ | ⟨groups, gid, e, record, event, current, hgid, hepoch, epochs, eq⟩
  · rw [eq]
    refine ⟨h.counted, ?_, ?_, ?_⟩
    · intro gid e c he
      rw [epochs] at he
      exact h.level gid e c he
    · intro gid e c hc
      rw [epochs]
      exact h.behind gid e c hc
    · intro id t e found
      rw [epochs]
      exact h.drains id t e found
  · obtain ⟨runtimes, tasks, same⟩ :=
      onRecordState_frame ({ s with groups } : SenderKeyService) record event
    have epochs' : ∀ gid', (s.onGroupEvent P packet now).epoch? gid' =
        if gid' = gid then some (e + 1) else s.epoch? gid' := by
      intro gid'
      rw [eq, ← epochs gid']
      simp [epoch?, record?, same]
    have counters : ∀ gid', (s.onGroupEvent P packet now).runtime gid' = s.runtime gid' := by
      intro gid'
      rw [eq]
      simp [runtime, runtimes]
    -- an epoch only grows, so whatever was behind it still is
    have grows : ∀ gid' e', s.epoch? gid' = some e' →
        ∃ e'', (s.onGroupEvent P packet now).epoch? gid' = some e'' ∧ e' ≤ e'' := by
      intro gid' e' he
      rw [epochs']
      split_ifs with own
      · rw [own, current] at he
        cases he
        exact ⟨e + 1, rfl, Nat.le_succ e⟩
      · exact ⟨e', he, Nat.le_refl _⟩
    have chains : ∀ gid' e' c, (s.onGroupEvent P packet now).store.outgoingChain gid'.val e' =
        some c → s.store.outgoingChain gid'.val e' = some c ∧ (gid' = gid → e' = e + 1) := by
      intro gid' e' c hc
      rw [eq] at hc
      have := onRecordState_outgoing _ record event hc
      rwa [hgid, hepoch] at this
    have behind : ∀ gid' e' c, (s.onGroupEvent P packet now).store.outgoingChain gid'.val e' =
        some c → ∃ e'', (s.onGroupEvent P packet now).epoch? gid' = some e'' ∧ e' ≤ e'' := by
      intro gid' e' c hc
      obtain ⟨e₀, he₀, le⟩ := h.behind gid' e' c (chains gid' e' c hc).1
      obtain ⟨e₁, he₁, le'⟩ := grows gid' e₀ he₀
      exact ⟨e₁, he₁, le.trans le'⟩
    refine ⟨?_, ?_, behind, ?_⟩
    · intro gid'
      rw [counters]
      exact h.counted gid'
    · intro gid' e' c he hc
      obtain ⟨old, only⟩ := chains gid' e' c hc
      rw [counters]
      rw [epochs'] at he
      split_ifs at he with own
      · -- the group's chains of the new epoch would have been ahead of it
        obtain ⟨e₀, he₀, le⟩ := h.behind gid' e' c old
        rw [own, current] at he₀
        cases he₀
        cases he
        exact absurd le (Nat.not_succ_le_self e)
      · exact h.level gid' e' c he old
    · intro id t e' found
      rw [eq, tasks] at found
      obtain ⟨e₀, he₀, le⟩ := h.drains id t e' found
      obtain ⟨e₁, he₁, le'⟩ := grows t.groupId e₀ he₀
      exact ⟨e₁, he₁, le.trans le'⟩

lemma Aligned.step (h : Aligned s) (action) (prepared : Prepared s action) :
    Aligned (step P X s action) := by
  cases action with
  | send gid text d => exact (h.send gid text d).1
  | drain gid member => exact h.drain gid member
  | respond gid requester root => exact h.respond gid requester root
  | resume id outcome =>
    simp only [SenderKeyService.step]
    split
    · exact h
    · exact h.resumeSend (by assumption) prepared
    · exact h.resumeDrain (by assumption) prepared
    · exact h.resumeRespond id _ _ outcome
  | groupEvent packet now => exact h.groupEvent packet now
  | offline gid member =>
    simp only [SenderKeyService.step]
    split_ifs
    · exact h.frame (frame_skOfflineRequeue s gid member)
    · exact h
  | gack gid sender id => exact h.frame (frame_applyGack s gid sender id)

/-- In every interleaving in which each distribution for a group's current epoch finds the
group's chain, that chain stands at the transcript counter and no send is out of order. -/
theorem chain_aligned_with_transcript (P : Primitives) (X : ServicePrimitives) (me : Fingerprint)
    (groups : LocalGroupManager) (actions : List Action)
    (prepared : Runs.Along (step P X) Prepared (start me groups) actions) :
    let s := run P X (start me groups) actions
    (∀ gid r c, s.record? gid = some r → s.store.outgoingChain gid.val r.epoch = some c →
      c.nextIndex = (s.runtime gid).nextGseq) ∧
    ∀ gid text d i n, (s.send X gid text d).2 ≠ .error (outOfOrder i n) := by
  intro s
  have h : Aligned s := prepared.invariant (aligned_start me groups)
    fun s action h ok => h.step action ok
  refine ⟨?_, fun gid text d => (h.send gid text d).2⟩
  intro gid r c found hc
  exact h.level gid r.epoch c (epoch?_of_record found) hc

open GroupAuthority (plainPrimitives plainKey noon nightWatch bob)
open Mirror (alice aliceRecord joiner)

lemma carol_wellFormed : fullmatch fingerprintPattern "GLFP-0000-0200-0000".toList := by
  decide

def carol : Fingerprint := ⟨"GLFP-0000-0200-0000", carol_wellFormed⟩

def trio : LocalGroupRecord :=
  { aliceRecord with
    members := aliceRecord.members.set carol (joiner carol '2') }

def trioManager : LocalGroupManager where
  identity := none
  records := Dict.empty.set nightWatch trio
  applyErrors := Dict.empty
  filed gid r h := by
    rw [get?_set] at h
    split_ifs at h with same
    · cases h
      exact same.symm
    · exact nomatch h

def plainService : ServicePrimitives :=
  { Reception.plainSenderKeys with dumps := fun fields => ascii fields.text }

def drawn (digit : Char) (h : isHexLower digit) : Draw where
  messageId := ⟨String.ofList ("gmsg_".toList ++ List.replicate 15 '0' ++ [digit]), by
    simp [isValidMessageId, messageIdPattern, lit, fullmatch, List.replicate, h]
    decide⟩
  ts := 0
  nonce := Vector.replicate 12 0
  root := Reception.plainRoot

def firstDraw : Draw := drawn '0' (by decide)
def secondDraw : Draw := drawn '1' (by decide)

def carolLeaves : EventPacket where
  group := nightWatch.val
  fields := some
    { epoch := 3, kind := .left, subject := carol.val, wallTs := noon.wall, signer := carol.val,
      signature := List.replicate 64 0 }
  member := none

def bobReturns : List Action :=
  [.send nightWatch "hi" firstDraw, .resume 0 .offline, .resume 0 .offline,
    .groupEvent carolLeaves noon.wall, .drain nightWatch bob,
    .resume 1 (.linked 3 Reception.plainRoot)]

/-- The drain finds no chain of the new epoch and makes one that starts at index one. -/
theorem drain_starts_chain_at_one :
    let s := run plainPrimitives plainService (start alice trioManager) bobReturns
    s.tasks.keys = [1] ∧ s.epoch? nightWatch = some 3 ∧
      (s.store.outgoingChain nightWatch.val 3).map OutgoingChain.nextIndex = some 1 ∧
      (s.runtime nightWatch).nextGseq = 2 ∧
      (s.send plainService nightWatch "again" (drawn '1' (by decide))).2 =
        .error (outOfOrder 2 1) := by
  decide +kernel

def aliceTalks : List Action :=
  [.send nightWatch "hi" firstDraw, .resume 0 (.linked 2 Reception.plainRoot),
    .resume 0 .paced, .resume 0 .forwarded, .resume 0 .paced, .resume 0 .forwarded,
    .resume 0 .offline, .groupEvent carolLeaves noon.wall,
    .send nightWatch "again" secondDraw]

theorem chain_aligned_after_leap :
    let s := run plainPrimitives plainService (start alice trioManager) aliceTalks
    Runs.Along (step plainPrimitives plainService) Prepared (start alice trioManager) aliceTalks ∧
      (s.store.outgoingChain nightWatch.val 3).map OutgoingChain.nextIndex = some 3 ∧
      (∀ r c, s.record? nightWatch = some r →
        s.store.outgoingChain nightWatch.val r.epoch = some c →
        c.nextIndex = (s.runtime nightWatch).nextGseq) ∧
      ∀ i n, (s.send plainService nightWatch "more" (drawn '2' (by decide))).2 ≠
        .error (outOfOrder i n) := by
  intro s
  have prepared : Runs.Along (step plainPrimitives plainService) Prepared
      (start alice trioManager) aliceTalks := by decide +kernel
  have aligned := chain_aligned_with_transcript plainPrimitives plainService alice trioManager
    aliceTalks prepared
  exact ⟨prepared, by decide +kernel, fun r c => aligned.1 nightWatch r c,
    fun i n => aligned.2 nightWatch "more" _ i n⟩

end SenderKeyService
end Ghostlink.Groups
