import Ghostlink.Groups.SenderKeyCoverage

/-! The traffic of a sender-key service keeps its invariant: what is put on the wire fits the
chains that were handed out, and distributions, sends, drains of the retry queues and answers
to key requests only move messages from one place to another. -/

namespace Ghostlink.Groups
open Collections Text List

namespace SenderKeyService
variable {P : Primitives} {X : ServicePrimitives} {s s' : SenderKeyService}

variable {e : ℕ} {gid : GroupId} {m : SealedMessage} {t : SendTask}

variable {f : Fingerprint} {stage : Stage} {job : SkJob} {id : ℕ} {q : QueueRef}

lemma Sound.openable (h : Sound X s) (known : Known X s gid m) (bound : Bound s gid f e m stage) :
    Openable X s.me s.wire (.skmsg gid e f m.gen m.seq m.sealed) := by
  obtain ⟨d₀, mem⟩ := bound.distributed
  obtain ⟨d, last⟩ := exists_lastDistributed mem
  obtain ⟨c, hc, gen, root⟩ :=
    (h.flow.handed gid e f d (mem_of_lastDistributed last)).chain bound.current
  obtain ⟨e', c', current, hc', gen', sealed⟩ := known.fits
  cases bound.current.symm.trans current
  cases hc.symm.trans hc'
  exact ⟨d, last, gen.symm.trans gen', root ▸ sealed⟩

lemma still_forwardMessage (s : SenderKeyService) (gid e f m) :
    Still s (s.forwardMessage gid e f m) :=
  ⟨rfl, rfl, rfl, rfl, rfl, rfl, rfl, fun _ mem => mem_append_left _ mem⟩

lemma Sound.forwardMessage (h : Sound X s) (known : Known X s gid m)
    (bound : Bound s gid f e m stage) : Sound X (s.forwardMessage gid e f m) := by
  refine h.still (still_forwardMessage s gid e f m) ⟨fun id task found => .inl ⟨id, found⟩,
    fun q reach m mem => .inl ⟨reach, mem⟩, fun _ _ _ => .inl, .inr ⟨_, rfl, ?_, ?_⟩⟩
  · exact h.openable known bound
  · intro gid' e' f' d eq
    exact nomatch eq

lemma still_distributionSent (s : SenderKeyService) (job) : Still s (s.distributionSent job) :=
  ⟨rfl, rfl, rfl, rfl, rfl, rfl, rfl, fun _ mem => mem_append_left _ mem⟩

lemma onWire_distributionSent (s : SenderKeyService) (job : SkJob) :
    OnWire (s.distributionSent job) job.groupId job.epoch job.recipient :=
  ⟨job.distribution, mem_append_right _ (mem_singleton.mpr rfl)⟩

lemma Sound.distributionSent (h : Sound X s)
    (handed : Handed s job.groupId job.epoch job.distribution) :
    Sound X (s.distributionSent job) := by
  have same := still_distributionSent s job
  refine h.still same ⟨fun id task found => .inl ⟨id, found⟩,
    fun q reach m mem => .inl ⟨reach, mem⟩, ?_, .inr ⟨_, rfl, trivial, ?_⟩⟩
  · intro gid f v found
    rcases Dict.get?_of_set found with ⟨own, rfl⟩ | ⟨-, old⟩
    · obtain ⟨rfl, rfl⟩ := Prod.mk.inj own
      exact .inr (onWire_distributionSent s job)
    · exact .inl old
  · intro gid e f d eq
    cases eq
    exact handed.ext (same.ext _)

lemma sendSkDistribution_of_chain {c : OutgoingChain} (f index root)
    (hc : s.store.outgoingChain gid.val e = some c) :
    s.sendSkDistribution X gid e f index root = (s, some ⟨gid, e, f, ⟨c.gen, index, c.root⟩⟩) ∨
    s.sendSkDistribution X gid e f index root = (s, none) ∧
      ((∃ v, s.distributed.get? (gid, f) = some v ∧ v.1 = e) ∨ e < 1 ∨ c.gen < 1 ∨ index < 1) := by
  have found : s.store.ensureOutgoing X.toSenderKeyPrimitives gid.val e s.me.val none root =
      (c, s.store) := by
    rcases ensureOutgoing_cases X.toSenderKeyPrimitives s.store gid.val e s.me.val none root with
      ⟨c', hc', eq⟩ | ⟨absent, -⟩
    · cases hc.symm.trans hc'
      exact eq
    · simp [hc] at absent
  simp only [sendSkDistribution, SenderKeyStore.outgoingDistribution, found,
    OutgoingChain.distribution, Option.getD_some]
  split_ifs with skipped
  · refine .inr ⟨rfl, ?_⟩
    rcases skipped with current | numbers
    · left
      unfold isDistributed at current
      cases mark : s.distributed.get? (gid, f) with
      | none =>
        simp [mark] at current
      | some v =>
        rw [mark] at current
        exact ⟨v, rfl, (of_decide_eq_true current).1⟩
    · exact .inr numbers
  · exact .inl rfl

lemma Sound.sendSkDistribution (h : Sound X s) {index} (f root) (current : s.epoch? gid = some e)
    (known : Known X s gid m) (numbered : 1 ≤ index) :
    (∃ job, s.sendSkDistribution X gid e f index root = (s, some job) ∧ Serves s gid f job ∧
      job.epoch = e) ∨
    s.sendSkDistribution X gid e f index root = (s, none) ∧ OnWire s gid e f := by
  obtain ⟨e', c, current', hc, -, -⟩ := known.fits
  cases current.symm.trans current'
  have gen := (h.grounded.chains gid e c hc).1
  have positive := h.grounded.positive gid e current
  rcases sendSkDistribution_of_chain f index root hc with job | ⟨none, reason⟩
  · refine .inl ⟨_, job, ⟨rfl, rfl, current, ?_⟩, rfl⟩
    exact ⟨⟨e, current, Nat.le_refl _⟩, fun _ => ⟨c, hc, rfl, rfl⟩⟩
  · refine .inr ⟨none, ?_⟩
    rcases reason with ⟨v, mark, rfl⟩ | low | low | low
    · exact h.flow.marks gid f v mark
    · omega
    · omega
    · omega

lemma Known.of_cache (h : Known X s gid m)
    {b : ℕ × ℕ × Bytes} (hb : s.sealedCache.get? m.messageId = some b) :
    Known X s gid ⟨m.messageId, b.1, b.2.1, b.2.2⟩ := by
  rwa [h.cached b hb]

section
variable (h : Sound X s)
include h

lemma Sound.report (known : Known X s t.groupId t.message)
    (reports : Reports s t) (f state) (forwarded : state = .sent →
      ∃ e, .skmsg t.groupId e f t.message.gen t.message.seq t.message.sealed ∈ s.wire) :
    Sound X (s.mark t.ledger f state) := by
  obtain ⟨l, found, id, group, seq⟩ := reports
  apply h.mark
  · intro _ l' found' b hb
    cases found.symm.trans found'
    rw [id] at hb
    rw [id, group]
    exact known.of_cache hb
  · intro sent l' found'
    cases found.symm.trans found'
    obtain ⟨e, mem⟩ := forwarded sent
    rw [group, seq]
    exact ⟨e, _, _, mem⟩

lemma Sound.nextLeg (id)
    (known : Known X s t.groupId t.message) (reports : Reports s t) : Sound X (s.nextLeg id t) := by
  unfold SenderKeyService.nextLeg
  split
  · exact h.finish id
  · rename_i member rest _
    have keeps := ext_mark s t.ledger member .sending t.groupId
    apply (h.report known reports member .sending nofun).suspend
    · exact ⟨known.ext keeps, Reports.ext keeps reports, trivial⟩
    · exact nofun

lemma Sound.reportNext (id)
    (known : Known X s t.groupId t.message) (reports : Reports s t) (f state) (forwarded : state = .sent →
      ∃ e, .skmsg t.groupId e f t.message.gen t.message.seq t.message.sealed ∈ s.wire) :
    Sound X ((s.mark t.ledger f state).nextLeg id t) := by
  have keeps := ext_mark s t.ledger f state t.groupId
  exact (h.report known reports f state forwarded).nextLeg id (known.ext keeps)
    (Reports.ext keeps reports)

lemma Sound.resumeSend {point outcome} (task : s.tasks.get? id = some (.send t point))
    (calm : s.calm P (.resume id outcome)) :
    Sound X (s.resumeSend X id t point outcome) := by
  obtain ⟨known, reports, ok⟩ := h.flow.tasks id _ task
  unfold SenderKeyService.resumeSend
  split
  · rename_i linkEpoch root
    split
    · exact h.reportNext id known reports t.member .failed (by rintro ⟨⟩)
    · rename_i record sendable
      split_ifs with moved
      · exact h.nextLeg id known reports
      · have current := epoch?_of_sendable sendable
        rcases h.sendSkDistribution t.member root current known known.numbered with
          ⟨job, eq, serves, -⟩ | ⟨eq, distributed⟩
        · rw [eq]
          exact h.suspend id ⟨known, reports, serves⟩ (by rintro _ _ ⟨⟩)
        · rw [eq]
          exact h.suspend id ⟨known, reports, current, distributed, (by rintro ⟨⟩)⟩ (by rintro _ _ ⟨⟩)
  · have keeps := ext_skRetryAdd h t.groupId t.member t.message t.groupId
    exact (h.skRetryAdd t.member known).reportNext id (known.ext keeps) (Reports.ext keeps reports)
      t.member .queued (by rintro ⟨⟩)
  · exact h.reportNext id known reports t.member .failed (by rintro ⟨⟩)
  · exact h.reportNext id known reports t.member .failed (by rintro ⟨⟩)
  · exact h.suspend id ⟨known, reports, ok⟩ (by rintro _ _ ⟨⟩)
  · rename_i job
    -- the member is handed the chain, and the message follows
    have serves : Serves s t.groupId t.member job := ok
    have same := (still_distributionSent s job).ext t.groupId
    have on := onWire_distributionSent s job
    rw [serves.groupId, serves.recipient] at on
    refine (h.distributionSent (serves.groupId ▸ serves.handed)).suspend id
      ⟨known.ext same, Reports.ext same reports, ?_, on, (by rintro ⟨⟩)⟩ (by rintro _ _ ⟨⟩)
    exact same.epoch.trans serves.current
  · simp [SenderKeyService.calm, handing, task] at calm
  · rename_i e
    have bound : Bound s t.groupId t.member e t.message .pacing := ok
    have same := (still_forwardMessage s t.groupId e t.member t.message).ext t.groupId
    refine (h.forwardMessage known bound).suspend id
      ⟨known.ext same, Reports.ext same reports, ?_⟩ (by rintro _ _ ⟨⟩)
    exact ⟨same.epoch.trans bound.current, bound.distributed.ext same, fun _ =>
      mem_append_right _ (mem_singleton.mpr rfl)⟩
  · rename_i e
    have bound : Bound s t.groupId t.member e t.message .forwarding := ok
    exact h.reportNext id known reports t.member .sent fun _ => ⟨e, bound.forwarded rfl⟩
  · exact h.reportNext id known reports t.member .failed (by rintro ⟨⟩)
  · exact h

lemma Sound.drainNext (id linkEpoch) (reachable : Reachable s q)
    (served : ∀ e, s.epoch? q.groupId = some e → OnWire s q.groupId e q.member) :
    Sound X (s.drainNext id q linkEpoch) := by
  unfold SenderKeyService.drainNext
  split
  · exact h.finish id
  · rename_i entry rest queue
    have known := h.flow.queues q reachable entry (by rw [queue]; exact mem_cons_self)
    split
    · exact h.finish id
    · rename_i record sendable
      split_ifs
      · exact h.finish id
      · have current := epoch?_of_sendable sendable
        refine h.suspend id ⟨⟨current, served _ current, (by rintro ⟨⟩)⟩, known⟩ ?_
        intro q' point eq
        cases eq
        exact reachable

lemma Sound.markSent (known : Known X s q.groupId m)
    (forwarded : .skmsg q.groupId e q.member m.gen m.seq m.sealed ∈ s.wire) :
    Sound X (s.markKept q.groupId m.messageId q.member .sent) := by
  unfold SenderKeyService.markKept
  split
  · exact h
  · rename_i ref kept
    split_ifs
    · obtain ⟨l, found, id, group⟩ := h.grounded.kept _ _ _ kept
      obtain ⟨ref', l', found', id', -, seq⟩ := known.owned
      -- one ledger carries the message's id
      cases h.grounded.unique ref' ref l' l found' found (id'.trans id.symm)
      cases found.symm.trans found'
      apply h.mark
      · intro _ l' found' b hb
        cases found.symm.trans found'
        rw [id] at hb
        rw [id, group]
        exact known.of_cache hb
      · intro _ l' found'
        cases found.symm.trans found'
        rw [group, seq]
        exact ⟨e, _, _, forwarded⟩
    · exact h

lemma Sound.resumeDrain {point outcome} (task : s.tasks.get? id = some (.drain q point))
    (calm : s.calm P (.resume id outcome)) :
    Sound X (s.resumeDrain X id q point outcome) := by
  have ok := h.flow.tasks id _ task
  have reachable : Reachable s q := .inr ⟨id, point, task⟩
  have again : ∀ point' q' point'', SkTask.drain q point' = .drain q' point'' → Reachable s q' := by
    intro point' q' point'' eq
    cases eq
    exact reachable
  unfold SenderKeyService.resumeDrain
  split
  · rename_i e linkEpoch root
    split
    · exact h.finish id
    · rename_i last hlast
      have current : s.epoch? q.groupId = some e := ok
      have known := h.flow.queues q reachable last (mem_of_getLast? hlast)
      rcases h.sendSkDistribution q.member root current known known.numbered with
        ⟨job, eq, serves, -⟩ | ⟨eq, distributed⟩
      · rw [eq]
        exact h.suspend id serves (again _)
      · rw [eq]
        apply h.drainNext id linkEpoch reachable
        intro e' current'
        cases current.symm.trans current'
        exact distributed
  · exact h.finish id
  · exact h.finish id
  · exact h.finish id
  · exact h.suspend id ok (again _)
  · rename_i linkEpoch job
    have serves : Serves s q.groupId q.member job := ok
    have same := (still_distributionSent s job).ext q.groupId
    have on := onWire_distributionSent s job
    rw [serves.groupId, serves.recipient] at on
    apply (h.distributionSent (serves.groupId ▸ serves.handed)).drainNext id linkEpoch reachable
    intro e' current'
    cases (same.epoch.trans serves.current).symm.trans current'
    exact on
  · simp [SenderKeyService.calm, handing, task] at calm
  · rename_i e m
    obtain ⟨bound, known⟩ : Bound s q.groupId q.member e m .pacing ∧ Known X s q.groupId m := ok
    have same := (still_forwardMessage s q.groupId e q.member m).ext q.groupId
    refine (h.forwardMessage known bound).suspend id ⟨?_, known.ext same⟩ ?_
    · exact ⟨same.epoch.trans bound.current, bound.distributed.ext same, fun _ =>
        mem_append_right _ (mem_singleton.mpr rfl)⟩
    · exact again _
  · rename_i e m
    obtain ⟨bound, known⟩ : Bound s q.groupId q.member e m .forwarding ∧ Known X s q.groupId m := ok
    split
    · exact h.finish id
    · rename_i first rest queue
      have popped : Sound X (s.setDeque q rest) := by
        apply h.setDeque
        intro m' mem
        exact h.flow.queues q reachable m' (by rw [queue]; exact mem_cons_of_mem _ mem)
      have known' : Known X (s.setDeque q rest) q.groupId m := { known with }
      have marked := popped.markSent known' (bound.forwarded rfl)
      have keeps := ext_markKept (s.setDeque q rest) q.groupId m.messageId q.member .sent q.groupId
      apply marked.drainNext id e
      · refine .inr ⟨id, .messaging e m .forwarding, ?_⟩
        rwa [(frame_markKept (s.setDeque q rest) q.groupId m.messageId q.member .sent).tasks]
      · intro e' current'
        have current : s.epoch? q.groupId = some e' := keeps.epoch.symm.trans current'
        cases bound.current.symm.trans current
        have on : OnWire (s.setDeque q rest) q.groupId e q.member := bound.distributed
        exact on.ext keeps
  · exact h.finish id
  · exact h

lemma Sound.drain (gid f) : Sound X (s.drainSkRetry gid f) := by
  unfold drainSkRetry
  split
  · exact h
  · rename_i serial queue
    dsimp only
    split_ifs
    · exact h
    · split
      · exact h
      · rename_i record sendable
        refine h.spawn (epoch?_of_sendable sendable) ?_
        intro q point eq
        cases eq
        exact .inl queue

lemma Sound.respond (gid f root) :
    Sound X (s.respondSkDistribution X gid f root) := by
  unfold respondSkDistribution
  split
  · exact h
  · rename_i record found
    split
    · exact h
    · rename_i chain hc
      have current := epoch?_of_record found
      rcases sendSkDistribution_of_chain f chain.nextIndex root hc with job | ⟨none, -⟩
      · rw [job]
        refine h.spawn ⟨⟨record.epoch, current, Nat.le_refl _⟩, ?_⟩ (by rintro _ _ ⟨⟩)
        intro _
        exact ⟨chain, hc, rfl, rfl⟩
      · rwa [none]

lemma Sound.resumeRespond (task : s.tasks.get? id = some (.respond job stage)) (outcome) :
    Sound X (s.resumeRespond id job stage outcome) := by
  have handed : Handed s job.groupId job.epoch job.distribution := h.flow.tasks id _ task
  unfold SenderKeyService.resumeRespond
  split
  · exact h.suspend id handed nofun
  · exact (h.distributionSent handed).finish id
  · exact h.finish id
  · exact h

end

end SenderKeyService
end Ghostlink.Groups
