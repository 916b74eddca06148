import Ghostlink.Groups.KeyResolution
import Ghostlink.Groups.Receiving

/-! The order in which sender-key messages arrive. The ratchet keeps the keys of skipped messages,
but the cursor of the sender only moves forward: what comes late is opened and then dropped. -/

namespace Ghostlink.Groups
open Collections List Dict Endpoint
open Messaging (SessionPrimitives)

namespace GseqTracker
variable {t : GseqTracker} {sender : Fingerprint} {n : ℤ}

lemma observe_accepts (h : (t.observe sender n).1.accepts) :
    (∀ c, t.last.get? sender = some c → c < n) ∧
      (t.observe sender n).2 = { t with last := t.last.set sender n } := by
  unfold observe at h ⊢
  cases found : t.last.get? sender with
  | none =>
    rw [found] at h
    split_ifs at h ⊢
    · cases h
    · exact ⟨fun c no => no.elim, rfl⟩
  | some last =>
    rw [found] at h
    dsimp only at h ⊢
    split_ifs at h ⊢ with old far
    · cases h
    · cases h
    · exact ⟨fun c eq => Option.some.inj eq ▸ lt_of_not_ge old, rfl⟩
    · exact ⟨fun c eq => Option.some.inj eq ▸ lt_of_not_ge old, rfl⟩

structure Ready (t : GseqTracker) (sender : Fingerprint) (n : ℤ) : Prop where
  step : 1 ≤ t.maxGap
  room : t.last.get? sender = none → t.last.size < t.maxSenders
  near : ∀ c, t.last.get? sender = some c → c < n ∧ n - c ≤ t.maxGap

lemma Ready.accepts (h : t.Ready sender n) : (t.observe sender n).1.accepts := by
  unfold observe
  cases found : t.last.get? sender with
  | none =>
    rw [if_neg (Nat.not_le.mpr (h.room found))]
    rfl
  | some last =>
    obtain ⟨less, close⟩ := h.near last found
    dsimp only
    rw [if_neg (not_le.mpr less), if_neg (not_lt.mpr close)]
    split_ifs <;> rfl

lemma Ready.next (h : t.Ready sender n) :
    Ready { t with last := t.last.set sender n } sender (n + 1) where
  step := h.step
  room none := absurd none (by rw [get?_set_self]; exact Option.some_ne_none n)
  near c found := by
    obtain rfl : n = c := Option.some.inj ((get?_set_self ..).symm.trans found)
    exact ⟨lt_add_one n, by rw [add_sub_cancel_left]; exact h.step⟩

end GseqTracker

namespace Receiver
variable {r : Receiver} {frame : MessageFrame} {linked : Bool}

lemma sendGack_fields (r : Receiver) (frame linked) :
    (r.sendGack frame linked).shownKeys = r.shownKeys ∧ (r.sendGack frame linked).gseq = r.gseq ∧
      (r.sendGack frame linked).seen = r.seen := by
  unfold sendGack
  split_ifs <;> exact ⟨rfl, rfl, rfl⟩

def Takes (r : Receiver) (frame : MessageFrame) : Prop :=
  r.seen.ids.contains frame.key = false ∧ (r.gseq.observe frame.sender frame.gseq).1.accepts

lemma receive_of_takes (h : r.Takes frame) (linked) :
    (r.receive frame linked).shownKeys = r.shownKeys ++ [frame.key] ∧
      (r.receive frame linked).gseq = (r.gseq.observe frame.sender frame.gseq).2 ∧
      (r.receive frame linked).seen = (r.seen.seen frame.key).2 := by
  have found := r.seen.seen_fst frame.key
  rw [h.1] at found
  unfold receive
  rw [show r.seen.seen frame.key = (false, (r.seen.seen frame.key).2) from Prod.ext found rfl]
  have accepts := h.2
  rcases observed : r.gseq.observe frame.sender frame.gseq with ⟨verdict, gseq⟩
  rw [observed] at accepts
  cases verdict with
  | duplicate | excessiveGap => cases accepts
  | new | gap =>
    simp only [observed]
    exact ⟨(sendGack_fields _ _ _).1.trans (map_append ..), (sendGack_fields _ _ _).2⟩

lemma receive_of_not_takes (h : ¬ r.Takes frame) (linked) :
    (r.receive frame linked).shownKeys = r.shownKeys := by
  cases known : r.seen.ids.contains frame.key with
  | true =>
    rw [receive_of_contains known]
    exact (sendGack_fields _ _ _).1
  | false =>
    rcases @receive_of_not_contains r frame linked known with ⟨-, eq⟩ | ⟨accepts, -⟩
    · rw [eq]
      rfl
    · exact absurd ⟨known, accepts⟩ h

end Receiver

def messageFrame? (frame : GroupInnerFrame) : Option MessageFrame :=
  if valid : isValidMessageId frame.messageId then
    some { groupId := frame.groupId, epoch := frame.epoch.toNat, sender := frame.sender
           recipient := frame.recipient, messageId := ⟨frame.messageId, valid⟩, gseq := frame.gseq
           name := frame.displayName, text := frame.text, ts := frame.ts }
  else none

structure Inbox where
  endpoint : Endpoint
  receiver : Receiver

/-- A message as it arrives: its body, the draws of the step and whether its link is still there;
with the number and the id that its sender gave it. -/
structure Letter where
  body : Bytes
  draw : StepDraw
  linked : Bool
  seq : ℕ
  id : MessageId

namespace Inbox
variable (S : SessionPrimitives) (W : WirePrimitives) (record : LocalGroupRecord)
  (sender : Fingerprint) (epoch : ℕ)

def handle (I : Inbox) (m : Letter) : Inbox :=
  match I.endpoint.handleSenderKeyMessage S W record sender epoch m.body m.draw with
  | (.message frame, e) =>
    { endpoint := e
      receiver := ((messageFrame? frame).map (I.receiver.receive · m.linked)).getD I.receiver }
  | (_, e) => { I with endpoint := e }

structure Genuine (gen : ℕ) (root : SecretKey) (m : Letter) : Prop where
  positive : 1 ≤ m.seq
  sent : ∃ sealed plaintext inner frame,
    parseSkmsgBody m.body (groupMsgMaxBytes + 64) = .ok (gen, m.seq, sealed) ∧
    openMessage S (messageKey (senderKeyPrimitives S)
      (chainContext record sender epoch gen) root m.seq) sealed
      (groupSkMsgAad record.groupId epoch sender gen m.seq) = .ok plaintext ∧
    parseInnerFrame W plaintext = .ok inner ∧
    ¬ (inner.groupId ≠ record.groupId ∨ inner.epoch ≠ epoch ∨ inner.sender ≠ sender ∨
      inner.recipient ≠ groupBroadcastRecipient ∨ inner.frameType ≠ .gmsg ∨ inner.gseq ≠ m.seq) ∧
    messageFrame? inner = some frame ∧ frame.messageId = m.id

variable {S W record sender epoch} {gen : ℕ} {root : SecretKey} {I : Inbox} {m : Letter}
  {r : ReceiverChain} {batch : List Letter} {a k : ℕ}

structure Holds (S : SessionPrimitives) (record : LocalGroupRecord) (sender : Fingerprint)
    (epoch gen : ℕ) (root : SecretKey) (I : Inbox) (r : ReceiverChain) : Prop where
  found : I.endpoint.store.incoming.get? (record.groupId.val, sender.val) = some r
  installed : r.Installed (senderKeyPrimitives S) (chainContext record sender epoch gen) root

lemma Holds.messageKeyFor {key late r' n} (h : Holds S record sender epoch gen root I r)
    (resolved : r.messageKeyFor (senderKeyPrimitives S) n = .ok ((key, late), r')) :
    ∃ store, I.endpoint.store.messageKeyFor (senderKeyPrimitives S)
        (chainContext record sender epoch gen) n = .ok ((key, late), store) ∧
      store.incoming.get? (record.groupId.val, sender.val) = some r' := by
  have found : I.endpoint.store.incoming.get? ((chainContext record sender epoch gen).groupId,
    (chainContext record sender epoch gen).sender) = some r := h.found
  have dated : r.epoch = (chainContext record sender epoch gen).epoch :=
    congrArg ChainContext.epoch h.installed.context
  have turn : r.gen = (chainContext record sender epoch gen).gen :=
    congrArg ChainContext.gen h.installed.context
  simp only [SenderKeyStore.messageKeyFor, found, dated, turn, ne_eq, not_true_eq_false, or_self,
    if_false, resolved]
  exact ⟨_, rfl, get?_set_self ..⟩

lemma Genuine.handled (h : Genuine S W record sender epoch gen root m) :
    ∃ frame : MessageFrame, frame.sender = sender ∧ frame.gseq = m.seq ∧ frame.key = (sender, m.id) ∧
      ∀ (I : Inbox) (r : ReceiverChain), Holds S record sender epoch gen root I r →
        (∀ key late r', r.messageKeyFor (senderKeyPrimitives S) m.seq = .ok ((key, late), r') →
          Holds S record sender epoch gen root (I.handle S W record sender epoch m) r' ∧
          (I.handle S W record sender epoch m).receiver = I.receiver.receive frame m.linked) ∧
        (¬ r.Resolves (senderKeyPrimitives S) m.seq →
          Holds S record sender epoch gen root (I.handle S W record sender epoch m) r ∧
          (I.handle S W record sender epoch m).receiver = I.receiver) := by
  obtain ⟨sealed, plaintext, inner, frame, parsed, opens, reads, fits, shown, named⟩ := h.sent
  have own : frame.sender = sender ∧ frame.gseq = m.seq := by
    simp only [not_or, not_not] at fits
    unfold messageFrame? at shown
    split_ifs at shown
    cases shown
    exact ⟨fits.2.2.1, fits.2.2.2.2.2⟩
  refine ⟨frame, own.1, own.2, Prod.ext own.1 named, fun I r holds => ⟨fun key late r' resolved => ?_,
    fun unresolved => ?_⟩⟩
  · obtain ⟨rfl, installed, -⟩ := holds.installed.messageKeyFor_cases resolved
    obtain ⟨store, looked, found⟩ := holds.messageKeyFor resolved
    unfold chainContext at looked opens
    have handled : I.endpoint.handleSenderKeyMessage S W record sender epoch m.body m.draw =
        (.message inner, { I.endpoint with store }) := by
      simp [handleSenderKeyMessage, parsed, looked, opens, reads, if_neg fits]
    simp only [handle, handled, shown]
    exact ⟨⟨found, installed⟩, rfl⟩
  · have none : IsEmpty (Endpoint.Lookup S I.endpoint record sender epoch m.body) := by
      refine ⟨fun l => unresolved ?_⟩
      obtain ⟨-, at_seq, -⟩ : gen = l.gen ∧ m.seq = l.seq ∧ sealed = l.sealed := by
        simpa using parsed.symm.trans l.parsed
      rw [at_seq]
      obtain ⟨held, r', found, -, -, resolved, -⟩ := SenderKeyStore.messageKeyFor_eq_ok l.resolved
      obtain rfl : held = r := Option.some.inj (found.symm.trans holds.found)
      exact ⟨_, resolved⟩
    obtain ⟨kept, other⟩ := store_eq_of_no_lookup none W m.draw
    unfold handle
    split
    next f e handled => exact absurd (congrArg Prod.fst handled) (other f)
    next h' e handled =>
      rw [handled] at kept
      exact ⟨⟨by rw [kept]; exact holds.found, holds.installed⟩, rfl⟩

lemma genuine_of_sealed (laws : S.CipherLaws) (lawful : W.Lawful) {f : GmsgFields} {nonce}
    (mine : f.group = record.groupId ∧ f.epoch = epoch ∧ f.sender = sender ∧
      f.recipient = groupBroadcastRecipient ∧ f.gseq = m.seq ∧ f.id = m.id)
    (positive : 1 ≤ m.seq) (dated : 1 ≤ epoch) (turn : 1 ≤ gen)
    (named : validateGroupDisplayName f.name "display name" = .ok f.name)
    (text : f.text.utf8ByteSize ≤ groupMsgMaxBytes) (time : W.Readable f.ts)
    (short : frameSize W f ≤ groupMsgMaxBytes + 36)
    (sent : m.body = dumpsBytes true (skmsgFields gen m.seq (sealMessage (senderKeyPrimitives S)
      (messageKey (senderKeyPrimitives S) (chainContext record sender epoch gen) root m.seq)
      nonce (gmsgBytes W f) (groupSkMsgAad record.groupId epoch sender gen m.seq)))) :
    Genuine S W record sender epoch gen root m := by
  obtain ⟨group, at_epoch, own, toAll, number, id⟩ := mine
  have size := length_gmsgBytes W f
  obtain ⟨ts, reads⟩ := parseInnerFrame_gmsg lawful (at_epoch ▸ dated) (.inl toAll) named text time
    (by rw [size]; exact short.trans (by decide))
  refine ⟨positive, _, _, f.frame ts, _, ?_, openMessage_sealMessage laws _ nonce _ _, reads, ?_,
    dif_pos f.id.property, Subtype.ext (congrArg Subtype.val id)⟩
  · have length := length_sealMessage laws (messageKey (senderKeyPrimitives S)
      (chainContext record sender epoch gen) root m.seq) nonce (gmsgBytes W f)
      (groupSkMsgAad record.groupId epoch sender gen m.seq)
    rw [size] at length
    rw [sent]
    refine (parseSkmsgBody_eq turn positive ?_).mpr ⟨?_, rfl⟩
    · exact ne_nil_of_length_pos (by omega)
    · omega
  · simp [GmsgFields.frame, contextFrame, group, at_epoch, own, toAll, number]

def deliver (S : SessionPrimitives) (W : WirePrimitives) (record : LocalGroupRecord)
    (sender : Fingerprint) (epoch : ℕ) (I : Inbox) (batch : List Letter) : Inbox :=
  batch.foldl (handle S W record sender epoch) I

lemma Genuine.shown (h : Genuine S W record sender epoch gen root m)
    (holds : Holds S record sender epoch gen root I r) :
    ∃ r', Holds S record sender epoch gen root (I.handle S W record sender epoch m) r' ∧
      ((I.handle S W record sender epoch m).receiver.shownKeys = I.receiver.shownKeys ∨
        (I.handle S W record sender epoch m).receiver.shownKeys =
            I.receiver.shownKeys ++ [(sender, m.id)] ∧
          (∀ c, I.receiver.gseq.last.get? sender = some c → c < m.seq) ∧
          (I.handle S W record sender epoch m).receiver.gseq.last.get? sender = some (m.seq : ℤ)) := by
  obtain ⟨frame, own, number, key, step⟩ := h.handled
  by_cases resolves : r.Resolves (senderKeyPrimitives S) m.seq
  · obtain ⟨⟨⟨messageKey, late⟩, r'⟩, resolved⟩ := resolves
    obtain ⟨holds', received⟩ := (step I r holds).1 messageKey late r' resolved
    refine ⟨r', holds', ?_⟩
    rw [received]
    by_cases takes : I.receiver.Takes frame
    · obtain ⟨keys, gseq, -⟩ := Receiver.receive_of_takes takes m.linked
      obtain ⟨past, moved⟩ := GseqTracker.observe_accepts takes.2
      rw [own, number] at past moved gseq
      rw [key] at keys
      exact .inr ⟨keys, past, by rw [gseq, moved]; exact get?_set_self ..⟩
    · exact .inl (Receiver.receive_of_not_takes takes m.linked)
  · obtain ⟨holds', received⟩ := (step I r holds).2 resolves
    exact ⟨r, holds', .inl (by rw [received])⟩

section
variable (genuine : ∀ m ∈ batch, Genuine S W record sender epoch gen root m)
include genuine

lemma deliver_shown (holds : Holds S record sender epoch gen root I r) :
    ∃ new, (deliver S W record sender epoch I batch).receiver.shownKeys =
        I.receiver.shownKeys ++ new ∧ new.length ≤ batch.length ∧
      (new.length = batch.length → (batch.map Letter.seq).Pairwise (· < ·) ∧
        ∀ c, I.receiver.gseq.last.get? sender = some c → ∀ m ∈ batch, c < m.seq) := by
  induction batch generalizing I r with
  | nil =>
    exact ⟨[], (append_nil _).symm, le_rfl, fun _ => ⟨List.Pairwise.nil,
      fun _ _ _ mem => absurd mem not_mem_nil⟩⟩
  | cons m batch ih =>
    obtain ⟨r', holds', first⟩ := (genuine m mem_cons_self).shown holds
    obtain ⟨new, keys, short, full⟩ := ih (fun m' mem => genuine m' (mem_cons_of_mem m mem)) holds'
    rcases first with same | ⟨shown, past, cursor⟩
    · refine ⟨new, ?_, short.trans (Nat.le_succ _), fun all => absurd all ?_⟩
      · rw [← same, ← keys]
        rfl
      · exact (Nat.lt_succ_of_le short).ne
    · refine ⟨(sender, m.id) :: new, ?_, Nat.succ_le_succ short, fun all => ?_⟩
      · rw [append_cons, ← shown, ← keys]
        rfl
      · obtain ⟨ascending, later⟩ := full (Nat.succ.inj all)
        have after (m' : Letter) (mem : m' ∈ batch) : (m.seq : ℤ) < m'.seq := later _ cursor m' mem
        refine ⟨List.Pairwise.cons (fun n mem => ?_) ascending, fun c before m' mem => ?_⟩
        · obtain ⟨m', there, rfl⟩ := mem_map.mp mem
          exact Int.ofNat_lt.mp (after m' there)
        · rcases mem_cons.mp mem with rfl | mem
          · exact past c before
          · exact (past c before).trans (after m' mem)

lemma deliver_ascending (holds : Holds S record sender epoch gen root I r)
    (consecutive : batch.map Letter.seq = List.range' a k) (near : a ≤ r.lastSeen + 65)
    (cached : ∀ n, a ≤ n → n < a + k → n ≤ r.lastSeen → n ∈ r.skipped.keys)
    (distinct : (batch.map Letter.id).Nodup)
    (unseen : ∀ m ∈ batch, I.receiver.seen.ids.contains (sender, m.id) = false)
    (ready : I.receiver.gseq.Ready sender a) :
    (deliver S W record sender epoch I batch).receiver.shownKeys =
      I.receiver.shownKeys ++ batch.map fun m => (sender, m.id) := by
  induction batch generalizing I r a k with
  | nil => exact (append_nil _).symm
  | cons m batch ih =>
    cases k with
    | zero => cases consecutive
    | succ k =>
      obtain ⟨rfl, rest⟩ := List.cons.inj consecutive
      have mine := genuine m mem_cons_self
      have resolves : r.Resolves (senderKeyPrimitives S) m.seq := by
        refine (holds.installed.resolves_iff mine.positive).mpr ?_
        rcases Nat.lt_or_ge r.lastSeen m.seq with ahead | old
        · exact .inr ⟨ahead, near⟩
        · exact .inl (cached m.seq le_rfl (Nat.lt_add_of_pos_right (Nat.succ_pos k)) old)
      obtain ⟨⟨⟨key, late⟩, r'⟩, resolved⟩ := resolves
      obtain ⟨frame, own, number, named, step⟩ := mine.handled
      obtain ⟨holds', received⟩ := (step I r holds).1 key late r' resolved
      have takes : I.receiver.Takes frame := by
        refine ⟨?_, ?_⟩
        · rw [named]
          exact unseen m mem_cons_self
        · rw [own, number]
          exact ready.accepts
      obtain ⟨keys, gseq, seen⟩ := Receiver.receive_of_takes takes m.linked
      have moved := (GseqTracker.observe_accepts takes.2).2
      rw [own, number] at gseq moved
      obtain ⟨-, -, left⟩ := holds.installed.messageKeyFor_cases resolved
      rw [map_cons, append_cons, ← named, ← keys, ← received]
      refine ih (fun m' mem => genuine m' (mem_cons_of_mem m mem)) holds' rest ?_ ?_
        (nodup_cons.mp distinct).2 (fun m' mem => ?_) ?_
      · rcases left with ⟨there, same, _⟩ | ⟨_, _, _, same, _⟩
        · have old := holds.installed.window.keys_le there
          omega
        · omega
      · intro n from_ to_ old
        rcases left with ⟨_, same, skipped⟩ | ⟨_, _, _, same, _⟩
        · have there := cached n (by omega) (by omega) (same ▸ old)
          rw [skipped, mem_keys_erase]
          exact ⟨there, Nat.ne_of_gt from_⟩
        · omega
      · rw [received, seen, ← Bool.not_eq_true]
        intro there
        have joined := SeenMessageIds.contains_of_seen takes.1 there
        rw [contains_set] at joined
        rcases joined with same | old
        · rw [named] at same
          exact (nodup_cons.mp distinct).1 (mem_map.mpr ⟨m', mem, congrArg Prod.snd same⟩)
        · exact absurd old (by rw [unseen m' (mem_cons_of_mem m mem)]; exact Bool.false_ne_true)
      · rw [received, gseq, moved]
        exact_mod_cast ready.next

end

def EmitsEachOnce (S : SessionPrimitives) (W : WirePrimitives) (record : LocalGroupRecord)
    (sender : Fingerprint) (epoch : ℕ) (I : Inbox) (batch : List Letter) : Prop :=
  ∃ new, (deliver S W record sender epoch I batch).receiver.shownKeys =
      I.receiver.shownKeys ++ new ∧ new.Perm (batch.map fun m => (sender, m.id))

/-- Messages with consecutive numbers are all shown exactly if they arrive in ascending order. -/
theorem emits_each_once_iff_ascending (S : SessionPrimitives) (W : WirePrimitives)
    (record : LocalGroupRecord) (sender : Fingerprint) (epoch gen : ℕ) (root : SecretKey)
    (I : Inbox)
    (r : ReceiverChain) (batch : List Letter) (a k : ℕ)
    (holds : Holds S record sender epoch gen root I r)
    (genuine : ∀ m ∈ batch, Genuine S W record sender epoch gen root m)
    (consecutive : (batch.map Letter.seq).Perm (List.range' a k))
    (distinct : (batch.map Letter.id).Nodup)
    (near : a ≤ r.lastSeen + 65)
    (cached : ∀ n, a ≤ n → n < a + k → n ≤ r.lastSeen → n ∈ r.skipped.keys)
    (unseen : ∀ m ∈ batch, I.receiver.seen.ids.contains (sender, m.id) = false)
    (ready : I.receiver.gseq.Ready sender a) :
    EmitsEachOnce S W record sender epoch I batch ↔ (batch.map Letter.seq).Pairwise (· < ·) := by
  constructor
  · rintro ⟨shown, keys, all⟩
    obtain ⟨new, keys', -, full⟩ := deliver_shown genuine holds
    obtain rfl : new = shown := append_cancel_left (keys'.symm.trans keys)
    exact (full (by rw [all.length_eq, length_map])).1
  · intro ascending
    have sorted : batch.map Letter.seq = List.range' a k :=
      consecutive.eq_of_pairwise' ascending pairwise_lt_range'
    exact ⟨_, deliver_ascending genuine holds sorted near cached distinct unseen ready, .refl _⟩

section Late
open Endpoint
open SenderKeyService (trio)
open GroupAuthority (nightWatch)
open Mirror (alice)

def bobsInbox : Inbox := { endpoint := listener plainCipher, receiver := .start }

lemma bob_holds : Holds plainCipher trio alice 2 1 plainLink bobsInbox (aliceChain plainCipher) :=
  ⟨get?_set_self .., ReceiverChain.installed_of_faithful (Reception.faithful_run _)
    (Reception.installed_run le_rfl mem_cons_self)⟩

def aliceWrites (id : MessageId) (seq : ℕ) : GmsgFields :=
  { group := nightWatch, epoch := 2, sender := alice, recipient := groupBroadcastRecipient, id
    gseq := seq, name := "Alice", text := "hi", ts := 3 / 2 }

def letter (id : MessageId) (seq : ℕ) : Letter where
  body := dumpsBytes true (skmsgFields 1 seq (sealMessage (senderKeyPrimitives plainCipher)
    (messageKey (senderKeyPrimitives plainCipher) (chainContext trio alice 2 1) plainLink seq) draw.nonce
    (gmsgBytes plainWire (aliceWrites id seq)) (groupSkMsgAad trio.groupId 2 alice 1 seq)))
  draw
  linked := true
  seq
  id

lemma genuine_letter (id) {seq} (positive : 1 ≤ seq)
    (short : frameSize plainWire (aliceWrites id seq) ≤ groupMsgMaxBytes + 36) :
    Genuine plainCipher plainWire trio alice 2 1 plainLink (letter id seq) :=
  genuine_of_sealed plainCipher_laws plainWire_lawful (f := aliceWrites id seq)
    ⟨rfl, rfl, rfl, rfl, rfl, rfl⟩ positive (by decide) (by decide)
    (show validateGroupDisplayName "Alice" "display name" = .ok "Alice" by decide)
    (show "hi".utf8ByteSize ≤ groupMsgMaxBytes by decide) (plainWire_readable _) short rfl

def second : Letter := letter Receiver.first 2
def third : Letter := letter Receiver.second 3

lemma genuine_second : Genuine plainCipher plainWire trio alice 2 1 plainLink second :=
  genuine_letter _ (by decide) (by decide)

lemma genuine_third : Genuine plainCipher plainWire trio alice 2 1 plainLink third :=
  genuine_letter _ (by decide) (by decide)

/-- The third message overtakes the second, which is then dropped as a rollback. -/
theorem late_message_dropped :
    ¬ EmitsEachOnce plainCipher plainWire trio alice 2 bobsInbox [third, second] := by
  rintro ⟨shown, keys, all⟩
  obtain ⟨new, keys', -, full⟩ := deliver_shown
    (forall_mem_cons.mpr ⟨genuine_third, forall_mem_singleton.mpr genuine_second⟩) bob_holds
  obtain rfl : new = shown := append_cancel_left (keys'.symm.trans keys)
  exact absurd (full all.length_eq).1 (by decide)

/-- In the order of their numbers both are shown. -/
theorem messages_in_order_shown :
    EmitsEachOnce plainCipher plainWire trio alice 2 bobsInbox [second, third] :=
  (emits_each_once_iff_ascending plainCipher plainWire trio alice 2 1 plainLink bobsInbox
    (aliceChain plainCipher) [second, third] 2 2 bob_holds
    (forall_mem_cons.mpr ⟨genuine_second, forall_mem_singleton.mpr genuine_third⟩)
    (.refl _)
    (by decide) (by decide +kernel) (by decide +kernel) (by decide +kernel)
    ⟨by decide, by decide, by decide⟩).mpr (by decide)

end Late

end Inbox
end Ghostlink.Groups
