import Ghostlink.Groups.Outbox
import Ghostlink.Groups.SenderKeyAlignment

/-! Read receipts. The cursor of one recipient is applied to whole ledgers, so what it says of the
other recipients of a ledger depends on what is known of them. -/

namespace Ghostlink.Groups.OutboxService
open Collections

variable {s : OutboxService} {sender f : Fingerprint} {cursor ref : ℕ} {l : GroupMessageLedger}

def recipientState (s : OutboxService) (ref : ℕ) (f : Fingerprint) : Option DeliveryState :=
  (s.ledgers.get? ref).bind fun l => l.recipients.get? f

def Covers (s : OutboxService) (gid : GroupId) (cursor ref : ℕ) : Prop :=
  ref ∈ (s.runtime gid).ledgers.values ∧ (s.ledgers.get? ref).any (fun l => l.gseq ≤ cursor)

instance (s : OutboxService) (gid : GroupId) (cursor ref : ℕ) : Decidable (s.Covers gid cursor ref) :=
  inferInstanceAs (Decidable (_ ∧ _))

def SoleReader (s : OutboxService) (gid : GroupId) (sender : Fingerprint) (cursor : ℕ) : Prop :=
  ∀ ref, s.Covers gid cursor ref → s.recipientState ref sender ≠ none →
    ∀ f, f ≠ sender → s.recipientState ref f ≠ some .delivered

lemma get?_applyReadCursor (l : GroupMessageLedger) (cursor f) :
    (l.applyReadCursor cursor).recipients.get? f =
      if l.gseq ≤ cursor ∧ l.recipients.get? f = some .delivered then some .read
      else l.recipients.get? f := by
  rw [GroupMessageLedger.applyReadCursor, Dict.get?_mapVals]
  cases l.recipients.get? f with
  | none => simp
  | some state => by_cases delivered : state = .delivered <;> by_cases l.gseq ≤ cursor <;> simp [*]

section
variable (s)

lemma recipientState_readLedger (sender f cursor ref r) :
    (readLedger sender cursor s r).recipientState ref f =
      if ref = r ∧ (s.ledgers.get? ref).any (fun l => l.gseq ≤ cursor) ∧
          s.recipientState ref sender ≠ none ∧ s.recipientState ref f = some .delivered
      then some .read else s.recipientState ref f := by
  by_cases same : ref = r
  · subst same
    unfold readLedger
    cases found : s.ledgers.get? ref with
    | none => simp [recipientState, found]
    | some l =>
      have listed : l.recipients.contains sender ↔ l.recipients.get? sender ≠ none := by
        rw [Dict.contains, Option.isSome_iff_ne_none]
      by_cases covered : l.recipients.contains sender ∧ l.gseq ≤ cursor
      · simp [recipientState, found, covered, listed.mp covered.1, get?_applyReadCursor]
      · rw [listed] at covered
        simp only [listed, covered, if_false, recipientState, found, Option.any_some,
          Option.bind_some, true_and, decide_eq_true_eq]
        rw [if_neg fun all => covered ⟨all.2.1, all.1⟩]
  · have other : (readLedger sender cursor s r).ledgers.get? ref = s.ledgers.get? ref := by
      unfold readLedger
      split
      · rfl
      · split_ifs
        · exact Dict.get?_set_ne _ _ same
        · rfl
    simp [recipientState, other, same]

lemma gseq_readLedger (sender cursor ref r) :
    ((readLedger sender cursor s r).ledgers.get? ref).any (fun l => l.gseq ≤ cursor) =
      (s.ledgers.get? ref).any fun l => l.gseq ≤ cursor := by
  unfold readLedger
  split
  · rfl
  · rename_i l found
    split_ifs
    · rw [Dict.get?_set]
      split_ifs with here
      · rw [here, found]
        rfl
      · rfl
    · rfl

lemma recipientState_foldl (sender f cursor ref)
    (refs : List ℕ) : (refs.foldl (readLedger sender cursor) s).recipientState ref f =
      if (ref ∈ refs ∧ (s.ledgers.get? ref).any (fun l => l.gseq ≤ cursor)) ∧
          s.recipientState ref sender ≠ none ∧ s.recipientState ref f = some .delivered
      then some .read else s.recipientState ref f := by
  induction refs generalizing s with
  | nil => simp
  | cons r refs ih =>
    rw [List.foldl_cons, ih, gseq_readLedger, recipientState_readLedger, recipientState_readLedger]
    by_cases here : ref = r
    · by_cases s.recipientState ref f = some .delivered <;>
        by_cases s.recipientState ref sender = none <;>
        by_cases (s.ledgers.get? ref).any (fun l => l.gseq ≤ cursor) = true <;> simp_all
    · simp [here]

lemma recipientState_applyGread (gid sender f cursor ref) :
    (s.applyGread gid sender cursor).recipientState ref f =
      if s.Covers gid cursor ref ∧
          s.recipientState ref sender ≠ none ∧ s.recipientState ref f = some .delivered
      then some .read else s.recipientState ref f := recipientState_foldl ..

/-- A receipt leaves the entries of all others alone exactly if nobody else has a delivered copy of
a message that it covers; and it marks a message as read by its sender exactly if the cursor covers
it and the sender's copy was delivered. -/
theorem read_receipt_effect_iff (gid : GroupId) (sender : Fingerprint) (cursor : ℕ) :
    ((∀ ref f, f ≠ sender → (s.applyGread gid sender cursor).recipientState ref f =
        s.recipientState ref f) ↔ s.SoleReader gid sender cursor) ∧
      ∀ ref, (s.applyGread gid sender cursor).recipientState ref sender =
        if s.Covers gid cursor ref ∧ s.recipientState ref sender = some .delivered
        then some .read else s.recipientState ref sender := by
  constructor
  · constructor
    · intro untouched ref covers listed f other delivered
      have after := untouched ref f other
      rw [recipientState_applyGread, if_pos ⟨covers, listed, delivered⟩, delivered] at after
      cases after
    · intro sole ref f other
      rw [recipientState_applyGread, if_neg]
      rintro ⟨covers, listed, delivered⟩
      exact sole ref covers listed f other delivered
  · intro ref
    rw [recipientState_applyGread]
    congr 1
    refine propext ⟨fun all => ⟨all.1, all.2.2⟩, fun both => ⟨both.1, ?_, both.2⟩⟩
    rw [both.2]
    exact Option.some_ne_none _

end

open GroupAuthority (nightWatch bob)
open SenderKeyService (trioManager carol firstDraw)
open Mirror (alice)

def deliveredToBoth : OutboxService :=
  { start alice trioManager with
    ledgers := Dict.empty.set 0
      { messageId := firstDraw.messageId, groupId := nightWatch, gseq := 1, text := "hi", ts := 0
        recipients := (Dict.empty.set bob .delivered).set carol .delivered }
    runtimes := Dict.empty.set nightWatch
      { OutboxRuntime.new with ledgers := Dict.empty.set firstDraw.messageId 0 } }

/-- Bob's receipt marks Carol's copy as read. -/
theorem receipt_marks_other_member :
    deliveredToBoth.recipientState 0 carol = some .delivered ∧
      (deliveredToBoth.applyGread nightWatch bob 1).recipientState 0 carol = some .read := by
  decide +kernel

end Ghostlink.Groups.OutboxService
