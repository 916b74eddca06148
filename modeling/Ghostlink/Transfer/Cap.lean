import Ghostlink.Transfer.Manager
import Ghostlink.Transfer.Publication

/-! The number of active transfers. Every event but three leaves the table and the states such that
nothing becomes active; a call of `send_file` and a peer's offer test the limit at the moment at
which their transfer becomes active; an offer that was spawned does not. -/

namespace Ghostlink.FileTransfer
open Messaging Collections List Dict Reception Nat
open Option (some)

lemma TransferState.not_active_of_terminal {state : TransferState}
    (h : state.isTerminal) : state.isActive = false := by
  cases state <;> first | rfl | cases h

structure Outgoing.Tame (o o' : Outgoing) : Prop where
  manifest : o'.manifest = o.manifest
  active : o'.state.isActive → o.state.isActive

namespace Outgoing
variable {o o' : Outgoing}

lemma Tame.refl (o) : Tame o o := ⟨rfl, fun h => h⟩

section
variable (o)

lemma settled_tame {state : TransferState} (h : state.isTerminal)
    (error) : Tame o (o.settled state error) := by
  unfold settled transitionTo
  dsimp only
  split_ifs
  · refine ⟨rfl, fun active => ?_⟩
    simp [TransferState.not_active_of_terminal h] at active
  · exact .refl o

lemma failTransfer_tame (message) : Tame o (o.failTransfer message) := by
  unfold failTransfer
  split_ifs
  · exact .refl o
  · exact settled_tame o rfl _

lemma accepted_tame : Tame o o.accepted := by
  unfold accepted
  split_ifs with offered paused
  · exact ⟨rfl, fun _ => by rw [offered]; rfl⟩
  · exact ⟨rfl, fun _ => by rw [paused.1]; rfl⟩
  · exact .refl o

lemma onAccept_tame (bitmap) : Tame o (o.onAccept bitmap) := by
  unfold onAccept
  cases bitmap with
  | none => exact accepted_tame o
  | some encoded =>
    dsimp only
    split_ifs
    · exact accepted_tame o
    · cases ChunkBitmap.fromB64 encoded o.manifest.totalChunks with
      | error =>
        dsimp only
        split_ifs
        · exact failTransfer_tame o _
        · exact .refl o
      | ok peer =>
        dsimp only
        cases adoptBitmap o.bitmap peer with
        | error => exact .refl o
        | ok bitmap =>
          have tame := accepted_tame { o with bitmap }
          exact ⟨tame.manifest, tame.active⟩

lemma onAck_tame (n) : Tame o (o.onAck n) := by
  unfold onAck
  split
  · exact .refl o
  · split
    · exact .refl o
    · exact ⟨rfl, fun h => h⟩

lemma onComplete_tame (digest) : Tame o (o.onComplete digest) := by
  unfold onComplete
  split
  · exact .refl o
  · split
    · exact failTransfer_tame o _
    · exact settled_tame o rfl _

lemma step_tame (e) : Tame o (o.step e) := by
  cases e with
  | peerAccept bitmap => exact onAccept_tame o bitmap
  | peerReject reason => exact settled_tame o rfl reason
  | ack n => exact onAck_tame o n
  | complete digest => exact onComplete_tame o digest
  | fail message => exact failTransfer_tame o message
  | peerError | cancel =>
    unfold step
    dsimp only
    split_ifs
    · exact .refl o
    · exact settled_tame o rfl _
  | expire =>
    unfold step expire
    dsimp only
    split
    · exact .refl o
    · exact settled_tame o rfl _
  | pause | autoPause | unpause =>
    unfold step
    dsimp only
    split_ifs with state
    · exact ⟨rfl, fun _ => by rw [state]; rfl⟩
    · exact .refl o
  | recover =>
    unfold step
    dsimp only
    split_ifs with state
    · exact ⟨rfl, fun _ => by rw [state.1]; rfl⟩
    · exact .refl o

end

end Outgoing

namespace Reception
variable {T : TransferPrimitives} {taken : String → Bool} {r r' : Reception} {e : ReceptionEvent}

def Moves (T : TransferPrimitives) (r r' : Reception) : Prop :=
  ∃ part taken e, r' = ({ r with part } : Reception).step T taken e

abbrev Later (T : TransferPrimitives) : Reception → Reception → Prop :=
  Relation.ReflTransGen (Moves T)

lemma active_of_change {c : Core} (change : Change T taken r e c)
    (h : c.state.isActive) : r.transfer.state.isActive := by
  cases change with
  | still | asked | received | advanced | created | refused | wrote | renamed | saved | purged =>
    exact h
  | began listed state => rw [state]; rfl
  | accepted listed state => rw [state]; rfl
  | completed listed state => rw [state]; rfl
  | paused state => rw [state]; rfl
  | unpaused state => rw [state]; rfl
  | ended disturbs open_ terminal =>
    simp [TransferState.not_active_of_terminal terminal] at h

lemma Later.manifest (h : Later T r r') : r'.manifest = r.manifest := by
  induction h with
  | refl => rfl
  | @tail b c _ moves ih =>
    obtain ⟨part, taken, e, rfl⟩ := moves
    exact (core_manifest { b with part } e).trans ih

lemma Later.active (h : Later T r r') (active : r'.transfer.state.isActive) :
    r.transfer.state.isActive := by
  induction h with
  | refl => exact active
  | @tail b c _ moves ih =>
    obtain ⟨part, taken, e, rfl⟩ := moves
    have before := active_of_change (step_change T taken { b with part } e) active
    exact ih before

def fileLength (part : Option Bytes) : ℕ := (part.map List.length).getD 0

lemma fileLength_of_change {c : Core} (size) (change : Change T taken r e c)
    (within : ∀ k disk n data, e = .work k disk → r.tasks[k]? = some (.writing n data) →
      (n - 1) * r.manifest.chunkSize + data.length ≤ size) :
    fileLength c.part ≤ max (fileLength r.part) size := by
  cases change with
  | still | asked | received | advanced | began | accepted | refused | completed | saved | paused
  | unpaused | purged => exact le_max_left _ _
  | created =>
    refine le_max_of_le_left ?_
    cases r.part <;> exact le_rfl
  | @wrote k n data bytes listed has =>
    have ends := within k .fine n data rfl listed
    rw [has]
    exact Blocks.length_writeAt_le.trans (max_le_max le_rfl ends)
  | renamed => exact zero_le _
  | ended _ _ _ _ left =>
    rcases left with rfl | rfl
    · exact zero_le _
    · exact le_max_left _ _

end Reception

namespace TransferManager
variable {T : TransferPrimitives} {s s' s'' : TransferManager}

structure Kept {α : Type*} (R : α → α → Prop) (as as' : List α) : Prop where
  length : as'.length = as.length
  each : ∀ (i : ℕ) (a' : α), as'[i]? = some a' → ∃ a, as[i]? = some a ∧ R a a'

variable {α : Type*}

variable {R : α → α → Prop} {as : List α} {r : Reception} {e : ReceptionEvent} {ref : Ref}

lemma Kept.refl (same : ∀ a, R a a) (as) : Kept R as as :=
  ⟨rfl, fun _ a found => ⟨a, found, same a⟩⟩

lemma Kept.trans {as' as''}
    (compose : ∀ a b c, R a b → R b c → R a c) (h : Kept R as as') (h' : Kept R as' as'') :
    Kept R as as'' := by
  refine ⟨h'.length.trans h.length, fun i c found => ?_⟩
  obtain ⟨b, found', bc⟩ := h'.each i c found
  obtain ⟨a, found'', ab⟩ := h.each i b found'
  exact ⟨a, found'', compose a b c ab bc⟩

lemma Kept.set (same : ∀ a, R a a) {i}
    {a a' : α} (found : as[i]? = some a) (next : R a a') : Kept R as (as.set i a') := by
  refine ⟨length_set, fun j b hb => ?_⟩
  by_cases at_i : i = j
  · subst at_i
    rw [List.getElem?_set_self (List.getElem?_eq_some_iff.mp found).1] at hb
    exact ⟨a, found, some.inj hb ▸ next⟩
  · rw [getElem?_set_ne at_i] at hb
    exact ⟨b, hb, same b⟩

structure Quiet (T : TransferPrimitives) (s s' : TransferManager) : Prop where
  limits : s'.limits = s.limits
  transfers : ∀ id ref, s'.transfers.get? id = some ref → s.transfers.get? id = some ref
  sending : Kept Outgoing.Tame s.sending s'.sending
  receiving : Kept (Reception.Later T) s.receiving s'.receiving

def held (s : TransferManager) (id : String) : ℕ := s.temp.share (fun _ bytes => bytes.length) id

structure Calm (T : TransferPrimitives) (s s' : TransferManager) : Prop extends Quiet T s s' where
  held : ∀ id, s'.held id ≤ s.held id

lemma Calm.refl (s) : Calm T s s where
  limits := rfl
  transfers _ _ h := h
  sending := .refl Outgoing.Tame.refl _
  receiving := .refl (fun _ => .refl) _
  held _ := le_rfl

lemma Quiet.trans (h : Quiet T s s') (h' : Quiet T s' s'') : Quiet T s s'' where
  limits := h'.limits.trans h.limits
  transfers id ref found := h.transfers id ref (h'.transfers id ref found)
  sending := h.sending.trans (fun _ _ _ ab bc =>
    ⟨bc.manifest.trans ab.manifest, fun active => ab.active (bc.active active)⟩) h'.sending
  receiving := h.receiving.trans (fun _ _ _ ab bc => ab.trans bc) h'.receiving

lemma Calm.trans (h : Calm T s s') (h' : Calm T s' s'') : Calm T s s'' where
  toQuiet := h.toQuiet.trans h'.toQuiet
  held id := (h'.held id).trans (h.held id)

section
variable (s)

lemma promoteLoop_eq (is) :
    ∃ offers, s.promoteLoop is = { s with offers } := by
  induction is generalizing s with
  | nil => exact ⟨s.offers, rfl⟩
  | cons i is ih =>
    unfold promoteLoop
    split_ifs
    · exact ⟨s.offers, rfl⟩
    · obtain ⟨offers, eq⟩ := ih { s with offers := s.offers ++ [i] }
      exact ⟨offers, eq⟩

lemma afterwards_eq (before after) :
    ∃ offers, s.afterwards before after = { s with offers } := by
  unfold afterwards promoteQueued
  split_ifs
  · exact ⟨s.offers, rfl⟩
  · exact promoteLoop_eq s _
  · exact ⟨s.offers, rfl⟩

lemma calm_afterwards (before after) :
    Calm T s (s.afterwards before after) := by
  obtain ⟨offers, eq⟩ := afterwards_eq s before after
  rw [eq]
  exact { Calm.refl (T := T) s with }

lemma calm_stepSending (i e) : Calm T s (s.stepSending i e) := by
  unfold stepSending
  cases found : s.sending[i]? with
  | none => exact .refl s
  | some o =>
    have moved : Calm T s { s with sending := s.sending.set i (o.step e) } :=
      { Calm.refl s with sending := .set Outgoing.Tame.refl found (o.step_tame e) }
    exact moved.trans (calm_afterwards _ _ _)

end

def received (s : TransferManager) (i : ℕ) (r' : Reception) (id : String) (part : Option Bytes) :
    TransferManager :=
  { s with receiving := s.receiving.set i r', temp := store s.temp id part }

lemma stepReceiving_eq {i} (found : s.receiving[i]? = some r)
    (taken e) : s.stepReceiving T i taken e =
      let part := s.temp.get? r.transfer.transferId
      let r' := ({ r with part } : Reception).step T taken e
      (s.received i r' r.transfer.transferId r'.part).afterwards
        r.transfer.state r'.transfer.state := by
  rw [stepReceiving, found]
  rfl

lemma quiet_received {i r'} (found : s.receiving[i]? = some r)
    (moves : Reception.Moves T r r') (id part) : Quiet T s (s.received i r' id part) := by
  exact { Calm.refl (T := T) s with receiving := .set (fun _ => .refl) found (.single moves) }

section
variable (s)

lemma quiet_stepReceiving (i taken) (e) : Quiet T s (s.stepReceiving T i taken e) := by
  cases found : s.receiving[i]? with
  | none =>
    rw [stepReceiving, found]
    exact (Calm.refl s).toQuiet
  | some =>
    rw [stepReceiving_eq found]
    exact (quiet_received found ⟨_, taken, e, rfl⟩ _ _).trans (calm_afterwards _ _ _).toQuiet

lemma held_store (i r' id part id') :
    (s.received i r' id part).held id' = if id' = id then fileLength part else s.held id' := by
  change (store s.temp id part).share _ id' = _
  unfold Dict.share store held Dict.share
  cases part with
  | none =>
    rw [get?_erase]
    split_ifs <;> rfl
  | some =>
    rw [get?_set]
    split_ifs <;> rfl

lemma held_eq (id) : s.held id = fileLength (s.temp.get? id) := by
  unfold held Dict.share
  cases s.temp.get? id <;> rfl

lemma calm_stepReceiving (i taken)
    (other : ∀ k disk, e ≠ .work k disk) : Calm T s (s.stepReceiving T i taken e) := by
  cases found : s.receiving[i]? with
  | none =>
    rw [stepReceiving, found]
    exact .refl s
  | some r =>
    rw [stepReceiving_eq found]
    refine Calm.trans ⟨quiet_received found ⟨_, taken, e, rfl⟩ _ _, fun id => ?_⟩
      (calm_afterwards _ _ _)
    rw [held_store]
    split_ifs with same
    · rw [same, held_eq]
      have shrinks := fileLength_of_change 0
        (step_change T taken { r with part := s.temp.get? r.transfer.transferId } e)
        fun k disk _ _ work => absurd work (other k disk)
      rwa [max_eq_left (zero_le _)] at shrinks
    · exact le_rfl

lemma calm_onSending (id e) : Calm T s (s.onSending id e) := by
  unfold onSending
  split
  · exact calm_stepSending s _ e
  · exact .refl s

lemma calm_onReceiving (id) (other : ∀ k disk, e ≠ .work k disk) :
    Calm T s (s.onReceiving T id e) := by
  unfold onReceiving
  split
  · exact calm_stepReceiving s _ _ other
  · exact .refl s

lemma calm_onTransfer (id sends) {receives} (other : ∀ k disk, receives ≠ .work k disk) :
    Calm T s (s.onTransfer T id sends receives) := by
  unfold onTransfer
  split
  · exact calm_stepSending s _ sends
  · exact calm_stepReceiving s _ _ other
  · exact .refl s

end

lemma Calm.unlessClosing (h : Calm T s s') : Calm T s (s.unlessClosing s') := by
  unfold TransferManager.unlessClosing
  split_ifs
  · exact .refl s
  · exact h

section
variable (s)

lemma calm_autoPause (refs) : Calm T s (s.autoPause T refs) := by
  induction refs generalizing s with
  | nil => exact .refl s
  | cons ref refs ih =>
    cases ref with
    | sending i => exact (calm_stepSending s i .autoPause).trans (ih _)
    | receiving i =>
      have paused : Calm T s (s.stepReceiving T i (fun _ => false) .pause) :=
        calm_stepReceiving s i _ (by rintro _ _ ⟨⟩)
      exact paused.trans (ih _)

lemma calm_forget {transfers : Dict String Ref} {offers : List ℕ}
    (h : ∀ id ref, transfers.get? id = some ref → s.transfers.get? id = some ref) :
    Calm T s { s with transfers, offers } := by
  exact { Calm.refl s with transfers := h }

lemma calm_purge (id) : Calm T s (s.purge T id) := by
  unfold purge
  split
  · exact .refl s
  · split_ifs
    · have marked : Calm T s (s.onReceiving T id .purge) :=
        calm_onReceiving s id (by rintro _ _ ⟨⟩)
      exact marked.trans (calm_forget _ fun _ _ => get?_of_erase)
    · exact .refl s

lemma calm_retryOffer (i) : Calm T s (s.retryOffer i) := by
  unfold retryOffer
  split_ifs
  · exact calm_forget s fun _ _ found => found
  · exact .refl s

end

def activates : TransferEvent → Bool
  | .sendFile _ _ _ _ _ _ | .peerOffer _ _ | .runOffer _ _ => true
  | _ => false

lemma calm_step (s : TransferManager) {e} (h : activates e = false)
    (idle : ∀ i k taken disk, e ≠ .work i k taken disk) : Calm T s (s.step T e) := by
  cases e with
  | sendFile | peerOffer | runOffer => cases h
  | work i k taken disk => exact absurd rfl (idle i k taken disk)
  | accept id | reject id => exact calm_onReceiving s id (by rintro _ _ ⟨⟩)
  | peerAccept id | peerReject id | peerAck id | peerComplete id =>
    exact (calm_onSending s id _).unlessClosing
  | peerChunk id =>
    exact (calm_onReceiving s id (by rintro _ _ ⟨⟩)).unlessClosing
  | peerPause id | peerResume id | peerCancel id | peerError id =>
    exact (calm_onTransfer s id _ (by rintro _ _ ⟨⟩)).unlessClosing
  | handle i => exact calm_stepReceiving s i _ (by rintro _ _ ⟨⟩)
  | pumpFails i => exact calm_stepSending s i _
  | linkLost => exact (calm_autoPause s _).unlessClosing
  | recover i => exact (calm_stepSending s i _).unlessClosing
  | pause id | resume id | cancel id | expire id | closeTransfer id =>
    exact calm_onTransfer s id _ (by rintro _ _ ⟨⟩)
  | purge id => exact calm_purge s id
  | retryOffer i => exact calm_retryOffer s i
  | close => exact { Calm.refl (T := T) s with }
  | closed =>
    refine calm_forget s fun id ref found => ?_
    cases found

lemma quiet_step (s : TransferManager) {e} (h : activates e = false) :
    Quiet T s (s.step T e) := by
  by_cases works : ∃ i k taken disk, e = .work i k taken disk
  · obtain ⟨i, k, taken, disk, rfl⟩ := works
    exact quiet_stepReceiving s i taken _
  · refine (calm_step s h fun i k taken disk same => ?_).toQuiet
    exact works ⟨i, k, taken, disk, same⟩

def activeShare (s : TransferManager) (id : String) : ℕ :=
  s.transfers.share (fun _ ref => if s.isActive ref then 1 else 0) id

lemma activeShare_le_one (s : TransferManager) (id) : s.activeShare id ≤ 1 := by
  unfold activeShare Dict.share
  split
  · dsimp only
    split_ifs <;> decide
  · exact zero_le 1

lemma activeShare_le (id) (h : ∀ ref, s'.transfers.get? id = some ref → s'.isActive ref →
      s.transfers.get? id = some ref ∧ s.isActive ref) :
    s'.activeShare id ≤ s.activeShare id := by
  unfold activeShare
  cases found : s'.transfers.get? id with
  | none =>
    rw [share_of_none found]
    exact zero_le _
  | some ref =>
    rw [share_of_some found]
    by_cases active : s'.isActive ref
    · obtain ⟨known, before⟩ := h ref found active
      rw [share_of_some known, if_pos active, if_pos before]
    · rw [if_neg active]
      exact zero_le _

lemma isActive_sending {i} : s.isActive (.sending i) ↔
    ∃ o, s.sending[i]? = some o ∧ o.state.isActive := by
  change (s.sending[i]?.any fun o => o.state.isActive) ↔ _
  cases s.sending[i]? <;> simp

lemma isActive_receiving {i} : s.isActive (.receiving i) ↔
    ∃ r, s.receiving[i]? = some r ∧ r.transfer.state.isActive := by
  change (s.receiving[i]?.any fun r => r.transfer.state.isActive) ↔ _
  cases s.receiving[i]? <;> simp

lemma Quiet.isActive (h : Quiet T s s') (active : s'.isActive ref) :
    s.isActive ref := by
  cases ref with
  | sending i =>
    obtain ⟨o', found', now⟩ := isActive_sending.mp active
    obtain ⟨o, found, tame⟩ := h.sending.each i o' found'
    exact isActive_sending.mpr ⟨o, found, tame.active now⟩
  | receiving i =>
    obtain ⟨r', found', now⟩ := isActive_receiving.mp active
    obtain ⟨r, found, later⟩ := h.receiving.each i r' found'
    exact isActive_receiving.mpr ⟨r, found, later.active now⟩

lemma Quiet.activeCount_le (h : Quiet T s s') : s'.activeCount ≤ s.activeCount := by
  apply total_le_total
  intro id
  apply activeShare_le
  intro ref found active
  exact ⟨h.transfers id ref found, h.isActive active⟩

structure Filed (s : TransferManager) : Prop where
  sending : ∀ id i, s.transfers.get? id = some (.sending i) →
    ∃ o, s.sending[i]? = some o ∧ o.manifest.transferId = id
  receiving : ∀ id i, s.transfers.get? id = some (.receiving i) → i < s.receiving.length

lemma Quiet.filed (h : Quiet T s s') (filed : Filed s) : Filed s' := by
  constructor
  · intro id i found
    obtain ⟨o, at_i, named⟩ := filed.sending id i (h.transfers id _ found)
    have inside : i < s'.sending.length := by
      rw [h.sending.length]
      exact (List.getElem?_eq_some_iff.mp at_i).1
    obtain ⟨o₀, at_i', tame⟩ := h.sending.each i _ (getElem?_eq_getElem inside)
    refine ⟨_, getElem?_eq_getElem inside, ?_⟩
    rw [tame.manifest, ← named, some.inj (at_i.symm.trans at_i')]
  · intro id i found
    rw [h.receiving.length]
    exact filed.receiving id i (h.transfers id _ found)

lemma get?_concat {a b : α} {i}
    (h : (as ++ [a])[i]? = some b) : as[i]? = some b ∨ (i = as.length ∧ b = a) := by
  rcases lt_trichotomy i as.length with before | rfl | after
  · rw [getElem?_append_left before] at h
    exact .inl h
  · rw [getElem?_concat_length] at h
    exact .inr ⟨rfl, (some.inj h).symm⟩
  · have outside := (List.getElem?_eq_some_iff.mp h).1
    rw [length_append, length_singleton] at outside
    omega

section Sending
variable (s : TransferManager) (m : FileManifest) (bitmap : ChunkBitmap) (now : ℚ)

lemma filed_registerSend (filed : Filed s) : Filed (s.registerSend m bitmap now) := by
  constructor
  · intro id i found
    rcases get?_of_set found with ⟨rfl, ⟨⟩⟩ | ⟨-, old⟩
    · exact ⟨_, getElem?_concat_length, rfl⟩
    · obtain ⟨o, at_i, named⟩ := filed.sending id i old
      have inside := (List.getElem?_eq_some_iff.mp at_i).1
      exact ⟨o, (getElem?_append_left inside).trans at_i, named⟩
  · intro id i found
    rcases get?_of_set found with ⟨-, ⟨⟩⟩ | ⟨-, old⟩
    exact filed.receiving id i old

lemma activeCount_registerSend : (s.registerSend m bitmap now).activeCount ≤ s.activeCount := by
  apply total_le_total
  intro id
  apply activeShare_le
  intro ref found active
  have known : ref ≠ .sending s.sending.length := by
    rintro rfl
    obtain ⟨o, at_i, now⟩ := isActive_sending.mp active
    rw [registerSend, getElem?_concat_length] at at_i
    cases at_i
    cases now
  have before : s.isActive ref := by
    cases ref with
    | sending =>
      obtain ⟨o, at_i, now⟩ := isActive_sending.mp active
      rcases get?_concat at_i with old | ⟨rfl, -⟩
      · exact isActive_sending.mpr ⟨o, old, now⟩
      · exact absurd rfl known
    | receiving => exact active
  refine ⟨?_, before⟩
  rcases get?_of_set found with ⟨-, new⟩ | ⟨-, old⟩
  · exact absurd new known
  · exact old

end Sending

def Pending (s : TransferManager) (i : ℕ) (keyed : Bool) : Prop :=
  ∃ o, s.sending[i]? = some o ∧ keyed ∧ o.state = .queued ∧
    s.transfers.get? o.manifest.transferId = some (.sending i)

abbrev withOffered (s : TransferManager) (i : ℕ) (o : Outgoing) : TransferManager :=
  { s with sending := s.sending.set i { o with state := .offered } }

lemma offer_cases (s : TransferManager) (i keyed) : s.offer i keyed = s ∧ ¬ s.Pending i keyed ∨
      ∃ o, s.sending[i]? = some o ∧ keyed ∧ o.state = .queued ∧
        s.offer i keyed = s.withOffered i o := by
  unfold offer
  cases found : s.sending[i]? with
  | none =>
    refine .inl ⟨rfl, ?_⟩
    rintro ⟨o, at_i, -⟩
    rw [found] at at_i
    cases at_i
  | some o =>
    dsimp only
    split_ifs with silent unknown queued
    · refine .inl ⟨rfl, ?_⟩
      rintro ⟨-, -, keyed', -⟩
      rw [silent] at keyed'
      cases keyed'
    · refine .inl ⟨rfl, ?_⟩
      rintro ⟨o', at_i, -, -, known⟩
      rw [found] at at_i
      cases at_i
      rw [Dict.contains, known] at unknown
      cases unknown
    · exact .inr ⟨o, rfl, (Bool.not_eq_false _).mp silent, queued, rfl⟩
    · refine .inl ⟨rfl, ?_⟩
      rintro ⟨o', at_i, -, queued', -⟩
      rw [found] at at_i
      cases at_i
      exact queued queued'

section Offering
variable {i : ℕ} {o : Outgoing} (found : s.sending[i]? = some o)
include found

lemma filed_offered (filed : Filed s) : Filed (s.withOffered i o) := by
  refine ⟨fun id j known => ?_, filed.receiving⟩
  obtain ⟨o', at_j, named⟩ := filed.sending id j known
  by_cases same : i = j
  · subst same
    obtain rfl : o = o' := some.inj (found.symm.trans at_j)
    exact ⟨_, List.getElem?_set_self (List.getElem?_eq_some_iff.mp found).1, named⟩
  · exact ⟨o', (getElem?_set_ne same).trans at_j, named⟩

lemma isActive_offered (ref : Ref) :
    (s.withOffered i o).isActive ref ↔ s.isActive ref ∨ ref = .sending i := by
  have inside := (List.getElem?_eq_some_iff.mp found).1
  cases ref with
  | receiving j =>
    have other : Ref.receiving j ≠ .sending i := by rintro ⟨⟩
    simp only [other, or_false]
    exact Iff.rfl
  | sending j =>
    by_cases same : j = i
    · subst same
      refine ⟨fun _ => .inr rfl, fun _ => isActive_sending.mpr ⟨{ o with state := .offered }, ?_, rfl⟩⟩
      exact getElem?_set_self inside
    · have other : Ref.sending j ≠ .sending i := fun h => same (Ref.sending.inj h)
      rw [isActive_sending, isActive_sending, getElem?_set_ne (Ne.symm same)]
      simp [other]

lemma activeShare_offered (filed : Filed s) {id}
    (other : s.transfers.get? id = some (.sending i) → id ≠ o.manifest.transferId) :
    (s.withOffered i o).activeShare id ≤ s.activeShare id := by
  apply activeShare_le
  intro ref known active
  rcases (isActive_offered found ref).mp active with before | rfl
  · exact ⟨known, before⟩
  · obtain ⟨o', at_i, named⟩ := filed.sending id i known
    cases found.symm.trans at_i
    exact absurd named.symm (other known)

lemma activeCount_offered_le (filed : Filed s) :
    (s.withOffered i o).activeCount ≤ s.activeCount + 1 :=
  (total_le_add_share o.manifest.transferId fun _ other =>
    activeShare_offered found filed fun _ => other).trans
    (Nat.add_le_add_left (activeShare_le_one _ _) _)

lemma activeCount_offered_lt (queued : o.state = .queued)
    (known : s.transfers.get? o.manifest.transferId = some (.sending i)) :
    s.activeCount < (s.withOffered i o).activeCount := by
  have idle : ¬ s.isActive (.sending i) := by
    rintro active
    obtain ⟨o', at_i, now⟩ := isActive_sending.mp active
    rw [← some.inj (found.symm.trans at_i), queued] at now
    cases now
  refine total_lt_total o.manifest.transferId (fun id => ?_) ?_
  · apply activeShare_le
    intro ref known' active
    exact ⟨known', (isActive_offered found ref).mpr (.inl active)⟩
  · rw [share_of_some known, share_of_some known, if_neg idle,
      if_pos ((isActive_offered found _).mpr (.inr rfl))]
    exact zero_lt_one

lemma activeCount_offered_unknown (filed : Filed s)
    (unknown : s.transfers.get? o.manifest.transferId ≠ some (.sending i)) :
    (s.withOffered i o).activeCount ≤ s.activeCount := by
  refine total_le_total fun id => activeShare_offered found filed fun known same => ?_
  rw [same] at known
  exact unknown known

end Offering

lemma filed_offer (filed : Filed s) (i keyed) : Filed (s.offer i keyed) := by
  rcases offer_cases s i keyed with ⟨same, -⟩ | ⟨o, found, -, -, eq⟩
  · rwa [same]
  · rw [eq]
    exact filed_offered found filed

lemma activeCount_offer_le (filed : Filed s) (i keyed) :
    (s.offer i keyed).activeCount ≤ s.activeCount + 1 := by
  rcases offer_cases s i keyed with ⟨same, -⟩ | ⟨o, found, -, -, eq⟩
  · rw [same]
    exact le_succ _
  · rw [eq]
    exact activeCount_offered_le found filed

section
variable (s)

lemma limits_offer (i keyed) : (s.offer i keyed).limits = s.limits := by
  rcases offer_cases s i keyed with ⟨same, -⟩ | ⟨o, -, -, -, eq⟩
  · rw [same]
  · rw [eq]

lemma sendFile_cases (pathName mime content transferId keyed now) :
    s.sendFile T pathName mime content transferId keyed now = s ∨
      ∃ m bitmap, s.sendFile T pathName mime content transferId keyed now =
        if (s.registerSend m bitmap now).activeCount < s.limits.maxConcurrent then
          (s.registerSend m bitmap now).offer s.sending.length keyed
        else s.registerSend m bitmap now := by
  unfold sendFile
  split
  · exact .inl rfl
  · split
    · exact .inl rfl
    · rename_i m _
      split
      · exact .inl rfl
      · rename_i bitmap _
        refine .inr ⟨m, bitmap, ?_⟩
        have place : (s.registerSend m bitmap now).sending.length - 1 = s.sending.length := by
          rw [registerSend, length_append, length_singleton]
          exact Nat.add_sub_cancel _ 1
        dsimp only
        rw [place]
        rfl

lemma onOffer_cases (id manifest) :
    s.onOffer T id manifest = s ∨ ∃ m r, s.transfers.get? id = none ∧
      m.validate T s.limits.manifestLimits = .ok () ∧
      s.activeCount < s.limits.maxConcurrent ∧
      s.tempUsageBytes + (m.sizeBytes + s.reservedIncomingBytes) ≤ s.limits.tempLimitBytes ∧
      offered id m = .ok r ∧ s.onOffer T id manifest = s.registerOffer id r := by
  unfold onOffer
  split
  · exact .inl rfl
  · split
    · exact .inl rfl
    · rename_i unknown
      cases manifest with
      | none => exact .inl rfl
      | some m =>
        dsimp only
        cases valid : m.validate T s.limits.manifestLimits with
        | error => exact .inl rfl
        | ok _ =>
          dsimp only
          split
          · exact .inl rfl
          · rename_i room
            unfold checkQuota
            dsimp only
            split_ifs with full
            · exact .inl rfl
            · dsimp only
              cases made : offered id m with
              | error => exact .inl rfl
              | ok r =>
                refine .inr ⟨m, r, ?_, valid, not_le.mp room, not_lt.mp full, made, rfl⟩
                exact Option.not_isSome_iff_eq_none.mp unknown

end

lemma filed_registerOffer (filed : Filed s) (id r) : Filed (s.registerOffer id r) := by
  constructor
  · intro id' i found
    rcases get?_of_set found with ⟨-, ⟨⟩⟩ | ⟨-, old⟩
    exact filed.sending id' i old
  · intro id' i found
    change i < (s.receiving ++ [r]).length
    rw [length_append, length_singleton]
    rcases get?_of_set found with ⟨-, ⟨⟩⟩ | ⟨-, old⟩
    · exact lt_succ_self _
    · exact (filed.receiving id' i old).trans (lt_succ_self _)

lemma receiving_registerOffer (filed : Filed s) {id id'}
    (other : id' ≠ id) (found : (s.registerOffer id r).transfers.get? id' = some ref) :
    s.transfers.get? id' = some ref ∧
      ∀ i, ref = .receiving i → (s.registerOffer id r).receiving[i]? = s.receiving[i]? := by
  change (s.transfers.set id (.receiving s.receiving.length)).get? id' = _ at found
  rw [get?_set_ne _ _ other] at found
  refine ⟨found, ?_⟩
  rintro i rfl
  exact getElem?_append_left (filed.receiving id' i found)

lemma activeCount_registerOffer (filed : Filed s) (id r) :
    (s.registerOffer id r).activeCount ≤ s.activeCount + 1 := by
  refine (total_le_add_share id fun id' other => ?_).trans
    (Nat.add_le_add_left (activeShare_le_one _ _) _)
  apply activeShare_le
  intro ref found active
  obtain ⟨known, same⟩ := receiving_registerOffer filed other found
  refine ⟨known, ?_⟩
  cases ref with
  | sending => exact active
  | receiving i =>
    obtain ⟨r', at_i, now⟩ := isActive_receiving.mp active
    rw [same i rfl] at at_i
    exact isActive_receiving.mpr ⟨r', at_i, now⟩

def InTurn (s : TransferManager) : TransferEvent → Prop
  | .runOffer k keyed =>
    ∀ i, s.offers[k]? = some i → s.Pending i keyed → s.activeCount < s.limits.maxConcurrent
  | _ => True

/-- What every quiet change, every new transfer and every offer leaves true is true after an
event. -/
lemma step_induction {J : TransferManager → Prop} (e) (quiet : ∀ s', Quiet T s s' → J s')
    (send : ∀ m b now, J (s.registerSend m b now)) (offer : ∀ s' i keyed, J s' → J (s'.offer i keyed))
    (incoming : ∀ id m r, m.validate T s.limits.manifestLimits = .ok () →
      s.tempUsageBytes + (m.sizeBytes + s.reservedIncomingBytes) ≤ s.limits.tempLimitBytes →
      offered id m = .ok r → J (s.registerOffer id r)) : J (s.step T e) := by
  have still : J s := quiet s (Calm.refl s).toQuiet
  cases kind : activates e with
  | false => exact quiet _ (quiet_step s kind)
  | true =>
    cases e with
    | sendFile pathName mime content transferId keyed now =>
      change J (s.sendFile T pathName mime content transferId keyed now)
      rcases sendFile_cases s pathName mime content transferId keyed now with same | ⟨m, b, eq⟩
      · rwa [same]
      · rw [eq]
        split_ifs
        · exact offer _ _ _ (send m b now)
        · exact send m b now
    | peerOffer id manifest =>
      change J (s.unlessClosing (s.onOffer T id manifest))
      unfold unlessClosing
      split_ifs
      · exact still
      · rcases onOffer_cases s id manifest with same | ⟨m, r, -, valid, -, fits, offered, eq⟩
        · rwa [same]
        · rw [eq]
          exact incoming id m r valid fits offered
    | runOffer k keyed =>
      change J (s.runOffer k keyed)
      unfold runOffer
      split
      · exact still
      · exact offer _ _ _ (quiet _ { Calm.refl s with })
    | _ => cases kind

lemma limits_step (s : TransferManager) (e) : (s.step T e).limits = s.limits :=
  step_induction e (fun _ quiet => quiet.limits) (fun _ _ _ => rfl)
    (fun s' i keyed => (limits_offer s' i keyed).trans) fun _ _ _ _ _ _ => rfl

section
variable (filed : Filed s)
include filed

lemma filed_step (e) : Filed (s.step T e) :=
  step_induction e (fun _ quiet => quiet.filed filed)
    (fun m b now => filed_registerSend s m b now filed)
    (fun _ i keyed filed => filed_offer filed i keyed)
    fun id _ r _ _ _ => filed_registerOffer filed id r

section
variable (room : s.activeCount ≤ s.limits.maxConcurrent)
include room

lemma activeCount_sendFile (pathName mime content transferId keyed now) :
    (s.sendFile T pathName mime content transferId keyed now).activeCount ≤
      s.limits.maxConcurrent := by
  rcases sendFile_cases s pathName mime content transferId keyed now with same | ⟨m, b, eq⟩
  · rwa [same]
  · rw [eq]
    split_ifs with free
    · have more := activeCount_offer_le (filed_registerSend s m b now filed) s.sending.length keyed
      exact more.trans free
    · exact (activeCount_registerSend s m b now).trans room

lemma activeCount_onOffer (id manifest) :
    (s.unlessClosing (s.onOffer T id manifest)).activeCount ≤ s.limits.maxConcurrent := by
  unfold unlessClosing
  split_ifs
  · exact room
  · rcases onOffer_cases s id manifest with same | ⟨m, r, -, -, free, -, -, eq⟩
    · rwa [same]
    · rw [eq]
      exact (activeCount_registerOffer filed id r).trans free

lemma activeCount_runOffer_iff (k keyed) :
    (s.runOffer k keyed).activeCount ≤ s.limits.maxConcurrent ↔ s.InTurn (.runOffer k keyed) := by
  unfold runOffer InTurn
  cases spawned : s.offers[k]? with
  | none =>
    refine ⟨fun _ i at_k => ?_, fun _ => room⟩
    simp [spawned] at at_k
  | some i =>
    dsimp only
    set s₁ : TransferManager := { s with offers := s.offers.eraseIdx k } with hs₁
    have filed₁ : Filed s₁ := ⟨filed.sending, filed.receiving⟩
    rcases offer_cases s₁ i keyed with ⟨same, idle⟩ | ⟨o, found, keyed', queued, eq⟩
    · rw [same]
      refine ⟨fun _ j at_k pending => ?_, fun _ => room⟩
      rw [some.inj (at_k.symm.trans spawned)] at pending
      exact absurd pending idle
    · rw [eq]
      by_cases known : s₁.transfers.get? o.manifest.transferId = some (.sending i)
      · constructor
        · intro capped j _ _
          exact (activeCount_offered_lt found queued known).trans_le capped
        · intro inTurn
          have free := inTurn i spawned ⟨o, found, keyed', queued, known⟩
          exact (activeCount_offered_le found filed₁).trans free
      · refine ⟨fun _ j at_k pending => ?_, fun _ => ?_⟩
        · rw [some.inj (at_k.symm.trans spawned)] at pending
          obtain ⟨o', found', -, -, known'⟩ := pending
          rw [← some.inj (found.symm.trans found')] at known'
          exact absurd known' known
        · exact (activeCount_offered_unknown found filed₁ known).trans room

lemma activeCount_step_iff (e) :
    (s.step T e).activeCount ≤ (s.step T e).limits.maxConcurrent ↔ s.InTurn e := by
  rw [limits_step]
  cases kind : activates e with
  | false =>
    have capped := (quiet_step (T := T) s kind).activeCount_le.trans room
    refine ⟨fun _ => ?_, fun _ => capped⟩
    cases e with
    | runOffer => cases kind
    | _ => trivial
  | true =>
    cases e with
    | sendFile =>
      exact ⟨fun _ => trivial, fun _ => activeCount_sendFile filed room _ _ _ _ _ _⟩
    | peerOffer id manifest =>
      exact ⟨fun _ => trivial, fun _ => activeCount_onOffer filed room id manifest⟩
    | runOffer k keyed => exact activeCount_runOffer_iff filed room k keyed
    | _ => cases kind

end

end

lemma filed_start (limits temp) : Filed (start limits temp) := by
  constructor
  · rintro id i ⟨⟩
  · rintro id i ⟨⟩

lemma limits_run (limits temp events) : (run T limits temp events).limits = limits := by
  induction events using List.reverseRecOn with
  | nil => rfl
  | append_singleton events e ih =>
    rw [run, foldl_append]
    exact (limits_step _ e).trans ih

/-- The number of active transfers stays within the limit at every moment of a run exactly if
every spawned offer that makes a transfer active finds room. -/
theorem concurrency_capped_iff (T : TransferPrimitives) (limits : TransferLimits)
    (temp : Dict String Bytes) (events : List TransferEvent) :
    (∀ earlier, earlier <+: events →
      (run T limits temp earlier).activeCount ≤ limits.maxConcurrent) ↔
        Runs.Along (step T) InTurn (start limits temp) events := by
  have moments : Runs.Along (step T) InTurn (start limits temp) events ↔
      ∀ earlier, earlier <+: events → (run T limits temp earlier).activeCount ≤
        (run T limits temp earlier).limits.maxConcurrent := by
    apply Runs.along_iff_forall_moment (J := Filed)
      (P := fun s => s.activeCount ≤ s.limits.maxConcurrent) (filed_start limits temp)
      (zero_le _)
    · intro s e _ filed _ _
      exact filed_step filed e
    · intro s e _ filed room
      exact activeCount_step_iff filed room e
  simp [moments, limits_run]

def oneAtATime : TransferLimits :=
  { maxFileSizeBytes := 1000, maxConcurrent := 1, chunkSizeBytes := 1, tempLimitBytes := 1000 }

def sendOne (name transferId : String) : TransferEvent :=
  .sendFile name "text/plain" [7] transferId true 0

def promotedTogether : List TransferEvent :=
  [sendOne "a.bin" "tf_0000000a", sendOne "b.bin" "tf_0000000b", sendOne "c.bin" "tf_0000000c",
    .cancel "tf_0000000a" none true, .runOffer 0 true, .runOffer 0 true]

theorem two_promoted_at_once :
    (run plainTransfer oneAtATime Dict.empty promotedTogether).activeCount = 2 := by
  decide +kernel

end TransferManager

end Ghostlink.FileTransfer
