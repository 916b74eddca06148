import Ghostlink.Transport.Connection

/-! When the calls of a connection manager come one at a time, at most one of its coroutines is
active: the others are finished or have been cancelled. The await of the active one says what the
state is, so that the transition it makes next is one of the table. -/

namespace Ghostlink.Connection
open Runs List Option ConnectionState

def Purpose.Fits (state : ConnectionState) : Purpose → Prop
  | .shutdown => state ≠ .closed
  | .renewal => state = .connected ∨ state = .disconnected

namespace ConnectionManager

/-- Neither finished nor cancelled. -/
def active (m : ConnectionManager) (i : ℕ) : Bool :=
  m.coroutines[i]?.any fun c => !c.place.finished && !c.cancelled

def running (m : ConnectionManager) : List ℕ := (range m.coroutines.length).filter m.active

/-- Calls come one at a time: `open` when no coroutine is active, `close` when none is but the task
that it cancels first, `reconnect` when none is but the reader and the state is CONNECTED or
DISCONNECTED. A call that is refused or finds the connection CLOSED may come at any time. -/
def Apart (m : ConnectionManager) : Event → Bool
  | .openCall _ _ => m.state = .disconnected → m.running = []
  | .closeCall => m.state ≠ .closed →
    ∀ i ∈ m.running, (m.reconnectTask.filter m.unfinished).or m.readerTask = some i
  | .reconnectCall => ¬ (m.attempts = 0 ∨ m.reconnectTask.any m.unfinished) →
    (m.state = .connected ∨ m.state = .disconnected) ∧ ∀ i ∈ m.running, m.readerTask = some i
  | _ => true

/-- The connection stands, over the transport `t`. -/
def Live (m : ConnectionManager) (t : ℕ) : Prop :=
  m.state = .connected ∧ m.transport = some t ∧ m.closeRequested = false

end ConnectionManager

/-- What an active coroutine finds when it waits at the place. -/
def Place.Fits (m : ConnectionManager) (i : ℕ) : Place → Prop
  | .openFactory _ _ | .openTransport _ _ _ | .openHandshake _ _ | .openClosing _ _ =>
    m.state = .connecting ∧ m.closeRequested = false
  | .loopStart => m.state = .disconnected ∧ m.closeRequested = false
  | .loopSleep _ | .loopFactory _ | .loopOpen _ _ | .loopHandshake _ _ =>
    m.state = .reconnecting ∧ m.closeRequested = false
  | .callback t | .reading t | .readerClosing t => m.Live t
  | .readerStart => ∃ t, m.Live t
  | .closeReconnect _ => m.state ≠ .closed ∧ m.readerTask ≠ some i
  | .awaitReader purpose _ _ | .awaitClose purpose _ => purpose.Fits m.state ∧ m.transport = none
  | .closeReturned | .ended _ => True

namespace ConnectionManager

/-- Where the callbacks do not fail and nothing is cancelled while CONNECTED, as `w` says, a
coroutine is active in that state. -/
structure Driven (w : Prop) (m : ConnectionManager) : Prop where
  lawful : m.forbidden = []
  known : ∀ r, m.readerTask = some r → r < m.coroutines.length
  alone : ∀ i j, m.active i → m.active j → i = j
  fits : ∀ i (place : Place), m.coroutines[i]? = some ⟨place, false⟩ → place.finished = false →
    place.Fits m i
  watched : w → m.state = .connected → ∃ i, m.active i

/-- Coroutine `i` has been resumed or called, and no other is active. -/
def Acting (i : ℕ) (m : ConnectionManager) : Prop :=
  m.forbidden = [] ∧ (∀ r, m.readerTask = some r → r < m.coroutines.length) ∧
    (∀ j, m.active j → j = i) ∧ ∃ place, m.coroutines[i]? = some ⟨place, false⟩

lemma closed_allowed : closed ∈ disconnected.allowed := by decide

section
variable {w : Prop} {m m' : ConnectionManager} {i j : ℕ} {place : Place}

lemma active_iff : m.active i ↔
    ∃ place : Place, m.coroutines[i]? = some ⟨place, false⟩ ∧ place.finished = false := by
  rw [active]
  cases m.coroutines[i]? with
  | none => simp
  | some c =>
    obtain ⟨place, cancelled⟩ := c
    cases cancelled <;> simp

lemma mem_running : i ∈ m.running ↔ m.active i := by
  rw [running, mem_filter, mem_range, and_iff_right_iff_imp]
  intro act
  obtain ⟨place, found, -⟩ := active_iff.mp act
  exact (List.getElem?_eq_some_iff.mp found).1

lemma at_park {p : Place} (found : (m.park i place).coroutines[j]? = some ⟨p, false⟩) :
    j = i ∧ p = place ∨ j ≠ i ∧ m.coroutines[j]? = some ⟨p, false⟩ := by
  rw [getElem?_park] at found
  obtain ⟨⟨q, cancelled⟩, there, same⟩ := map_eq_some_iff.mp found
  split_ifs at same with own
  · exact .inl ⟨own.symm, (congrArg Coroutine.place same).symm⟩
  · exact .inr ⟨Ne.symm own, same ▸ there⟩

lemma at_spawn {p : Place} (found : (m.spawn place).coroutines[j]? = some ⟨p, false⟩) :
    j = m.coroutines.length ∧ p = place ∨ m.coroutines[j]? = some ⟨p, false⟩ := by
  rw [spawn, getElem?_append] at found
  split_ifs at found with old
  · exact .inr found
  · rw [getElem?_singleton] at found
    split_ifs at found with last
    cases found
    exact .inl ⟨by omega, rfl⟩

lemma driven_of_only (lawful : m.forbidden = [])
    (known : ∀ r, m.readerTask = some r → r < m.coroutines.length)
    (here : m.coroutines[i]? = some ⟨place, false⟩) (unfinished : place.finished = false)
    (only : ∀ j, m.active j → j = i) (fits : place.Fits m i) : m.Driven w := by
  refine ⟨lawful, known, fun j k first second => (only j first).trans (only k second).symm,
    fun j p found on => ?_, fun _ _ => ⟨i, active_iff.mpr ⟨place, here, unfinished⟩⟩⟩
  cases only j (active_iff.mpr ⟨p, found, on⟩)
  cases here.symm.trans found
  exact fits

section
variable (acting : Acting i m)
include acting

lemma Acting.park (fits : place.Fits m i) (unfinished : place.finished = false) :
    (m.park i place).Driven w := by
  obtain ⟨lawful, known, only, p, here⟩ := acting
  have parked : (m.park i place).coroutines[i]? = some ⟨place, false⟩ := by
    rw [getElem?_park, here]
    simp
  refine driven_of_only lawful (fun r reader => ?_) parked unfinished (fun j act => ?_) fits
  · exact (length_modify ..).symm ▸ known r reader
  · obtain ⟨p, found, on⟩ := active_iff.mp act
    rcases at_park found with ⟨own, -⟩ | ⟨-, before⟩
    · exact own
    · exact only j (active_iff.mpr ⟨p, before, on⟩)

lemma Acting.ends (off : w → m.state ≠ .connected) (finished : place.finished) :
    (m.park i place).Driven w := by
  obtain ⟨lawful, known, only, here⟩ := acting
  have none {j : ℕ} {p : Place} (found : (m.park i place).coroutines[j]? = some ⟨p, false⟩)
      (on : p.finished = false) : False := by
    rcases at_park found with ⟨-, rfl⟩ | ⟨other, before⟩
    · exact Bool.false_ne_true (on.symm.trans finished)
    · exact other (only j (active_iff.mpr ⟨p, before, on⟩))
  refine ⟨lawful, fun r reader => ?_, fun j k first _ => ?_, fun j p found on => (none found on).elim,
    fun on state => absurd state (off on)⟩
  · exact (length_modify ..).symm ▸ known r reader
  · obtain ⟨p, found, on⟩ := active_iff.mp first
    exact (none found on).elim

/-- The coroutine starts a task and ends. -/
lemma Acting.starts (spawned : m'.coroutines = (m.spawn place).coroutines)
    (same : m'.forbidden = m.forbidden)
    (known' : ∀ r, m'.readerTask = some r → r < m'.coroutines.length)
    (fits : place.Fits m' m.coroutines.length) (unfinished : place.finished = false) :
    (m'.finish i .returned).Driven w := by
  obtain ⟨lawful, -, only, p, here⟩ := acting
  have before : i < m.coroutines.length := (List.getElem?_eq_some_iff.mp here).1
  have new : (m'.finish i .returned).coroutines[m.coroutines.length]? = some ⟨place, false⟩ := by
    rw [finish, getElem?_park, spawned, spawn, getElem?_concat_length]
    simp [before.ne]
  refine driven_of_only (same.trans lawful) (fun r reader => ?_) new unfinished (fun j act => ?_) fits
  · exact (length_modify ..).symm ▸ known' r reader
  · obtain ⟨p, found, on⟩ := active_iff.mp act
    rcases at_park found with ⟨-, rfl⟩ | ⟨other, there⟩
    · cases on
    · rcases at_spawn (spawned ▸ there) with ⟨last, -⟩ | old
      · exact last
      · exact absurd (only j (active_iff.mpr ⟨p, old, on⟩)) other

lemma Acting.startReader {t} (live : m.Live t) : (m.startReader i).Driven w :=
  acting.starts rfl rfl (fun r reader => by cases reader; simp [spawn]) ⟨t, live⟩ rfl

lemma Acting.connect {t callback} (state : m.state = .connecting ∨ m.state = .reconnecting)
    (wanted : m.closeRequested = false) : (m.connect i t callback).Driven w := by
  have allowed : connected ∈ m.state.allowed := by
    rcases state with state | state <;> rw [state] <;> decide
  have live : Live { m with transport := some t, state := .connected } t := ⟨rfl, rfl, wanted⟩
  have on : Acting i { m with transport := some t, state := .connected } := acting
  rw [ConnectionManager.connect, ask, if_pos allowed]
  split_ifs
  · exact on.park live rfl
  · exact on.startReader live

lemma Acting.openFailed (state : m.state = .connecting) (timedOut) :
    (m.openFailed i timedOut).Driven w := by
  have off : Acting i { m with state := .disconnected } := acting
  have ended : ({ m with state := .disconnected }.finish i .raised).Driven w :=
    off.ends (fun _ => noConfusion) rfl
  cases timedOut with
  | false =>
    rw [ConnectionManager.openFailed, if_neg Bool.false_ne_true, ask, if_pos (state ▸ by decide)]
    exact ended
  | true =>
    rw [ConnectionManager.openFailed, if_pos rfl, ask, if_pos (state ▸ by decide), ask,
      if_pos (show disconnected ∈ ConnectionState.timedOut.allowed by decide)]
    exact ended

lemma Acting.nextAttempt (state : m.state = .reconnecting) (a) :
    (m.nextAttempt i a).Driven w := by
  have off : w → m.state ≠ .connected := fun _ on => noConfusion (state.symm.trans on)
  rw [ConnectionManager.nextAttempt]
  split_ifs with last wanted
  · rw [ask, if_pos (state ▸ by decide), ask, if_pos closed_allowed]
    have closed : Acting i { m with state := .closed } := acting
    exact closed.ends (fun _ => noConfusion) rfl
  · exact acting.ends off rfl
  · exact acting.park ⟨state, Bool.eq_false_iff.mpr wanted⟩ rfl

lemma Acting.startLoop (state : m.state = .connected ∨ m.state = .disconnected) :
    (m.startLoop i).Driven w := by
  have allowed : reconnecting ∈ m.state.allowed := by
    rcases state with state | state <;> rw [state] <;> decide
  have on : Acting i { m with state := .reconnecting } := acting
  rw [ConnectionManager.startLoop, ask, if_pos allowed]
  exact on.nextAttempt rfl 1

lemma Acting.recover (state : m.state = .connected ∨ m.state = .disconnected) :
    (m.recover i).Driven w := by
  rw [ConnectionManager.recover]
  split_ifs with on
  · have off : Acting i { m with state := .disconnected } := acting
    rw [ask, if_pos (on ▸ by decide)]
    exact off.startLoop (.inr rfl)
  · exact acting.startLoop state

lemma Acting.closeFinal (state : m.state ≠ .closed) : (m.closeFinal i).Driven w := by
  have closed : Acting i { m with state := .closed } := acting
  have ended : ({ m with state := .closed }.park i .closeReturned).Driven w :=
    closed.ends (fun _ => noConfusion) rfl
  rw [ConnectionManager.closeFinal]
  split_ifs with first
  · have allowed : disconnected ∈ m.state.allowed := by
      revert state first
      cases m.state <;> decide
    rw [ask, if_pos allowed, ask, if_pos closed_allowed]
    exact ended
  · rw [ask, if_pos (not_not.mp first ▸ by decide)]
    exact ended

lemma Acting.unexpected (state : m.state = .connected) : (m.unexpected i).Driven w := by
  have off : Acting i { m with state := .disconnected } := acting
  rw [ConnectionManager.unexpected, if_pos state, ask, if_pos (state ▸ by decide), unexpectedEnd]
  split
  · next again =>
    refine off.starts rfl rfl (fun r reader => ?_) ⟨rfl, again.2⟩ rfl
    exact (off.2.1 r reader).trans_le (by simp [spawn])
  · rw [if_pos rfl, ask, if_pos closed_allowed]
    have closed : Acting i { m with state := .closed } := acting
    exact closed.ends (fun _ => noConfusion) rfl

lemma Acting.act {purpose : Purpose} (fits : purpose.Fits m.state) :
    (m.perform (purpose.act i)).Driven w := by
  cases purpose with
  | shutdown => exact acting.closeFinal fits
  | renewal => exact acting.recover fits

lemma Acting.openClose (state : m.state = .connecting) (wanted : m.closeRequested = false)
    (timedOut t) :
    ((m.openClose i timedOut t).1.perform (m.openClose i timedOut t).2).Driven w := by
  rw [ConnectionManager.openClose]
  split_ifs
  · exact acting.openFailed state timedOut
  · have closing : Acting i (m.setState t .closing) := acting
    exact closing.park ⟨state, wanted⟩ rfl

lemma Acting.dispose {purpose : Purpose} (fits : purpose.Fits m.state) (taken : m.transport = none)
    (t) : ((m.dispose purpose i t).1.perform (m.dispose purpose i t).2).Driven w := by
  rw [ConnectionManager.dispose]
  split
  · next t _ =>
    have closing : Acting i (m.setState t .closing) := acting
    exact closing.park ⟨fits, taken⟩ rfl
  · exact acting.act fits

lemma Acting.readerStops {t} (live : m.Live t) :
    ((m.readerStops i).1.perform (m.readerStops i).2).Driven w := by
  rw [ConnectionManager.readerStops, if_neg (Bool.eq_false_iff.mp live.2.2), unexpectedClose]
  split
  · next t' found =>
    have current := (filter_eq_some_iff.mp found).1
    have closing : Acting i (m.setState t' .closing) := acting
    exact closing.park ⟨live.1, current, live.2.2⟩ rfl
  · exact acting.unexpected live.1

end

lemma at_flag {k} {p : Place} (found : (m.flag k).coroutines[j]? = some ⟨p, false⟩) :
    j ≠ k ∧ m.coroutines[j]? = some ⟨p, false⟩ := by
  rw [flag, getElem?_modify] at found
  obtain ⟨c, there, same⟩ := map_eq_some_iff.mp found
  split_ifs at same with own
  · cases congrArg Coroutine.cancelled same
  · exact ⟨Ne.symm own, same ▸ there⟩

lemma getElem?_flag_ne {k} (other : j ≠ k) : (m.flag k).coroutines[j]? = m.coroutines[j]? := by
  rw [flag, getElem?_modify]
  simp [other.symm]

/-- The reader that is taken away is the only other coroutine that may be active. -/
lemma driven_take {purpose : Purpose} (lawful : m.forbidden = [])
    (only : ∀ j, m.active j → j = i ∨ m.readerTask.filter m.unfinished = some j)
    (here : ∃ place, m.coroutines[i]? = some ⟨place, false⟩)
    (other : m.readerTask.filter m.unfinished ≠ some i) (fits : purpose.Fits m.state) :
    ((m.take purpose i).1.perform (m.take purpose i).2).Driven w := by
  rw [take]
  split
  · next task found =>
    have apart : i ≠ task := fun same => other (same ▸ found)
    have flagged : Acting i ({ m with readerTask := none, transport := none }.flag task) := by
      refine ⟨lawful, fun _ reader => (by cases reader), fun j act => ?_, ?_⟩
      · obtain ⟨p, there, on⟩ := active_iff.mp act
        obtain ⟨away, before⟩ := at_flag there
        rcases only j (active_iff.mpr ⟨p, before, on⟩) with own | reader
        · exact own
        · cases found.symm.trans reader
          exact absurd rfl away
      · obtain ⟨p, there⟩ := here
        exact ⟨p, (getElem?_flag_ne apart).trans there⟩
    exact flagged.park ⟨fits, rfl⟩ rfl
  · next none =>
    have taken : Acting i { m with readerTask := Option.none, transport := Option.none } := by
      refine ⟨lawful, fun _ reader => (by cases reader), fun j act => ?_, here⟩
      rcases only j act with own | reader
      · exact own
      · cases none.symm.trans reader
    exact taken.dispose fits rfl m.transport

/-- A callback does not fail, and the task that a call waits for has not raised. -/
def Heeds (m : ConnectionManager) (answer : Answer) : Place → Bool
  | .callback _ => answer = .done
  | .closeReconnect task | .awaitReader _ task _ => m.ending task ≠ some .raised
  | _ => true

section
variable (driven : m.Driven w)
include driven

lemma Driven.resume {answer} (here : m.coroutines[i]? = some ⟨place, false⟩)
    (unfinished : place.finished = false) (heeds : w → m.Heeds answer place) :
    ((m.resume i answer place).1.perform (m.resume i answer place).2).Driven w := by
  have fits := driven.fits i place here unfinished
  have acting : Acting i m := ⟨driven.lawful, driven.known,
    fun j act => driven.alone j i act (active_iff.mpr ⟨place, here, unfinished⟩), place, here⟩
  have made : Acting i m.newTransport := acting
  have written (t : ℕ) (state : TransportState) : Acting i (m.setState t state) := acting
  cases place with
  | openFactory =>
    rw [ConnectionManager.resume]
    split_ifs
    · exact made.park fits rfl
    · exact acting.ends (fun _ on => noConfusion (fits.1.symm.trans on)) rfl
  | openTransport handshake callback t =>
    rw [ConnectionManager.resume]
    split_ifs
    · exact (written t .opened).park fits rfl
    · exact (written t .opened).connect (.inl fits.1) fits.2
    · exact acting.openClose fits.1 fits.2 true t
    · exact (written t .failed).openClose fits.1 fits.2 false t
  | openHandshake callback t =>
    rw [ConnectionManager.resume]
    split_ifs
    · exact acting.connect (.inl fits.1) fits.2
    · exact acting.openClose fits.1 fits.2 _ t
  | openClosing timedOut t => exact (written t .closed).openFailed fits.1 timedOut
  | callback t =>
    rw [ConnectionManager.resume]
    split_ifs with done
    · exact acting.startReader fits
    · exact acting.ends (fun on => absurd (of_decide_eq_true (heeds on)) done) rfl
  | loopStart => exact acting.startLoop (.inr fits.1)
  | loopSleep => exact acting.park fits rfl
  | loopFactory a =>
    rw [ConnectionManager.resume]
    split_ifs
    · exact made.park fits rfl
    · exact acting.nextAttempt fits.1 (a + 1)
  | loopOpen a t =>
    rw [ConnectionManager.resume]
    split_ifs
    · exact (written t .opened).park fits rfl
    · exact (written t .opened).connect (.inr fits.1) fits.2
    · exact (written t .failed).nextAttempt fits.1 (a + 1)
  | loopHandshake a t =>
    rw [ConnectionManager.resume]
    split_ifs
    · exact acting.connect (.inr fits.1) fits.2
    · exact acting.nextAttempt fits.1 (a + 1)
  | closeReconnect task =>
    rw [ConnectionManager.resume]
    split
    · exact driven
    · next raised => exact acting.ends (fun on => absurd raised (of_decide_eq_true (heeds on))) rfl
    · refine driven_take driven.lawful (fun j act => .inl (acting.2.2.1 j act)) ⟨_, here⟩ ?_ fits.1
      exact fun own => fits.2 (filter_eq_some_iff.mp own).1
  | awaitReader purpose task t =>
    rw [ConnectionManager.resume]
    split
    · exact driven
    · next raised => exact acting.ends (fun on => absurd raised (of_decide_eq_true (heeds on))) rfl
    · exact acting.dispose fits.1 fits.2 t
  | awaitClose purpose t => exact (written t .closed).act fits.1
  | readerStart =>
    obtain ⟨t, live⟩ := fits
    rw [ConnectionManager.resume, live.2.1]
    simp only [live.2.2, Bool.false_eq_true, if_false]
    exact acting.park live rfl
  | reading t =>
    cases answer with
    | done =>
      rw [ConnectionManager.resume, fits.2.2, if_neg Bool.false_ne_true]
      exact driven
    | noMore | lost => exact (written t .closed).readerStops fits
    | timedOut | failed => exact acting.readerStops fits
  | readerClosing t => exact (written t .closed).unexpected fits.1
  | closeReturned | ended => exact driven

lemma Driven.fewer {coroutines : List Coroutine}
    (fewer : ∀ (j : ℕ) (p : Place), p.finished = false → coroutines[j]? = some ⟨p, false⟩ →
      m.coroutines[j]? = some ⟨p, false⟩)
    (length : m.coroutines.length ≤ coroutines.length)
    (watched : w → m.state = .connected → ∃ i, active { m with coroutines } i) :
    Driven w { m with coroutines } := by
  have before {j : ℕ} (act : active { m with coroutines } j) : m.active j := by
    obtain ⟨p, found, on⟩ := active_iff.mp act
    exact active_iff.mpr ⟨p, fewer j p on found, on⟩
  exact ⟨driven.lawful, fun r reader => (driven.known r reader).trans_le length,
    fun j k first second => driven.alone j k (before first) (before second),
    fun j p found on => driven.fits j p (fewer j p on found) on, watched⟩

/-- A coroutine that is not active is cancelled, or ends. -/
lemma Driven.aside {f} (idle : w → m.state = .connected → ¬ m.active i)
    (off : ∀ c ∈ m.coroutines[i]?, (f c).cancelled ∨ (f c).place.finished) :
    Driven w { m with coroutines := m.coroutines.modify i f } := by
  refine driven.fewer (fun j p on found => ?_) (length_modify ..).ge fun pure state => ?_
  · rw [getElem?_modify] at found
    obtain ⟨c, there, same⟩ := map_eq_some_iff.mp found
    split_ifs at same with own
    · rcases off c (own ▸ there) with cancelled | finished
      · simp [same] at cancelled
      · simp [same, on] at finished
    · exact same ▸ there
  · obtain ⟨j, act⟩ := driven.watched pure state
    have other : i ≠ j := fun same => idle pure state (same ▸ act)
    obtain ⟨p, found, on⟩ := active_iff.mp act
    refine ⟨j, active_iff.mpr ⟨p, ?_, on⟩⟩
    simp [other, found]

end

/-- The coroutine that a cancellation of `i` reaches. -/
def reached (m : ConnectionManager) (i : ℕ) : ℕ := ((m.placeOf i).bind Place.awaited).getD i

/-- Callbacks succeed, no task has raised that a call waits for, and while CONNECTED no active
coroutine is cancelled. -/
def Heeded (m : ConnectionManager) : Event → Bool
  | .resume i answer => (m.placeOf i).all (m.Heeds answer)
  | .cancel i => m.state = .connected → ¬ m.active (m.reached i)
  | _ => true

lemma unfinished_of_active (act : m.active i) : m.unfinished i := by
  obtain ⟨place, found, on⟩ := active_iff.mp act
  simp [unfinished, placeOf, found, on]

lemma active_called (act : (m.spawn (.ended .returned)).active j) : m.active j := by
  obtain ⟨p, found, on⟩ := active_iff.mp act
  rcases at_spawn found with ⟨-, rfl⟩ | before
  · cases on
  · exact active_iff.mpr ⟨p, before, on⟩

lemma Driven.fresh (driven : m.Driven w) : m.readerTask ≠ some m.coroutines.length :=
  fun same => lt_irrefl _ (driven.known _ same)

lemma Driven.closeCall (driven : m.Driven w) (apart : m.Apart .closeCall) :
    (m.step .closeCall).Driven w := by
  have apart := of_decide_eq_true apart
  rw [ConnectionManager.step, dispatch]
  split_ifs with closed
  · refine driven.fewer (fun j p on found => ?_) (by simp) fun _ state => ?_
    · rcases at_spawn found with ⟨-, rfl⟩ | before
      · cases on
      · exact before
    · cases closed.symm.trans state
  · have only {j : ℕ} (act : m.active j) :
        (m.reconnectTask.filter m.unfinished).or m.readerTask = some j :=
      apart closed j (mem_running.mpr act)
    simp only
    split
    · next task found =>
      have inside : m.coroutines.length ≠ task := by
        rintro rfl
        simpa [unfinished, placeOf] using (filter_eq_some_iff.mp found).2
      have acting : Acting m.coroutines.length ({ m.spawn (.ended .returned) with
          closeRequested := true, reconnectTask := none }.flag task) := by
        refine ⟨driven.lawful, fun r reader => ?_, fun j act => ?_, _,
          (getElem?_flag_ne inside).trans getElem?_concat_length⟩
        · exact (driven.known r reader).trans_le (by simp [flag, spawn])
        · obtain ⟨p, there, on⟩ := active_iff.mp act
          obtain ⟨away, before⟩ := at_flag there
          have this := only (active_called (active_iff.mpr ⟨p, before, on⟩))
          rw [found, some_or] at this
          exact absurd (Option.some.inj this).symm away
      exact acting.park ⟨closed, driven.fresh⟩ rfl
    · next none =>
      refine driven_take driven.lawful (fun j act => .inr ?_) ⟨_, getElem?_concat_length⟩ ?_ closed
      · have this := only (active_called act)
        rw [none, none_or] at this
        exact filter_eq_some_iff.mpr ⟨this, unfinished_of_active act⟩
      · exact fun own => driven.fresh (filter_eq_some_iff.mp own).1

lemma Driven.step (driven : m.Driven w) {e} (apart : m.Apart e) (heeded : w → m.Heeded e) :
    (m.step e).Driven w := by
  cases e with
  | openCall handshake callback =>
    have apart := of_decide_eq_true apart
    rw [ConnectionManager.step, dispatch]
    split_ifs with off
    · have none {j : ℕ} (act : m.active j) : False := by
        have mem := mem_running.mpr act
        rw [apart off] at mem
        cases mem
      have allowed : connecting ∈ (m.spawn (.openFactory handshake callback)).state.allowed := by
        rw [show (m.spawn _).state = m.state from rfl, off]
        decide
      simp only [perform, begin, ask, if_pos allowed]
      refine driven_of_only driven.lawful (fun r reader => ?_) getElem?_concat_length rfl
        (fun j act => ?_) ⟨rfl, rfl⟩
      · exact (driven.known r reader).trans_le (by simp [spawn])
      · obtain ⟨p, found, on⟩ := active_iff.mp act
        rcases at_spawn found with ⟨last, -⟩ | old
        · exact last
        · exact (none (active_iff.mpr ⟨p, old, on⟩)).elim
    · exact driven
  | closeCall => exact driven.closeCall apart
  | reconnectCall =>
    have apart := of_decide_eq_true apart
    rw [ConnectionManager.step, dispatch]
    split_ifs with refused
    · exact driven
    · obtain ⟨state, only⟩ := apart refused
      refine driven_take driven.lawful (fun j act => .inr ?_) ⟨_, getElem?_concat_length⟩ ?_ state
      · have this := only j (mem_running.mpr (active_called act))
        exact filter_eq_some_iff.mpr ⟨this, unfinished_of_active act⟩
      · exact fun own => driven.fresh (filter_eq_some_iff.mp own).1
  | resume i answer =>
    rw [ConnectionManager.step, dispatch]
    split
    · exact driven
    · next c there =>
      split_ifs with finished cancelled
      · exact driven
      · refine driven.aside (fun _ _ act => ?_) fun d _ => .inr rfl
        obtain ⟨p, found, -⟩ := active_iff.mp act
        cases there.symm.trans found
        cases cancelled
      · obtain ⟨place, flag⟩ := c
        cases Bool.eq_false_iff.mpr cancelled
        refine driven.resume there (Bool.eq_false_iff.mpr finished) fun pure => ?_
        have heeds := heeded pure
        simpa [Heeded, placeOf, there] using heeds
  | cancel i =>
    exact driven.aside (fun pure => of_decide_eq_true (heeded pure)) fun _ _ => .inl rfl
  | closesOutside | closedOutside =>
    rw [ConnectionManager.step, dispatch]
    split_ifs
    · exact { driven with }
    · exact driven

end

lemma driven_start (w : Prop) (attempts) : (start attempts).Driven w := by
  refine ⟨rfl, fun r reader => ?_, fun i j act => ?_, fun i place found => ?_, fun _ state => ?_⟩
  · cases reader
  · cases act
  · cases found
  · cases state

lemma driven_run {w : Prop} {attempts events}
    (fair : Along step (fun m e => m.Apart e ∧ (w → m.Heeded e)) (start attempts) events) :
    ((start attempts).run events).Driven w :=
  fair.invariant (driven_start w attempts) fun _ _ driven fair => driven.step fair.1 fair.2

/-- As long as the calls come one at a time, no transition is attempted against the table; and a
`close` that has returned leaves the connection CLOSED for good. -/
theorem lifecycle_safe (attempts : ℕ) (events : List Event) :
    (Along step (fun m e => m.Apart e) (start attempts) events →
      ((start attempts).run events).forbidden = []) ∧
    ∀ js ks, js ++ ks = events → ((start attempts).run js).Returned →
      ((start attempts).run (js ++ ks)).state = .closed := by
  constructor
  · intro apart
    have fair : Along step (fun m e => m.Apart e ∧ (False → m.Heeded e)) (start attempts) events :=
      apart.mono fun m e alone => ⟨alone, False.elim⟩
    exact (driven_run fair).lawful
  · intro js ks _ returned
    rw [run, foldl_append]
    exact closed_run (closed_of_returned attempts js returned) ks

/-- The connection is opened, lost, and found again in the second attempt. -/
def recovery : List Event :=
  [.openCall true true, .resume 0 .done, .resume 0 .done, .resume 0 .done, .resume 0 .done,
    .resume 1 .done, .resume 1 .lost, .resume 2 .done, .resume 2 .done, .resume 2 .failed,
    .resume 2 .done, .resume 2 .done, .resume 2 .done, .resume 2 .done, .resume 2 .done,
    .resume 3 .done]

/-- Then `reconnect` is called, it cancels the reader and dials, and later `close`. -/
def orderlyRun : List Event :=
  recovery ++ [.reconnectCall, .resume 3 .done, .resume 4 .done, .resume 4 .done, .resume 4 .done,
    .resume 4 .done, .resume 4 .done, .resume 4 .done, .resume 4 .done, .resume 5 .done, .closeCall,
    .resume 5 .done, .resume 6 .done, .resume 6 .done, .openCall true true]

theorem orderlyRun_safe : ((start 3).run orderlyRun).forbidden = [] :=
  (lifecycle_safe 3 orderlyRun).1 (by decide +kernel)

/-- `close` while `open` waits for its transport: the open resumes after the connection is
CLOSED. -/
def closedWhileOpening : List Event :=
  [.openCall false false, .resume 0 .done, .closeCall, .resume 0 .done]

theorem closedWhileOpening_not_lawful :
    ((start 3).run closedWhileOpening).forbidden = [(.closed, .connected)] := by
  decide +kernel

end ConnectionManager

/-- A reader that has not finished, with the current transport. -/
def Place.reads (transport : Option ℕ) : Place → Bool
  | .readerStart => transport.isSome
  | .reading t | .readerClosing t => transport = some t
  | _ => false

namespace ConnectionManager

end ConnectionManager
end Ghostlink.Connection
