import Ghostlink.Transport.Lifecycle

/-! Who has to close a transport. As long as the calls come one at a time and no coroutine is
cancelled that has one in its hands, a transport that has been OPEN is closed, or current while the
connection is CONNECTED, or in the hands of the active coroutine. -/

namespace Ghostlink.Connection
open Runs List Option ConnectionState

def Place.held : Place → Option ℕ
  | .openTransport _ _ t | .openHandshake _ t | .openClosing _ t | .loopOpen _ t
  | .loopHandshake _ t | .awaitClose _ t | .readerClosing t => some t
  | .awaitReader _ _ t => t
  | _ => none

def Place.closing : Place → Option ℕ
  | .openClosing _ t | .awaitClose _ t | .readerClosing t => some t
  | _ => none

namespace ConnectionManager

def hand (m : ConnectionManager) (i : ℕ) : Option ℕ := (m.placeOf i).bind Place.held

/-- Has been OPEN and is not closed. Only a transport that is not OPEN yet fails. -/
def Unclosed (m : ConnectionManager) (t : ℕ) : Prop :=
  m.transportState t = some .opened ∨ m.transportState t = some .closing

def Accounted (m : ConnectionManager) : Prop :=
  ∀ t, m.Unclosed t → m.transport = some t ∨ ∃ i, m.hand i = some t

def NoneOpen (m : ConnectionManager) : Prop :=
  m.Returned → ∀ t, m.transportState t ≠ some .opened

/-- The handshake of a reconnect attempt succeeds, the reader that a call waits for has not raised,
no active coroutine that has a transport in its hands is cancelled, by a call of `close` or `reconnect`
or otherwise, and nobody else is closing a transport for any time. -/
def Spares (m : ConnectionManager) : Event → Bool
  | .resume i answer => (m.placeOf i).all fun
    | .loopHandshake _ _ => answer = .done
    | .awaitReader _ task _ => m.ending task ≠ some .raised
    | _ => true
  | .cancel i => m.active (m.reached i) → m.hand (m.reached i) = none
  | .closeCall | .reconnectCall => ∀ i ∈ m.running, m.hand i = none
  | .closesOutside _ => false
  | _ => true

/-- Only the transport `h` has been OPEN and is not closed. -/
def Only (m : ConnectionManager) (h : Option ℕ) : Prop := ∀ t, m.Unclosed t → h = some t

/-- What the coroutine at the place has to close, beside the current transport of a connection. -/
def Owes (m : ConnectionManager) (place : Place) : Prop :=
  (∀ t, m.Unclosed t → place.held = some t ∨ m.transport = some t ∧ m.state = .connected) ∧
    ∀ t, m.transportState t = some .closing → place.closing = some t

def Custody (m : ConnectionManager) : Prop :=
  ∃ place, m.Owes place ∧ (place.held = none ∨ ∃ i : ℕ, m.coroutines[i]? = some ⟨place, false⟩)

section
variable {m m' : ConnectionManager} {i t : ℕ} {place : Place} {h : Option ℕ}

lemma transportState_setState (m : ConnectionManager) (t state u) :
    (m.setState t state).transportState u =
      if t = u then (m.transportState u).map fun _ => state else m.transportState u := by
  rw [transportState, setState, getElem?_modify]
  split_ifs <;> simp [transportState]

lemma only_setState {state} (only : m.Only (some t)) : (m.setState t state).Only (some t) := by
  intro u unclosed
  rw [Unclosed, transportState_setState] at unclosed
  split_ifs at unclosed with same
  · rw [same]
  · exact only u unclosed

lemma still_setState {state : TransportState} (other : state ≠ .closing)
    (still : ∀ u, m.transportState u ≠ some .closing) (u) :
    (m.setState t state).transportState u ≠ some .closing := by
  rw [transportState_setState]
  split_ifs
  · simp [other]
  · exact still u

/-- The transport is closed, or has failed. -/
lemma only_settle {state : TransportState} (only : m.Only (some t)) (away : state ≠ .opened)
    (ended : state ≠ .closing) : (m.setState t state).Only none := by
  intro u unclosed
  rw [Unclosed, transportState_setState] at unclosed
  split_ifs at unclosed with same
  · simp [away, ended] at unclosed
  · exact absurd (Option.some.inj (only u unclosed)) same

lemma only_newTransport (only : m.Only none) : m.newTransport.Only none := by
  intro u unclosed
  apply only u
  have old {state : TransportState} (other : state ≠ .initializing)
      (there : m.newTransport.transportState u = some state) : m.transportState u = some state := by
    rw [transportState, newTransport, getElem?_append] at there
    split_ifs at there with inside
    · exact there
    · rw [getElem?_singleton] at there
      split_ifs at there
      cases there
      exact absurd rfl other
  exact unclosed.imp (old (by decide)) (old (by decide))

lemma custody_of_only (only : m.Only none) : m.Custody := by
  refine ⟨.ended .returned, ⟨fun t unclosed => ?_, fun t closing => ?_⟩, .inl rfl⟩
  · cases only t unclosed
  · cases only t (.inr closing)

lemma transports_perform (m : ConnectionManager) (act) :
    (m.perform act).transports = m.transports := by
  cases act with
  | rest => rfl
  | begin | connect | openFailed | startLoop | recover | attempt | closeFinal | unexpected =>
    simp only [perform, begin, connect, openFailed, startLoop, recover, nextAttempt, closeFinal,
      unexpected, unexpectedEnd, ask]
    split_ifs <;> rfl

lemma custody_perform (only : m.Only none) (act) : (m.perform act).Custody := by
  refine custody_of_only fun t unclosed => only t ?_
  rwa [Unclosed, transportState, transports_perform] at unclosed

lemma Owes.only (owes : m.Owes place) (off : m.state ≠ .connected ∨ m.transport = none) :
    m.Only place.held := by
  intro t unclosed
  rcases owes.1 t unclosed with held | ⟨current, connected⟩
  · exact held
  · rcases off with state | none
    · exact absurd connected state
    · cases none.symm.trans current

section
variable (here : ∃ p, m.coroutines[i]? = some ⟨p, false⟩)
include here

lemma custody_park (owes : m.Owes place) : (m.park i place).Custody := by
  obtain ⟨p, found⟩ := here
  refine ⟨place, owes, .inr ⟨i, ?_⟩⟩
  rw [getElem?_park, found]
  simp

/-- Nothing is being closed, and the coroutine waits with the only transport there is to close. -/
lemma custody_hold (only : m.Only place.held)
    (still : ∀ t, m.transportState t ≠ some .closing) : (m.park i place).Custody :=
  custody_park here ⟨fun t unclosed => .inl (only t unclosed), fun t closing => absurd closing (still t)⟩

/-- The coroutine starts to close the only transport there is to close. -/
lemma custody_closing (only : m.Only (some t)) (held : place.held = some t)
    (closes : place.closing = some t) : ((m.setState t .closing).park i place).Custody := by
  have only : (m.setState t .closing).Only (some t) := only_setState only
  refine custody_park here ⟨fun u unclosed => .inl ?_, fun u closing => ?_⟩
  · rw [held, only u unclosed]
  · rw [closes, only u (.inr closing)]

lemma custody_openClose (only : m.Only (some t)) (still : m.transportState t ≠ some .closing)
    (timedOut) :
    ((m.openClose i timedOut t).1.perform (m.openClose i timedOut t).2).Custody := by
  rw [openClose]
  split_ifs with ended
  · refine custody_perform (fun u unclosed => ?_) _
    cases only u unclosed
    have closed := ended.resolve_left still
    rcases unclosed with opened | closing
    · cases closed.symm.trans opened
    · cases closed.symm.trans closing
  · exact custody_closing here only rfl rfl

lemma custody_dispose (only : m.Only h) (still : ∀ t, m.transportState t ≠ some .closing)
    (purpose) :
    ((m.dispose purpose i h).1.perform (m.dispose purpose i h).2).Custody := by
  rw [dispose]
  split
  · next t found =>
    rw [(filter_eq_some_iff.mp found).1] at only
    exact custody_closing here only rfl rfl
  · next none =>
    refine custody_perform (fun u unclosed => ?_) _
    rcases unclosed with opened | closing
    · rw [only u (.inl opened), filter_some, if_pos (decide_eq_true opened)] at none
      cases none
    · exact absurd closing (still u)

lemma custody_take (only : m.Only m.transport) (still : ∀ t, m.transportState t ≠ some .closing)
    (other : m.readerTask.filter m.unfinished ≠ some i) (purpose) :
    ((m.take purpose i).1.perform (m.take purpose i).2).Custody := by
  rw [take]
  split
  · next task found =>
    have apart : i ≠ task := fun same => other (same ▸ found)
    obtain ⟨p, there⟩ := here
    exact custody_hold (m := { m with readerTask := none, transport := none }.flag task)
      ⟨p, (getElem?_flag_ne apart).trans there⟩
      (show Only _ (Place.awaitReader purpose task m.transport).held from only) still
  · exact custody_dispose (m := { m with readerTask := none, transport := none }) here only still
      purpose

lemma custody_readerStops (live : m.Live t) (only : m.Only (some t))
    (still : ∀ t, m.transportState t ≠ some .closing) :
    ((m.readerStops i).1.perform (m.readerStops i).2).Custody := by
  rw [readerStops, if_neg (Bool.eq_false_iff.mp live.2.2), unexpectedClose, live.2.1]
  split
  · next t' found =>
    cases (filter_eq_some_iff.mp found).1
    exact custody_closing here only rfl rfl
  · next none =>
    refine custody_perform (fun u unclosed => ?_) _
    cases only u unclosed
    rcases unclosed with opened | closing
    · rw [filter_some, if_pos (decide_eq_true opened)] at none
      cases none
    · exact absurd closing (still t)

end

lemma custody_connect {callback} (only : m.Only (some t))
    (still : ∀ t, m.transportState t ≠ some .closing)
    (state : m.state = .connecting ∨ m.state = .reconnecting) :
    (m.connect i t callback).Custody := by
  have allowed : connected ∈ m.state.allowed := by
    rcases state with state | state <;> rw [state] <;> decide
  have current {m' : ConnectionManager} (same : m'.transports = m.transports)
      (there : m'.transport = some t) (connected : m'.state = .connected) : m'.Custody := by
    refine ⟨.ended .returned, ⟨fun u unclosed => .inr ?_, fun u closing => ?_⟩, .inl rfl⟩
    · rw [Unclosed, transportState, same] at unclosed
      exact ⟨there.trans (only u unclosed), connected⟩
    · rw [transportState, same] at closing
      exact absurd closing (still u)
  rw [ConnectionManager.connect, ask, if_pos allowed]
  split_ifs <;> exact current rfl rfl rfl

lemma Place.held_of_closing (closes : place.closing = some t) : place.held = some t := by
  cases place with
  | openClosing | awaitClose | readerClosing => exact closes
  | _ => cases closes

lemma Place.unfinished_of_held (held : place.held = some t) : place.finished = false := by
  cases place with
  | closeReturned | ended => cases held
  | _ => rfl

lemma not_closed_of_fits (fits : place.Fits m i) (held : place.held = some t) :
    m.state ≠ .closed := by
  intro closed
  cases place with
  | awaitReader purpose | awaitClose purpose =>
    cases purpose with
    | shutdown => exact fits.1 closed
    | renewal => rcases fits.1 with state | state <;> cases closed.symm.trans state
  | openTransport | openHandshake | openClosing | loopOpen | loopHandshake | readerClosing =>
    cases closed.symm.trans fits.1
  | _ => cases held

lemma Owes.of_empty {p : Place} (owes : m.Owes p) (none : p.held = none) (place : Place) :
    m.Owes place := by
  have empty {u : ℕ} (held : p.held = some u) : False := by
    cases none.symm.trans held
  exact ⟨fun u unclosed => .inr ((owes.1 u unclosed).resolve_left empty),
    fun u closing => (empty (Place.held_of_closing (owes.2 u closing))).elim⟩

section
variable (custody : m.Custody)
include custody

lemma Custody.owes {w} (driven : m.Driven w) (here : m.coroutines[i]? = some ⟨place, false⟩)
    (unfinished : place.finished = false) : m.Owes place := by
  obtain ⟨p, owes, holder⟩ := custody
  cases held : p.held with
  | none => exact owes.of_empty held place
  | some u =>
    obtain ⟨j, found⟩ := holder.resolve_left (by simp [held])
    cases driven.alone j i (active_iff.mpr ⟨p, found, Place.unfinished_of_held held⟩)
      (active_iff.mpr ⟨place, here, unfinished⟩)
    cases here.symm.trans found
    exact owes

/-- Whoever is active has nothing in its hands, so there is nothing beside the current transport. -/
lemma Custody.settled (idle : ∀ j ∈ m.running, m.hand j = none) (place : Place) : m.Owes place := by
  obtain ⟨p, owes, holder⟩ := custody
  cases held : p.held with
  | none => exact owes.of_empty held place
  | some u =>
    obtain ⟨j, found⟩ := holder.resolve_left (by simp [held])
    have none := idle j (mem_running.mpr
      (active_iff.mpr ⟨p, found, Place.unfinished_of_held held⟩))
    simp [hand, placeOf, found, held] at none

/-- A coroutine with nothing in its hands, or one that is cancelled already, moves. -/
lemma Custody.aside (f) (idle : ∀ p : Place, m.coroutines[i]? = some ⟨p, false⟩ → p.held = none) :
    Custody { m with coroutines := m.coroutines.modify i f } := by
  obtain ⟨p, owes, none | ⟨j, found⟩⟩ := custody
  · exact ⟨p, owes, .inl none⟩
  · by_cases own : i = j
    · exact ⟨p, owes, .inl (idle p (own ▸ found))⟩
    · refine ⟨p, owes, .inr ⟨j, ?_⟩⟩
      simp [own, found]

lemma Custody.resume {w answer} (driven : m.Driven w)
    (here : m.coroutines[i]? = some ⟨place, false⟩) (unfinished : place.finished = false)
    (spares : m.Spares (.resume i answer)) :
    ((m.resume i answer place).1.perform (m.resume i answer place).2).Custody := by
  have fits := driven.fits i place here unfinished
  have owes := custody.owes driven here unfinished
  have there : ∃ p, m.coroutines[i]? = some ⟨p, false⟩ := ⟨place, here⟩
  -- what the manager has to close, where the place is not that of a reader or a callback
  have only (off : m.state ≠ .connected ∨ m.transport = none) := owes.only off
  have still (none : place.closing = none) (t) : m.transportState t ≠ some .closing := by
    intro closing
    cases none.symm.trans (owes.2 t closing)
  have away {state : ConnectionState} (now : m.state = state) (other : state ≠ .connected) :
      m.state ≠ .connected ∨ m.transport = none := .inl (now ▸ other)
  rw [Spares, placeOf, here] at spares
  cases place with
  | openFactory | loopFactory =>
    have only := only (away fits.1 (by decide))
    rw [ConnectionManager.resume]
    split_ifs
    · exact custody_of_only (only_newTransport only)
    · first
      | exact custody_of_only only
      | exact custody_perform only _
  | openTransport handshake callback t =>
    have only := only (away fits.1 (by decide))
    rw [ConnectionManager.resume]
    split_ifs
    · exact custody_hold there (only_setState only) (still_setState (by decide) (still rfl))
    · exact custody_connect (only_setState only) (still_setState (by decide) (still rfl)) (.inl fits.1)
    · exact custody_openClose there only (still rfl t) true
    · exact custody_openClose (m := m.setState t .failed) there (only_setState only)
        (still_setState (by decide) (still rfl) t) false
  | openHandshake callback t =>
    have only := only (away fits.1 (by decide))
    rw [ConnectionManager.resume]
    split_ifs
    · exact custody_connect only (still rfl) (.inl fits.1)
    · exact custody_openClose there only (still rfl t) _
  | openClosing timedOut t =>
    exact custody_perform (only_settle (only (away fits.1 (by decide))) (by decide) (by decide)) _
  | callback =>
    rw [ConnectionManager.resume]
    split_ifs
    · exact ⟨_, owes, .inl rfl⟩
    · exact ⟨_, owes, .inl rfl⟩
  | loopStart => exact custody_perform (only (away fits.1 (by decide))) _
  | loopSleep => exact custody_of_only (only (away fits.1 (by decide)))
  | loopOpen a t =>
    have only := only (away fits.1 (by decide))
    rw [ConnectionManager.resume]
    split_ifs
    · exact custody_hold there (only_setState only) (still_setState (by decide) (still rfl))
    · exact custody_connect (only_setState only) (still_setState (by decide) (still rfl)) (.inr fits.1)
    · exact custody_perform (only_settle only (by decide) (by decide)) _
  | loopHandshake a t =>
    rw [ConnectionManager.resume, if_pos (of_decide_eq_true spares)]
    exact custody_connect (only (away fits.1 (by decide))) (still rfl) (.inr fits.1)
  | closeReconnect task =>
    rw [ConnectionManager.resume]
    split
    · exact custody
    · exact ⟨_, owes, .inl rfl⟩
    · refine custody_take there (fun t unclosed => ?_) (still rfl) (fun own => ?_) _
      · exact ((owes.1 t unclosed).resolve_left (by rintro ⟨⟩)).1
      · exact fits.2 (filter_eq_some_iff.mp own).1
  | awaitReader purpose task t =>
    rw [ConnectionManager.resume]
    split
    · exact custody
    · next raised => exact absurd raised (of_decide_eq_true spares)
    · exact custody_dispose there (only (.inr fits.2)) (still rfl) purpose
  | awaitClose purpose t =>
    exact custody_perform (only_settle (only (.inr fits.2)) (by decide) (by decide)) _
  | readerStart =>
    rw [ConnectionManager.resume]
    split
    · split_ifs
      · exact ⟨_, owes, .inl rfl⟩
      · exact ⟨_, owes, .inl rfl⟩
    · exact ⟨_, owes, .inl rfl⟩
  | reading t =>
    have only : m.Only (some t) := by
      intro u unclosed
      rw [← fits.2.1]
      exact ((owes.1 u unclosed).resolve_left (by rintro ⟨⟩)).1
    cases answer with
    | done =>
      rw [ConnectionManager.resume]
      split_ifs
      · exact ⟨_, owes, .inl rfl⟩
      · exact custody
    | noMore | lost =>
      exact custody_readerStops (m := m.setState t .closed) there fits (only_setState only)
        (still_setState (by decide) (still rfl))
    | timedOut | failed => exact custody_readerStops there fits only (still rfl)
  | readerClosing t =>
    refine custody_perform (only_settle (fun u unclosed => ?_) (by decide) (by decide)) _
    rcases owes.1 u unclosed with held | ⟨current, -⟩
    · exact held
    · exact fits.2.1.symm.trans current
  | closeReturned | ended => exact custody

end

lemma Custody.step {w} (custody : m.Custody) (driven : m.Driven w) {e} (apart : m.Apart e)
    (spares : m.Spares e) : (m.step e).Custody := by
  -- a call finds nothing to close but the current transport
  have only (idle : ∀ j ∈ m.running, m.hand j = none) : m.Only m.transport := fun t unclosed =>
    (((custody.settled idle (.ended .returned)).1 t unclosed).resolve_left (by rintro ⟨⟩)).1
  have still (idle : ∀ j ∈ m.running, m.hand j = none) (t) : m.transportState t ≠ some .closing := by
    intro closing
    cases (custody.settled idle (.ended .returned)).2 t closing
  cases e with
  | openCall handshake callback =>
    rw [ConnectionManager.step, dispatch]
    split_ifs with off
    · have none := of_decide_eq_true apart off
      have owes := custody.settled (by simp [none]) (.ended .returned)
      exact custody_perform (m := m.spawn (.openFactory handshake callback))
        (owes.only (.inl (by simp [off]))) _
    · exact custody
  | closeCall =>
    have idle := of_decide_eq_true spares
    rw [ConnectionManager.step, dispatch]
    split_ifs
    · exact ⟨.ended .returned, custody.settled idle _, .inl rfl⟩
    · simp only
      split
      · exact ⟨.ended .returned, custody.settled idle _, .inl rfl⟩
      · refine custody_take (m := { m.spawn (.ended .returned) with
          closeRequested := true, reconnectTask := none }) ⟨_, getElem?_concat_length⟩ (only idle)
          (still idle) (fun own => ?_) _
        exact driven.fresh (filter_eq_some_iff.mp own).1
  | reconnectCall =>
    rw [ConnectionManager.step, dispatch]
    split_ifs
    · exact custody
    · have idle := of_decide_eq_true spares
      refine custody_take (m := m.spawn (.ended .returned)) ⟨_, getElem?_concat_length⟩ (only idle)
        (still idle) (fun own => ?_) _
      exact driven.fresh (filter_eq_some_iff.mp own).1
  | resume i answer =>
    rw [ConnectionManager.step, dispatch]
    split
    · exact custody
    · next c there =>
      split_ifs with finished cancelled
      · exact custody
      · refine custody.aside _ fun p found => ?_
        cases there.symm.trans found
        cases cancelled
      · obtain ⟨place, flag⟩ := c
        cases Bool.eq_false_iff.mpr cancelled
        exact custody.resume driven there (Bool.eq_false_iff.mpr finished) spares
  | cancel i =>
    refine custody.aside _ fun p found => ?_
    cases held : p.held with
    | none => rfl
    | some t =>
      have none := of_decide_eq_true spares
        (active_iff.mpr ⟨p, found, Place.unfinished_of_held held⟩)
      have holds : m.hand (m.reached i) = some t := by
        rw [hand, placeOf, show m.coroutines[m.reached i]? = _ from found]
        exact held
      cases none.symm.trans holds
  | closesOutside => cases spares
  | closedOutside t =>
    rw [ConnectionManager.step, dispatch]
    split_ifs
    · obtain ⟨p, owes, holder⟩ := custody
      have before {u : ℕ} {state : TransportState} (other : state ≠ .closed)
          (after : (m.setState t .closed).transportState u = some state) :
          m.transportState u = some state := by
        rw [transportState_setState] at after
        split_ifs at after
        · simp [other.symm] at after
        · exact after
      exact ⟨p, ⟨fun u unclosed => owes.1 u (unclosed.imp (before (by decide)) (before (by decide))),
        fun u closing => owes.2 u (before (by decide) closing)⟩, holder⟩
    · exact custody

end

/-- Where calls come one at a time and coroutines with a transport in their hands are spared, each
transport that has been OPEN is closed, the current one, or in the hands of a coroutine, and none is
OPEN after a call to `close` has returned. -/
theorem transports_accounted (attempts : ℕ) (events : List Event)
    (kept : Along step (fun m e => m.Apart e ∧ m.Spares e) (start attempts) events) :
    ((start attempts).run events).Accounted ∧ ((start attempts).run events).NoneOpen := by
  have both : ((start attempts).run events).Driven False ∧ ((start attempts).run events).Custody := by
    refine kept.invariant (J := fun m => m.Driven False ∧ m.Custody) ⟨driven_start _ _, ?_⟩ ?_
    · refine custody_of_only fun t unclosed => ?_
      rcases unclosed with there | there <;> cases there
    · rintro m e ⟨driven, custody⟩ ⟨apart, spares⟩
      exact ⟨driven.step apart False.elim, custody.step driven apart spares⟩
  obtain ⟨driven, place, owes, holder⟩ := both
  refine ⟨fun t unclosed => ?_, fun returned t opened => ?_⟩
  · rcases owes.1 t unclosed with held | ⟨current, -⟩
    · obtain ⟨i, found⟩ := holder.resolve_left (by simp [held])
      exact .inr ⟨i, by simp [hand, placeOf, found, held]⟩
    · exact .inl current
  · have closed := closed_of_returned attempts events returned
    rcases owes.1 t (.inl opened) with held | ⟨-, connected⟩
    · obtain ⟨i, found⟩ := holder.resolve_left (by simp [held])
      exact not_closed_of_fits (driven.fits i place found (Place.unfinished_of_held held)) held closed
    · cases closed.symm.trans connected

theorem orderlyRun_accounted :
    ((start 3).run recovery).transportState 1 = some .opened ∧ ((start 3).run recovery).Accounted ∧
      ((start 3).run orderlyRun).placeOf 6 = some .closeReturned ∧
      ((start 3).run orderlyRun).NoneOpen :=
  ⟨by decide +kernel, (transports_accounted 3 recovery (by decide +kernel)).1, by decide +kernel,
    (transports_accounted 3 orderlyRun (by decide +kernel)).2⟩

/-- The peer closes, and the handshake of the next attempt fails. -/
def failedHandshake : List Event :=
  [.openCall true false, .resume 0 .done, .resume 0 .done, .resume 0 .done, .resume 1 .done,
    .resume 1 .noMore, .resume 2 .done, .resume 2 .done, .resume 2 .done, .resume 2 .done,
    .resume 2 .failed]

theorem failedHandshake_leaks :
    ((start 3).run failedHandshake).transportState 1 = some .opened ∧
      ¬ ((start 3).run failedHandshake).Accounted := by
  have facts : ((start 3).run failedHandshake).transportState 1 = some .opened ∧
      ((start 3).run failedHandshake).transport = some 0 ∧
      ∀ c ∈ ((start 3).run failedHandshake).coroutines, c.place.held = none := by
    decide +kernel
  obtain ⟨leaked, current, nobody⟩ := facts
  refine ⟨leaked, fun accounted => ?_⟩
  rcases accounted 1 (.inl leaked) with this | ⟨i, held⟩
  · cases current.symm.trans this
  · obtain ⟨place, there, held⟩ := bind_eq_some_iff.mp held
    obtain ⟨c, found, rfl⟩ := map_eq_some_iff.mp there
    cases (nobody c (mem_of_getElem? found)).symm.trans held

end ConnectionManager
end Ghostlink.Connection
