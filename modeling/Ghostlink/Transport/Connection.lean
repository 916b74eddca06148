import Ghostlink.Base.Runs
import Mathlib.Data.List.Infix

/-! The connection manager. Its coroutines share one state: calls of `open`, `close` and
`reconnect`, the reader task and the reconnect task. A coroutine is the await at which it is
suspended; an event resumes one of them with what the await comes to, and it then runs to its next
await. A resumed coroutine first does what leaves the connection's state alone; the rest, which
makes the transitions, is an act of its own. Closing a transport takes time but does not fail. -/

namespace Ghostlink.Connection
open Runs List Option

inductive ConnectionState
  | connecting | connected | reconnecting | timedOut | disconnected | closed
  deriving DecidableEq, Repr

def ConnectionState.allowed : ConnectionState → List ConnectionState
  | .connecting => [.connected, .timedOut, .disconnected, .closed]
  | .connected => [.reconnecting, .timedOut, .disconnected, .closed]
  | .reconnecting => [.connected, .timedOut, .disconnected, .closed]
  | .timedOut => [.reconnecting, .disconnected, .closed]
  | .disconnected => [.connecting, .reconnecting, .closed]
  | .closed => []

def ConnectionState.value : ConnectionState → String
  | .connecting => "connecting"
  | .connected => "connected"
  | .reconnecting => "reconnecting"
  | .timedOut => "timed_out"
  | .disconnected => "disconnected"
  | .closed => "closed"

inductive TransportState
  | initializing | opened | closing | closed | failed
  deriving DecidableEq, Repr

/-- What a call that has taken the reader and the transport away is about to do: `close` or
`reconnect`. -/
inductive Purpose
  | shutdown | renewal
  deriving DecidableEq, Repr

inductive Ending
  | returned | raised | cancelled
  deriving DecidableEq, Repr

inductive Place
  | openFactory (handshake callback : Bool)
  | openTransport (handshake callback : Bool) (t : ℕ)
  | openHandshake (callback : Bool) (t : ℕ)
  | openClosing (timedOut : Bool) (t : ℕ)
  | callback (t : ℕ)
  | loopStart
  | loopSleep (attempt : ℕ)
  | loopFactory (attempt : ℕ)
  | loopOpen (attempt t : ℕ)
  | loopHandshake (attempt t : ℕ)
  | closeReconnect (task : ℕ)
  | awaitReader (purpose : Purpose) (task : ℕ) (t : Option ℕ)
  | awaitClose (purpose : Purpose) (t : ℕ)
  | readerStart
  | reading (t : ℕ)
  | readerClosing (t : ℕ)
  | closeReturned
  | ended (how : Ending)
  deriving DecidableEq, Repr

def Place.finished : Place → Bool
  | .closeReturned | .ended _ => true
  | _ => false

def Place.awaited : Place → Option ℕ
  | .closeReconnect task | .awaitReader _ task _ => some task
  | _ => none

structure Coroutine where
  place : Place
  cancelled : Bool
  deriving DecidableEq, Repr

/-- `handshake` and `onConnected` say whether there is one; `forbidden` are the transitions that
were attempted against the table. -/
structure ConnectionManager where
  attempts : ℕ
  state : ConnectionState
  transport : Option ℕ
  handshake : Bool
  onConnected : Bool
  readerTask : Option ℕ
  reconnectTask : Option ℕ
  closeRequested : Bool
  transports : List TransportState
  coroutines : List Coroutine
  forbidden : List (ConnectionState × ConnectionState)
  deriving DecidableEq, Repr

/-- What an await comes to. For `receive`: bytes, no more bytes, a lost connection, or a failure
that leaves the transport as it is, of the listener too. -/
inductive Answer
  | done | timedOut | failed | noMore | lost
  deriving DecidableEq, Repr

inductive Event
  | openCall (handshake callback : Bool)
  | closeCall
  | reconnectCall
  | resume (i : ℕ) (answer : Answer)
  | cancel (i : ℕ)
  | closesOutside (t : ℕ)
  | closedOutside (t : ℕ)
  deriving DecidableEq, Repr

inductive Act
  | rest
  | begin (i : ℕ) (handshake callback : Bool)
  | connect (i t : ℕ) (callback : Bool)
  | openFailed (i : ℕ) (timedOut : Bool)
  | startLoop (i : ℕ)
  | recover (i : ℕ)
  | attempt (i a : ℕ)
  | closeFinal (i : ℕ)
  | unexpected (i : ℕ)
  deriving DecidableEq, Repr

def Purpose.act (i : ℕ) : Purpose → Act
  | .shutdown => .closeFinal i
  | .renewal => .recover i

namespace ConnectionManager
variable (m : ConnectionManager)

def start (attempts : ℕ) : ConnectionManager where
  attempts
  state := .disconnected
  transport := none
  handshake := false
  onConnected := false
  readerTask := none
  reconnectTask := none
  closeRequested := false
  transports := []
  coroutines := []
  forbidden := []

def placeOf (i : ℕ) : Option Place := m.coroutines[i]?.map Coroutine.place

def unfinished (i : ℕ) : Bool := (m.placeOf i).any fun place => !place.finished

def park (i : ℕ) (place : Place) : ConnectionManager :=
  { m with coroutines := m.coroutines.modify i fun c => { c with place } }

def finish (i : ℕ) (how : Ending) : ConnectionManager := m.park i (.ended how)

def spawn (place : Place) : ConnectionManager :=
  { m with coroutines := m.coroutines ++ [{ place, cancelled := false }] }

def flag (i : ℕ) : ConnectionManager :=
  { m with coroutines := m.coroutines.modify i fun c => { c with cancelled := true } }

def transportState (t : ℕ) : Option TransportState := m.transports[t]?

def newTransport : ConnectionManager :=
  { m with transports := m.transports ++ [.initializing] }

def setState (t : ℕ) (state : TransportState) : ConnectionManager :=
  { m with transports := m.transports.modify t fun _ => state }

def ask (i : ℕ) (new : ConnectionState) (next : ConnectionManager → ConnectionManager) :
    ConnectionManager :=
  if new ∈ m.state.allowed then next { m with state := new }
  else { m with forbidden := m.forbidden ++ [(m.state, new)] }.finish i .raised

def startReader (i : ℕ) : ConnectionManager :=
  { m.spawn .readerStart with readerTask := some m.coroutines.length }.finish i .returned

/-- From the assignment of the transport on, in `open` and in the reconnect loop. -/
def connect (i t : ℕ) (callback : Bool) : ConnectionManager :=
  { m with transport := some t }.ask i .connected fun m =>
    if callback then m.park i (.callback t) else m.startReader i

def openFailed (i : ℕ) (timedOut : Bool) : ConnectionManager :=
  if timedOut then
    m.ask i .timedOut fun m => m.ask i .disconnected fun m => m.finish i .raised
  else m.ask i .disconnected fun m => m.finish i .raised

def nextAttempt (i a : ℕ) : ConnectionManager :=
  if m.attempts < a then
    if m.state = .reconnecting then
      m.ask i .disconnected fun m => m.ask i .closed fun m => m.finish i .returned
    else m.finish i .returned
  else if m.closeRequested then m.finish i .returned
  else m.park i (.loopSleep a)

def startLoop (i : ℕ) : ConnectionManager :=
  m.ask i .reconnecting fun m => m.nextAttempt i 1

def recover (i : ℕ) : ConnectionManager :=
  if m.state = .connected then m.ask i .disconnected fun m => m.startLoop i else m.startLoop i

def closeFinal (i : ℕ) : ConnectionManager :=
  if m.state ≠ .disconnected then
    m.ask i .disconnected fun m => m.ask i .closed fun m => m.park i .closeReturned
  else m.ask i .closed fun m => m.park i .closeReturned

/-- The end of `_handle_unexpected_close`, which is the end of the reader too. -/
def unexpectedEnd (i : ℕ) : ConnectionManager :=
  if 0 < m.attempts ∧ m.closeRequested = false then
    { m.spawn .loopStart with reconnectTask := some m.coroutines.length }.finish i .returned
  else if m.state = .disconnected then m.ask i .closed fun m => m.finish i .returned
  else m.finish i .returned

def unexpected (i : ℕ) : ConnectionManager :=
  if m.state = .connected then m.ask i .disconnected fun m => m.unexpectedEnd i
  else m.unexpectedEnd i

def begin (i : ℕ) (handshake callback : Bool) : ConnectionManager :=
  m.ask i .connecting fun m =>
    { m with closeRequested := false, handshake, onConnected := callback }

def perform : Act → ConnectionManager
  | .rest => m
  | .begin i handshake callback => m.begin i handshake callback
  | .connect i t callback => m.connect i t callback
  | .openFailed i timedOut => m.openFailed i timedOut
  | .startLoop i => m.startLoop i
  | .recover i => m.recover i
  | .attempt i a => m.nextAttempt i a
  | .closeFinal i => m.closeFinal i
  | .unexpected i => m.unexpected i

/-- `await transport.close()` in `open`; it does not wait when the transport is being closed. -/
def openClose (i : ℕ) (timedOut : Bool) (t : ℕ) : ConnectionManager × Act :=
  if m.transportState t = some .closing ∨ m.transportState t = some .closed then
    (m, .openFailed i timedOut)
  else ((m.setState t .closing).park i (.openClosing timedOut t), .rest)

def dispose (purpose : Purpose) (i : ℕ) (t : Option ℕ) : ConnectionManager × Act :=
  match t.filter fun t => m.transportState t = some .opened with
  | some t => ((m.setState t .closing).park i (.awaitClose purpose t), .rest)
  | none => (m, purpose.act i)

def take (purpose : Purpose) (i : ℕ) : ConnectionManager × Act :=
  let taken := { m with readerTask := none, transport := none }
  match m.readerTask.filter m.unfinished with
  | some task => ((taken.flag task).park i (.awaitReader purpose task m.transport), .rest)
  | none => taken.dispose purpose i m.transport

def ending (task : ℕ) : Option Ending :=
  match m.placeOf task with
  | some (.ended how) => some how
  | _ => none

def unexpectedClose (i : ℕ) : ConnectionManager × Act :=
  match m.transport.filter fun t => m.transportState t = some .opened with
  | some t => ((m.setState t .closing).park i (.readerClosing t), .rest)
  | none => (m, .unexpected i)

/-- The reader goes on to `_handle_unexpected_close`, or ends because of a `close`. -/
def readerStops (i : ℕ) : ConnectionManager × Act :=
  if m.closeRequested then (m.finish i .returned, .rest) else m.unexpectedClose i

def resume (i : ℕ) (answer : Answer) : Place → ConnectionManager × Act
  | .openFactory handshake callback =>
    if answer = .done then
      (m.newTransport.park i (.openTransport handshake callback m.transports.length), .rest)
    else (m.finish i .raised, .rest)
  | .openTransport handshake callback t =>
    if answer = .done then
      if handshake then ((m.setState t .opened).park i (.openHandshake callback t), .rest)
      else (m.setState t .opened, .connect i t callback)
    else if answer = .timedOut then m.openClose i true t
    else (m.setState t .failed).openClose i false t
  | .openHandshake callback t =>
    if answer = .done then (m, .connect i t callback)
    else m.openClose i (decide (answer = .timedOut)) t
  | .openClosing timedOut t => (m.setState t .closed, .openFailed i timedOut)
  | .callback _ =>
    if answer = .done then (m.startReader i, .rest) else (m.finish i .raised, .rest)
  | .loopStart => (m, .startLoop i)
  | .loopSleep a => (m.park i (.loopFactory a), .rest)
  | .loopFactory a =>
    if answer = .done then (m.newTransport.park i (.loopOpen a m.transports.length), .rest)
    else (m, .attempt i (a + 1))
  | .loopOpen a t =>
    if answer = .done then
      if m.handshake then ((m.setState t .opened).park i (.loopHandshake a t), .rest)
      else (m.setState t .opened, .connect i t m.onConnected)
    else (m.setState t .failed, .attempt i (a + 1))
  | .loopHandshake a t =>
    if answer = .done then (m, .connect i t m.onConnected) else (m, .attempt i (a + 1))
  | .closeReconnect task =>
    match m.ending task with
    | none => (m, .rest)
    | some .raised => (m.finish i .raised, .rest)
    | some _ => m.take .shutdown i
  | .awaitReader purpose task t =>
    match m.ending task with
    | none => (m, .rest)
    | some .raised => (m.finish i .raised, .rest)
    | some _ => m.dispose purpose i t
  | .awaitClose purpose t => (m.setState t .closed, purpose.act i)
  | .readerStart =>
    match m.transport with
    | some t => (if m.closeRequested then m.finish i .returned else m.park i (.reading t), .rest)
    | none => (m.finish i .returned, .rest)
  | .reading t =>
    match answer with
    | .done => (if m.closeRequested then m.finish i .returned else m, .rest)
    | .noMore | .lost => (m.setState t .closed).readerStops i
    | .timedOut | .failed => m.readerStops i
  | .readerClosing t => (m.setState t .closed, .unexpected i)
  | .closeReturned | .ended _ => (m, .rest)

def dispatch : Event → ConnectionManager × Act
  | .openCall handshake callback =>
    if m.state = .disconnected then
      (m.spawn (.openFactory handshake callback),
        .begin m.coroutines.length handshake callback)
    else (m, .rest)
  | .closeCall =>
    if m.state = .closed then (m.spawn .closeReturned, .rest)
    else
      let called := { m.spawn (.ended .returned) with closeRequested := true, reconnectTask := none }
      match m.reconnectTask.filter m.unfinished with
      | some task => ((called.flag task).park m.coroutines.length (.closeReconnect task), .rest)
      | none => called.take .shutdown m.coroutines.length
  | .reconnectCall =>
    if m.attempts = 0 ∨ (m.reconnectTask.any m.unfinished) then (m, .rest)
    else (m.spawn (.ended .returned)).take .renewal m.coroutines.length
  | .resume i answer =>
    match m.coroutines[i]? with
    | none => (m, .rest)
    | some c =>
      if c.place.finished then (m, .rest)
      else if c.cancelled then (m.finish i .cancelled, .rest)
      else m.resume i answer c.place
  | .cancel i => (m.flag ((m.placeOf i).bind Place.awaited |>.getD i), .rest)
  | .closesOutside t =>
    (if m.transportState t = some .opened then m.setState t .closing else m, .rest)
  | .closedOutside t =>
    (if m.transportState t = some .opened ∨ m.transportState t = some .closing then
      m.setState t .closed else m, .rest)

def step (e : Event) : ConnectionManager :=
  (m.dispatch e).1.perform (m.dispatch e).2

def run (events : List Event) : ConnectionManager := events.foldl step m

lemma getElem?_park (i place j) : (m.park i place).coroutines[j]? =
    m.coroutines[j]?.map fun c => if i = j then { c with place } else c := by
  rw [park, getElem?_modify]
  rfl

section
variable {m m' : ConnectionManager} {i : ℕ} {place : Place}

/-- A call to `close` has returned. -/
def Returned (m : ConnectionManager) : Prop := ∃ i : ℕ, m.placeOf i = some .closeReturned

/-- Where a call to `close` returns, the state is CLOSED. -/
def Closes (m m' : ConnectionManager) : Prop := m'.Returned → m.Returned ∨ m'.state = .closed

lemma returned_park (other : place ≠ .closeReturned) (returned : (m.park i place).Returned) :
    m.Returned := by
  obtain ⟨j, there⟩ := returned
  rw [placeOf, getElem?_park, Option.map_map] at there
  obtain ⟨c, found, same⟩ := map_eq_some_iff.mp there
  rw [Function.comp_apply] at same
  split_ifs at same with own
  · exact absurd same other
  · exact ⟨j, by rw [placeOf, found, map_some, same]⟩

lemma returned_flag (returned : (m.flag i).Returned) : m.Returned := by
  obtain ⟨j, there⟩ := returned
  rw [placeOf, flag, getElem?_modify] at there
  obtain ⟨d, found, same⟩ := map_eq_some_iff.mp there
  obtain ⟨c, before, rfl⟩ := map_eq_some_iff.mp found
  refine ⟨j, ?_⟩
  rw [placeOf, before, map_some, ← same]
  split_ifs <;> rfl

lemma returned_spawn (other : place ≠ .closeReturned) (returned : (m.spawn place).Returned) :
    m.Returned := by
  obtain ⟨j, there⟩ := returned
  obtain ⟨⟨p, flag⟩, found, rfl⟩ := map_eq_some_iff.mp there
  rw [spawn, getElem?_append] at found
  split_ifs at found with old
  · exact ⟨j, by rw [placeOf, found]; rfl⟩
  · rw [getElem?_singleton] at found
    split_ifs at found
    cases found
    exact absurd rfl other

lemma closes_ask {new next}
    (after : Closes { m with state := new } (next { m with state := new })) :
    m.Closes (m.ask i new next) := by
  rw [ask]
  split_ifs
  · exact after
  · exact fun returned => .inl (returned_park Place.noConfusion returned)

lemma closes_finish (how) : m.Closes (m.finish i how) :=
  fun returned => .inl (returned_park Place.noConfusion returned)

section
variable (m)

lemma closes_nextAttempt (i a) : m.Closes (m.nextAttempt i a) := by
  rw [nextAttempt]
  split_ifs
  · exact closes_ask (closes_ask (closes_finish _))
  · exact closes_finish _
  · exact closes_finish _
  · exact fun returned => .inl (returned_park Place.noConfusion returned)

lemma closes_startLoop (i) : m.Closes (m.startLoop i) :=
  closes_ask (closes_nextAttempt _ i 1)

lemma closes_unexpectedEnd (i) : m.Closes (m.unexpectedEnd i) := by
  rw [unexpectedEnd]
  split_ifs
  · exact fun returned => .inl (returned_spawn Place.noConfusion (returned_park Place.noConfusion returned))
  · exact closes_ask (closes_finish _)
  · exact closes_finish _

lemma closes_perform (act) : m.Closes (m.perform act) := by
  cases act with
  | rest => exact fun returned => .inl returned
  | begin => exact closes_ask fun returned => .inl returned
  | connect =>
    refine closes_ask fun returned => .inl ?_
    split_ifs at returned
    · exact returned_park Place.noConfusion returned
    · exact returned_spawn Place.noConfusion (returned_park Place.noConfusion returned)
  | openFailed i timedOut =>
    rw [perform, ConnectionManager.openFailed]
    split_ifs
    · exact closes_ask (closes_ask (closes_finish _))
    · exact closes_ask (closes_finish _)
  | startLoop => exact closes_startLoop m _
  | recover =>
    rw [perform, ConnectionManager.recover]
    split_ifs
    · exact closes_ask (closes_startLoop _ _)
    · exact closes_startLoop m _
  | attempt => exact closes_nextAttempt m _ _
  | closeFinal =>
    rw [perform, ConnectionManager.closeFinal]
    split_ifs
    · exact closes_ask (closes_ask fun _ => .inr rfl)
    · exact closes_ask fun _ => .inr rfl
  | unexpected =>
    rw [perform, ConnectionManager.unexpected]
    split_ifs
    · exact closes_ask (closes_unexpectedEnd _ _)
    · exact closes_unexpectedEnd m _

end

/-- Neither the state is written, nor does a call to `close` return. -/
structure Apace (m m' : ConnectionManager) : Prop where
  state : m'.state = m.state
  returned : m'.Returned → m.Returned

-- up to the act that it comes to, a resumed coroutine leaves the state alone
lemma apace_resume (m : ConnectionManager) (i answer place) :
    m.Apace (m.resume i answer place).1 := by
  have park {m' : ConnectionManager} (place : Place) (other : place.finished = false) :
      (m'.park i place).Returned → m'.Returned :=
    returned_park (by rintro rfl; cases other)
  have finish {m' : ConnectionManager} (how) : (m'.finish i how).Returned → m'.Returned :=
    returned_park Place.noConfusion
  cases place with
  | reading =>
    cases answer with
    | done | noMore | lost | timedOut | failed =>
      simp only [resume, readerStops, unexpectedClose]
      repeat' split
      all_goals first | exact ⟨rfl, id⟩ | exact ⟨rfl, finish _⟩ | exact ⟨rfl, park _ rfl⟩
  | _ =>
    simp only [resume, openClose, take, dispose, startReader]
    repeat' split
    all_goals
      first | exact ⟨rfl, id⟩ | exact ⟨rfl, finish _⟩ | exact ⟨rfl, park _ rfl⟩ |
        exact ⟨rfl, fun h => returned_flag (park _ rfl h)⟩ |
        exact ⟨rfl, fun h => returned_spawn Place.noConfusion (finish _ h)⟩

lemma apace_dispatch (m : ConnectionManager) (e) :
    m.Apace (m.dispatch e).1 ∨ m.state = .closed ∧ (m.dispatch e).1.state = .closed := by
  have called : (m.spawn (.ended .returned)).Returned → m.Returned :=
    returned_spawn Place.noConfusion
  have parked {m' : ConnectionManager} (place : Place) (other : place.finished = false) :
      (m'.park m.coroutines.length place).Returned → m'.Returned :=
    returned_park (by rintro rfl; cases other)
  cases e with
  | openCall =>
    rw [dispatch]
    split_ifs
    · exact .inl ⟨rfl, returned_spawn Place.noConfusion⟩
    · exact .inl ⟨rfl, id⟩
  | closeCall =>
    rw [dispatch]
    split_ifs with closed
    · exact .inr ⟨closed, closed⟩
    · left
      simp only [take, dispose]
      repeat' split
      all_goals
        first | exact ⟨rfl, called⟩ | exact ⟨rfl, fun h => called (parked _ rfl h)⟩ |
          exact ⟨rfl, fun h => called (returned_flag (parked _ rfl h))⟩
  | reconnectCall =>
    left
    simp only [dispatch, take, dispose]
    repeat' split
    all_goals
      first | exact ⟨rfl, id⟩ | exact ⟨rfl, called⟩ | exact ⟨rfl, fun h => called (parked _ rfl h)⟩ |
        exact ⟨rfl, fun h => called (returned_flag (parked _ rfl h))⟩
  | resume i answer =>
    left
    rw [dispatch]
    split
    · exact ⟨rfl, id⟩
    · split_ifs
      · exact ⟨rfl, id⟩
      · exact ⟨rfl, returned_park Place.noConfusion⟩
      · exact apace_resume m i answer _
  | cancel => exact .inl ⟨rfl, returned_flag⟩
  | closesOutside | closedOutside =>
    left
    rw [dispatch]
    split_ifs <;> exact ⟨rfl, id⟩

lemma closed_perform (closed : m.state = .closed) (act) : (m.perform act).state = .closed := by
  have stays {m' : ConnectionManager} (closed : m'.state = .closed) (i new next) :
      (m'.ask i new next).state = .closed := by
    rw [ask, if_neg (by rw [closed]; exact not_mem_nil)]
    exact closed
  cases act <;>
    simp only [perform, begin, connect, openFailed, startLoop, recover, nextAttempt, closeFinal,
      unexpected, unexpectedEnd] <;>
    repeat' split
  all_goals first | exact stays (by exact closed) _ _ _ | exact closed

lemma closed_step (closed : m.state = .closed) (e) : (m.step e).state = .closed := by
  apply closed_perform
  rcases apace_dispatch m e with same | ⟨-, after⟩
  · rw [same.state, closed]
  · exact after

lemma closed_run (closed : m.state = .closed) (events) : (m.run events).state = .closed :=
  foldl_keeps (J := fun m : ConnectionManager => m.state = .closed)
    (fun _ e closed => closed_step closed e) events closed

/-- A call to `close` that has returned has left the state CLOSED. -/
lemma closed_of_returned (attempts events) :
    ((start attempts).run events).Returned → ((start attempts).run events).state = .closed := by
  refine foldl_keeps (J := fun m : ConnectionManager => m.Returned → m.state = .closed)
    (fun m e fine returned => ?_) events ?_
  · rcases closes_perform _ _ returned with before | closed
    · rcases apace_dispatch m e with same | ⟨closed, -⟩
      · exact closed_step (fine (same.returned before)) e
      · exact closed_step closed e
    · exact closed
  · rintro ⟨i, there⟩
    cases there

end

end ConnectionManager
end Ghostlink.Connection
