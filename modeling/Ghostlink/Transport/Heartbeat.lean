import Ghostlink.Base.Dict
import Ghostlink.Base.Runs
import Mathlib.Data.Rat.Defs

/-! The heartbeat monitor of a connection. A tick is suspended at its two sends, so its parts are
events of their own, and a list of events is an interleaving of ticks, the ends of their sends and
acknowledgements. The missed-ping alarm is raised once for every `missed_limit` reaping ticks. -/

namespace Ghostlink.Heartbeat
open Collections

def maxRttSamples : ℕ := 256
def missedPingLimit : ℤ := 3

structure HeartbeatStats where
  heartbeatsSent : ℕ := 0
  heartbeatsAcked : ℕ := 0
  pingsSent : ℕ := 0
  pongsReceived : ℕ := 0
  missedPings : ℕ := 0
  missedStreak : ℕ := 0
  rttSamplesMs : List ℚ := []

def HeartbeatStats.recordRtt (s : HeartbeatStats) (rttMs : ℚ) : HeartbeatStats :=
  let samples := s.rttSamplesMs ++ [rttMs]
  { s with rttSamplesMs := samples.drop (samples.length - maxRttSamples) }

structure HeartbeatMonitor where
  timeout : ℚ
  missedLimit : ℕ
  sequence : ℕ := 0
  pendingPings : Dict String ℚ := Dict.empty
  pendingHeartbeats : List ℕ := []
  stats : HeartbeatStats := {}

inductive Event
  | tick (now : ℚ)
  /-- The heartbeat's send ends, and the ping of the same tick goes out. -/
  | heartbeatDone (sequence : ℕ) (sent : Bool) (nonce : String) (now : ℚ)
  | pingDone (nonce : String) (sent : Bool)
  | ackPong (nonce : String) (now : ℚ)
  | ackHeartbeat (sequence : ℕ)

namespace HeartbeatMonitor
variable (m : HeartbeatMonitor)

def create (timeout : ℚ) (missedLimit : ℤ) : HeartbeatMonitor :=
  { timeout, missedLimit := (max 1 missedLimit).toNat }

def expired (now : ℚ) : List String :=
  (m.pendingPings.filter fun _ sentAt => sentAt < now - m.timeout).keys

/-- The second part of the result says whether `on_missed` is called. -/
def reapExpiredPings (now : ℚ) : HeartbeatMonitor × Bool :=
  let expired := m.expired now
  if expired = [] then (m, false)
  else
    let streak := m.stats.missedStreak + 1
    let limitReached := decide (m.missedLimit ≤ streak)
    ({ m with
        pendingPings := m.pendingPings.filter fun nonce _ => !expired.contains nonce
        stats := { m.stats with
          missedPings := m.stats.missedPings + expired.length
          missedStreak := if limitReached then 0 else streak } }, limitReached)

def tick (now : ℚ) : HeartbeatMonitor :=
  let m := (m.reapExpiredPings now).1
  { m with
    sequence := m.sequence + 1
    pendingHeartbeats := (m.sequence + 1) :: m.pendingHeartbeats }

def heartbeatDone (sequence : ℕ) (sent : Bool) (nonce : String) (now : ℚ) : HeartbeatMonitor :=
  let m :=
    if sent then { m with stats := { m.stats with heartbeatsSent := m.stats.heartbeatsSent + 1 } }
    else { m with pendingHeartbeats := m.pendingHeartbeats.filter (· ≠ sequence) }
  { m with pendingPings := m.pendingPings.set nonce now }

def pingDone (nonce : String) (sent : Bool) : HeartbeatMonitor :=
  if sent then { m with stats := { m.stats with pingsSent := m.stats.pingsSent + 1 } }
  else { m with pendingPings := m.pendingPings.erase nonce }

def ackPong (nonce : String) (now : ℚ) : HeartbeatMonitor × Option ℚ :=
  match m.pendingPings.get? nonce with
  | none => (m, none)
  | some sentAt =>
    let rttMs := (now - sentAt) * 1000
    let stats := { m.stats with pongsReceived := m.stats.pongsReceived + 1, missedStreak := 0 }
    ({ m with pendingPings := m.pendingPings.erase nonce, stats := stats.recordRtt rttMs },
      some rttMs)

def ackHeartbeat (sequence : ℕ) : HeartbeatMonitor × Bool :=
  if sequence ∈ m.pendingHeartbeats then
    ({ m with
        pendingHeartbeats := m.pendingHeartbeats.filter (· ≠ sequence)
        stats := { m.stats with heartbeatsAcked := m.stats.heartbeatsAcked + 1 } }, true)
  else (m, false)

def step : Event → HeartbeatMonitor
  | .tick now => m.tick now
  | .heartbeatDone sequence sent nonce now => m.heartbeatDone sequence sent nonce now
  | .pingDone nonce sent => m.pingDone nonce sent
  | .ackPong nonce now => (m.ackPong nonce now).1
  | .ackHeartbeat sequence => (m.ackHeartbeat sequence).1

end HeartbeatMonitor

/-- A monitor with what has happened since the last acknowledged pong: the ticks that reaped an
expired ping, and the calls of `on_missed`. -/
structure Watch where
  monitor : HeartbeatMonitor
  reaps : ℕ := 0
  calls : ℕ := 0

namespace Watch

def step (w : Watch) (e : Event) : Watch :=
  let monitor := w.monitor.step e
  match e with
  | .tick now =>
    { monitor
      reaps := w.reaps + if w.monitor.expired now = [] then 0 else 1
      calls := w.calls + if (w.monitor.reapExpiredPings now).2 then 1 else 0 }
  | .ackPong nonce now =>
    if (w.monitor.ackPong nonce now).2.isSome then { monitor } else { w with monitor }
  | _ => { w with monitor }

def run (timeout : ℚ) (missedLimit : ℤ) (events : List Event) : Watch :=
  events.foldl step { monitor := HeartbeatMonitor.create timeout missedLimit }

structure Counts (limit : ℕ) (w : Watch) : Prop where
  fixed : w.monitor.missedLimit = limit
  streak : w.monitor.stats.missedStreak < limit
  reaps : w.reaps = limit * w.calls + w.monitor.stats.missedStreak

variable {w : Watch} {limit : ℕ}

lemma Counts.of_same {w' : Watch} (h : Counts limit w)
    (kept : w'.monitor.missedLimit = w.monitor.missedLimit)
    (streak : w'.monitor.stats.missedStreak = w.monitor.stats.missedStreak)
    (reaps : w'.reaps = w.reaps) (calls : w'.calls = w.calls) : Counts limit w' where
  fixed := kept.trans h.fixed
  streak := streak ▸ h.streak
  reaps := by rw [reaps, calls, streak, h.reaps]

lemma Counts.tick (h : Counts limit w) (now) : Counts limit (w.step (.tick now)) := by
  by_cases nothing : w.monitor.expired now = []
  · apply h.of_same <;> simp [Watch.step, HeartbeatMonitor.step, HeartbeatMonitor.tick,
      HeartbeatMonitor.reapExpiredPings, nothing]
  · have start := h.streak
    have reaps := h.reaps
    constructor <;> simp only [Watch.step, HeartbeatMonitor.step, HeartbeatMonitor.tick,
      HeartbeatMonitor.reapExpiredPings, nothing, h.fixed, if_false, decide_eq_true_eq]
    · split_ifs <;> omega
    · split_ifs with reached
      · rw [Nat.mul_add_one]
        omega
      · simp only [Nat.add_zero]
        omega

lemma Counts.step (positive : 0 < limit) (h : Counts limit w) (e) : Counts limit (w.step e) := by
  cases e with
  | tick now => exact h.tick now
  | heartbeatDone _ sent | pingDone _ sent => cases sent <;> exact h.of_same rfl rfl rfl rfl
  | ackPong nonce now =>
    cases sent : w.monitor.pendingPings.get? nonce with
    | none => simpa [Watch.step, HeartbeatMonitor.step, HeartbeatMonitor.ackPong, sent] using h
    | some sentAt =>
      simp only [Watch.step, HeartbeatMonitor.step, HeartbeatMonitor.ackPong, sent]
      exact ⟨h.fixed, positive, rfl⟩
  | ackHeartbeat sequence =>
    simp only [Watch.step, HeartbeatMonitor.step, HeartbeatMonitor.ackHeartbeat]
    split_ifs <;> exact h.of_same rfl rfl rfl rfl

lemma counts_run (timeout missedLimit events) :
    Counts (max 1 missedLimit).toNat (run timeout missedLimit events) := by
  have positive : 0 < (max 1 missedLimit).toNat := by omega
  exact Runs.foldl_keeps (J := Counts _) (fun w e h => h.step positive e) events
    ⟨rfl, positive, rfl⟩

/-- Since the last acknowledged pong `on_missed` has been called once for every `missed_limit`
reaping ticks: at most once as long as there are fewer than twice as many. -/
theorem missed_alarm_once_iff (timeout : ℚ) (missedLimit : ℤ) (events : List Event) :
    let w := run timeout missedLimit events
    (w.calls ≤ 1 ↔ w.reaps < 2 * w.monitor.missedLimit) ∧
      (w.monitor.missedLimit ≤ w.reaps → 1 ≤ w.calls) := by
  intro w
  obtain ⟨fixed, streak, reaps⟩ := counts_run timeout missedLimit events
  have positive : 0 < w.monitor.missedLimit := fixed ▸ (Nat.zero_le _).trans_lt streak
  have calls : w.calls = w.reaps / w.monitor.missedLimit := by
    rw [← fixed] at reaps streak
    rw [reaps, Nat.mul_add_div positive, Nat.div_eq_of_lt streak, Nat.add_zero]
  rw [calls, ← Nat.lt_succ_iff, Nat.div_lt_iff_lt_mul positive, Nat.le_div_iff_mul_le positive]
  exact ⟨Iff.rfl, fun enough => by rwa [Nat.one_mul]⟩

/-- Pings go out every two seconds, time out after one and are never answered. -/
def unanswered : List Event :=
  (List.range 7).flatMap fun i : ℕ =>
    [.tick (2 * i), .heartbeatDone (i + 1) true (toString i) (2 * i), .pingDone (toString i) true]

theorem unanswered_alarms_twice : (run 1 missedPingLimit unanswered).calls = 2 := by
  decide +kernel

end Watch
end Ghostlink.Heartbeat
