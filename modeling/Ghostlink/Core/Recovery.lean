import Mathlib.Data.Finset.Basic
import Mathlib.Data.Rat.Init
import Ghostlink.Base.Runs

/-! The recovery coordinator: one state with a closed table of transitions, and at most one
operation in flight for each key. A lease is an object of its own that its holder may release at
any time, also after the coordinator was reset. -/

namespace Ghostlink.Core
open List

inductive RecoveryState
  | connected
  | degraded
  | reconnecting
  | resyncRequired
  | recovering
  | ready
  | failed
  | closed
  deriving DecidableEq

namespace RecoveryState

def value : RecoveryState → String
  | connected => "connected"
  | degraded => "degraded"
  | reconnecting => "reconnecting"
  | resyncRequired => "resync_required"
  | recovering => "recovering"
  | ready => "ready"
  | failed => "failed"
  | closed => "closed"

def allowedTransitions : RecoveryState → List RecoveryState
  | ready => [connected, degraded, resyncRequired, closed]
  | connected => [degraded, reconnecting, resyncRequired, ready, closed]
  | degraded => [connected, reconnecting, resyncRequired, recovering, ready, failed, closed]
  | reconnecting => [connected, degraded, failed, closed]
  | resyncRequired => [recovering, ready, failed, closed]
  | recovering => [ready, degraded, failed, closed]
  | failed => [reconnecting, resyncRequired, ready, closed]
  | closed => []

end RecoveryState

structure IllegalRecoveryTransition where
  message : String
  deriving DecidableEq

structure RecoveryLease where
  opKey : String
  active : Bool
  deriving DecidableEq

structure RecoveryCoordinator where
  state : RecoveryState
  inFlight : Finset String
  transitionLog : List (ℚ × RecoveryState × String)

namespace RecoveryCoordinator

def initial : RecoveryCoordinator := { state := .ready, inFlight := ∅, transitionLog := [] }

def transitionLogLimit : ℕ := 256

def transition (c : RecoveryCoordinator) (newState : RecoveryState) (reason : String) (now : ℚ) :
    Except IllegalRecoveryTransition RecoveryCoordinator :=
  if c.state = newState then .ok c
  else if newState ∈ c.state.allowedTransitions then
    let log := c.transitionLog ++ [(now, newState, reason)]
    .ok { c with state := newState, transitionLog := log.drop (log.length - transitionLogLimit) }
  else
    let previous := c.state.value
    let next := newState.value
    .error { message := s!"Illegal recovery transition {previous} → {next}." }

def begin (c : RecoveryCoordinator) (opKey : String) :
    Option RecoveryLease × RecoveryCoordinator :=
  if opKey ∈ c.inFlight then (none, c)
  else (some { opKey, active := true }, { c with inFlight := insert opKey c.inFlight })

def discard (c : RecoveryCoordinator) (opKey : String) : RecoveryCoordinator :=
  { c with inFlight := c.inFlight.erase opKey }

def hasInFlight (c : RecoveryCoordinator) (opKey : String) : Bool := opKey ∈ c.inFlight

def reset (c : RecoveryCoordinator) : RecoveryCoordinator :=
  { c with inFlight := ∅, state := .ready }

end RecoveryCoordinator

def RecoveryLease.release (l : RecoveryLease) (c : RecoveryCoordinator) :
    RecoveryLease × RecoveryCoordinator :=
  if l.active then ({ l with active := false }, c.discard l.opKey) else (l, c)

namespace RecoveryCoordinator
variable {c : RecoveryCoordinator}

lemma transition_eq_ok_iff (newState reason now) :
    (∃ c', c.transition newState reason now = .ok c') ↔
      c.state = newState ∨ newState ∈ c.state.allowedTransitions := by
  unfold transition
  split_ifs with same allowed
  · exact ⟨fun _ => .inl same, fun _ => ⟨c, rfl⟩⟩
  · exact ⟨fun _ => .inr allowed, fun _ => ⟨_, rfl⟩⟩
  · constructor
    · rintro ⟨c', ⟨⟩⟩
    · rintro (h | h)
      · exact absurd h same
      · exact absurd h allowed

lemma transition_ok {newState reason now}
    {c' : RecoveryCoordinator} (h : c.transition newState reason now = .ok c') :
    c'.state = newState ∧ c'.inFlight = c.inFlight := by
  unfold transition at h
  split_ifs at h with same allowed
  · cases h
    exact ⟨same, rfl⟩
  · cases h
    exact ⟨rfl, rfl⟩

lemma begin_eq_none_iff (opKey) : (c.begin opKey).1 = none ↔ opKey ∈ c.inFlight := by
  unfold begin
  split_ifs with held
  · exact ⟨fun _ => held, fun _ => rfl⟩
  · constructor
    · rintro ⟨⟩
    · intro h
      exact absurd h held

variable {opKey : String}

lemma begin_of_mem (held : opKey ∈ c.inFlight) : c.begin opKey = (none, c) :=
  if_pos held

lemma begin_of_notMem (free : opKey ∉ c.inFlight) :
    c.begin opKey = (some { opKey, active := true },
      { c with inFlight := insert opKey c.inFlight }) :=
  if_neg free

end RecoveryCoordinator

/-- The coordinator and every lease it handed out, in the order of the calls. The leases from
place `since` on were obtained after the last reset. -/
structure Leasing where
  coordinator : RecoveryCoordinator
  leases : List RecoveryLease
  since : ℕ
  since_le : since ≤ leases.length

inductive LeaseCall
  | begin (opKey : String)
  | release (place : ℕ)
  | reset
  deriving DecidableEq

namespace Leasing

def start : Leasing :=
  { coordinator := .initial, leases := [], since := 0, since_le := Nat.zero_le _ }

def obtained (s : Leasing) : Option RecoveryLease × RecoveryCoordinator → Leasing
  | (none, c) => { s with coordinator := c }
  | (some l, c) =>
    { coordinator := c, leases := s.leases ++ [l], since := s.since,
      since_le := s.since_le.trans (length_append ▸ Nat.le_add_right _ _) }

def released (s : Leasing) (place : ℕ) : Option RecoveryLease → Leasing
  | none => s
  | some l =>
    { coordinator := (l.release s.coordinator).2
      leases := s.leases.set place (l.release s.coordinator).1
      since := s.since
      since_le := by rw [length_set]; exact s.since_le }

def step (s : Leasing) : LeaseCall → Leasing
  | .begin opKey => s.obtained (s.coordinator.begin opKey)
  | .release place => s.released place s.leases[place]?
  | .reset =>
    { coordinator := s.coordinator.reset, leases := s.leases, since := s.leases.length,
      since_le := le_rfl }

def run (calls : List LeaseCall) : Leasing := calls.foldl step start

def Holds (s : Leasing) (place : ℕ) (opKey : String) : Prop :=
  s.since ≤ place ∧ s.leases[place]? = some { opKey, active := true }

/-- At most one lease holds a key, and `begin` refuses the key exactly while one does. -/
structure Exclusive (s : Leasing) : Prop where
  one_holder : ∀ opKey i j, s.Holds i opKey → s.Holds j opKey → i = j
  refused_iff : ∀ opKey, (s.coordinator.begin opKey).1 = none ↔ ∃ i, s.Holds i opKey

/-- A lease that is older than the last reset and still active is not released while a newer
lease holds its key. -/
def NoLateRelease (s : Leasing) : LeaseCall → Prop
  | .release place =>
    ∀ l, s.leases[place]? = some l → l.active → place < s.since →
      ¬ ∃ i, s.Holds i l.opKey
  | _ => True

variable {s : Leasing}

lemma exclusive_of_nobody (idle : s.coordinator.inFlight = ∅)
    (nobody : ∀ i opKey, ¬ s.Holds i opKey) : Exclusive s := by
  refine ⟨fun opKey i _ h => absurd h (nobody i opKey), fun opKey => ?_⟩
  rw [RecoveryCoordinator.begin_eq_none_iff, idle]
  simp [nobody]

lemma exclusive_start : Exclusive start := by
  refine exclusive_of_nobody rfl ?_
  rintro i opKey ⟨-, found⟩
  exact not_mem_nil (mem_of_getElem? found)

lemma Exclusive.mem_inFlight_iff (h : Exclusive s) (opKey) :
    opKey ∈ s.coordinator.inFlight ↔ ∃ i, s.Holds i opKey := by
  rw [← RecoveryCoordinator.begin_eq_none_iff]
  exact h.refused_iff opKey

lemma exclusive_reset (s : Leasing) : Exclusive (s.step .reset) := by
  refine exclusive_of_nobody rfl ?_
  rintro i opKey ⟨late, found⟩
  have early : i < s.leases.length := (List.getElem?_eq_some_iff.mp found).1
  exact absurd early (Nat.not_lt.mpr late)

lemma holds_begin (s : Leasing) {opKey} (free : opKey ∉ s.coordinator.inFlight) (i k) :
    (s.step (.begin opKey)).Holds i k ↔ s.Holds i k ∨ (i = s.leases.length ∧ k = opKey) := by
  have next : s.step (.begin opKey) = s.obtained (some { opKey, active := true },
      { s.coordinator with inFlight := insert opKey s.coordinator.inFlight }) := by
    rw [step, RecoveryCoordinator.begin_of_notMem free]
  rw [next]
  simp only [Holds, obtained]
  rcases Nat.lt_trichotomy i s.leases.length with before | rfl | after
  · rw [getElem?_append_left before]
    have differ : i ≠ s.leases.length := before.ne
    simp [differ]
  · have nothing : s.leases[s.leases.length]? = none := getElem?_eq_none le_rfl
    rw [getElem?_concat_length, nothing]
    simp [s.since_le, eq_comm]
  · have nothing : s.leases[i]? = none := getElem?_eq_none after.le
    have still : (s.leases ++ [{ opKey, active := true }])[i]? = none :=
      getElem?_eq_none (by simpa using Nat.succ_le_of_lt after)
    rw [nothing, still]
    simp [after.ne']

lemma Exclusive.begin (h : Exclusive s) (opKey) : Exclusive (s.step (.begin opKey)) := by
  by_cases held : opKey ∈ s.coordinator.inFlight
  · have same : s.step (.begin opKey) = s := by
      rw [step, RecoveryCoordinator.begin_of_mem held]
      rfl
    rw [same]
    exact h
  · have free : ∀ i, ¬ s.Holds i opKey := by
      intro i holds
      exact held ((h.mem_inFlight_iff opKey).mpr ⟨i, holds⟩)
    have flight : (s.step (.begin opKey)).coordinator.inFlight =
        insert opKey s.coordinator.inFlight := by
      rw [step, RecoveryCoordinator.begin_of_notMem held]
      rfl
    refine ⟨fun k i j hi hj => ?_, fun k => ?_⟩
    · rcases (holds_begin s held i k).mp hi with old | ⟨rfl, rfl⟩
      · rcases (holds_begin s held j k).mp hj with old' | ⟨rfl, rfl⟩
        · exact h.one_holder k i j old old'
        · exact absurd old (free i)
      · rcases (holds_begin s held j k).mp hj with old' | ⟨rfl, -⟩
        · exact absurd old' (free j)
        · rfl
    · rw [RecoveryCoordinator.begin_eq_none_iff, flight, Finset.mem_insert, h.mem_inFlight_iff]
      constructor
      · rintro (rfl | ⟨i, hi⟩)
        · exact ⟨s.leases.length, (holds_begin s held _ k).mpr (.inr ⟨rfl, rfl⟩)⟩
        · exact ⟨i, (holds_begin s held i k).mpr (.inl hi)⟩
      · rintro ⟨i, hi⟩
        rcases (holds_begin s held i k).mp hi with old | ⟨-, rfl⟩
        · exact .inr ⟨i, old⟩
        · exact .inl rfl

/-! A release matters only if the lease is there and still active. -/

theorem step_release_spent {place}
    (h : ∀ l, s.leases[place]? = some l → l.active = false) : s.step (.release place) = s := by
  change s.released place s.leases[place]? = s
  cases found : s.leases[place]? with
  | none => rfl
  | some l =>
    have spent := h l found
    have unchanged : l.release s.coordinator = (l, s.coordinator) := by
      simp [RecoveryLease.release, spent]
    have same : s.leases.set place l = s.leases := by
      obtain ⟨inside, rfl⟩ := List.getElem?_eq_some_iff.mp found
      exact set_getElem_self inside
    simp [released, unchanged, same]

section Release
variable {place : ℕ} {l : RecoveryLease} (found : s.leases[place]? = some l)
  (live : l.active)
include found live

lemma release_live : (s.step (.release place)).coordinator = s.coordinator.discard l.opKey ∧
    (s.step (.release place)).leases = s.leases.set place { l with active := false } := by
  have spent : l.release s.coordinator =
      ({ l with active := false }, s.coordinator.discard l.opKey) := by
    rw [RecoveryLease.release, if_pos live]
  simp only [step, found, released, spent]
  exact ⟨trivial, trivial⟩

lemma holds_release (i k) : (s.step (.release place)).Holds i k ↔ s.Holds i k ∧ i ≠ place := by
  have since : (s.step (.release place)).since = s.since := by
    rw [step, found, released]
  obtain ⟨inside, -⟩ := List.getElem?_eq_some_iff.mp found
  rw [Holds, Holds, since, (release_live found live).2]
  by_cases same : i = place
  · subst same
    rw [getElem?_set_self inside]
    simp
  · rw [getElem?_set_ne (Ne.symm same)]
    simp [same]

lemma exclusive_release_iff (h : Exclusive s) :
    Exclusive (s.step (.release place)) ↔ ∀ i, s.Holds i l.opKey → i = place := by
  have flight : ∀ k, k ∈ (s.step (.release place)).coordinator.inFlight ↔
      k ≠ l.opKey ∧ ∃ i, s.Holds i k := by
    intro k
    rw [(release_live found live).1, ← h.mem_inFlight_iff]
    exact Finset.mem_erase
  constructor
  · intro after i holds
    by_contra other
    -- the other holder is still there, and so the key would have to be in flight
    have held : (s.step (.release place)).Holds i l.opKey :=
      (holds_release found live i _).mpr ⟨holds, other⟩
    have still := (after.mem_inFlight_iff l.opKey).mpr ⟨i, held⟩
    exact ((flight l.opKey).mp still).1 rfl
  · intro only
    refine ⟨fun k i j hi hj => ?_, fun k => ?_⟩
    · exact h.one_holder k i j ((holds_release found live i k).mp hi).1
        ((holds_release found live j k).mp hj).1
    · rw [RecoveryCoordinator.begin_eq_none_iff, flight]
      constructor
      · rintro ⟨differ, i, holds⟩
        refine ⟨i, (holds_release found live i k).mpr ⟨holds, ?_⟩⟩
        rintro rfl
        have same : l = { opKey := k, active := true } :=
          Option.some.inj (found.symm.trans holds.2)
        exact differ (by rw [same])
      · rintro ⟨i, holds⟩
        obtain ⟨before, other⟩ := (holds_release found live i k).mp holds
        refine ⟨?_, i, before⟩
        rintro rfl
        exact other (only i before)

end Release

lemma exclusive_step_iff (h : Exclusive s) (call) :
    Exclusive (s.step call) ↔ s.NoLateRelease call := by
  cases call with
  | begin opKey => exact ⟨fun _ => trivial, fun _ => h.begin opKey⟩
  | reset => exact ⟨fun _ => trivial, fun _ => exclusive_reset s⟩
  | release place =>
    by_cases live : ∃ l, s.leases[place]? = some l ∧ l.active
    · obtain ⟨l, found, live⟩ := live
      rw [exclusive_release_iff found live h]
      constructor
      · intro only l' found' _ early
        obtain rfl : l = l' := Option.some.inj (found.symm.trans found')
        rintro ⟨i, holds⟩
        have late := holds.1
        rw [only i holds] at late
        exact absurd early (Nat.not_lt.mpr late)
      · intro timely i holds
        by_cases early : place < s.since
        · exact absurd ⟨i, holds⟩ (timely l found live early)
        · -- a lease of the present generation holds its key itself
          refine h.one_holder l.opKey i place holds ⟨Nat.not_lt.mp early, ?_⟩
          rw [found, ← live]
    · have spent : ∀ l, s.leases[place]? = some l → l.active = false := by
        intro l found
        exact Bool.eq_false_iff.mpr fun active => live ⟨l, found, active⟩
      rw [step_release_spent spent]
      refine ⟨fun _ l found active _ => ?_, fun _ => h⟩
      exact absurd ⟨l, found, active⟩ live

/-- Leases are exclusive at every moment of a run exactly if no late release in it meets a
newer lease on its key. -/
theorem leases_exclusive_iff (calls : List LeaseCall) :
    (∀ earlier, earlier <+: calls → Exclusive (run earlier)) ↔
      Runs.Along step NoLateRelease start calls := by
  symm
  apply Runs.along_iff_forall_moment (J := fun _ => True) trivial exclusive_start
  · intro _ _ _ _ _ _
    trivial
  · intro s call _ _ h
    exact exclusive_step_iff h call

instance (s : Leasing) (place : ℕ) (opKey : String) : Decidable (s.Holds place opKey) :=
  inferInstanceAs (Decidable (_ ∧ _))

/-- A recovery is under way when the coordinator is reset; another one starts on the same key;
the first one ends. -/
def lateRelease : List LeaseCall := [.begin "resync", .reset, .begin "resync", .release 0]

/-- The end of the first recovery frees the key that the second one holds, and a third one is
let in beside it. -/
theorem late_release_frees_key :
    (run lateRelease).Holds 1 "resync" ∧
      ((run lateRelease).coordinator.begin "resync").1 ≠ none ∧
      (run (lateRelease ++ [.begin "resync"])).Holds 1 "resync" ∧
      (run (lateRelease ++ [.begin "resync"])).Holds 2 "resync" := by
  decide +kernel

end Leasing

end Ghostlink.Core
