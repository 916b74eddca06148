import Ghostlink.Base.Dict
import Ghostlink.Core.Recovery
import Ghostlink.Groups.Identifiers

/-! How the messaging service drives the recovery machine. Every group has its own resync, but
the machine is one: a resync that is suspended at its sync finds the machine where another
group's resync, a new attachment or the closing of the service left it. -/

namespace Ghostlink.Groups
open Collections Core List RecoveryCoordinator

def resyncMinIntervalSeconds : ℚ := 5

def throttleMapLimit : ℕ := 128

inductive Move
  | attach
  | trigger
  | begin
  | finish
  | close
  deriving DecidableEq

def Move.target : Move → RecoveryState
  | attach => .connected
  | trigger => .resyncRequired
  | begin => .recovering
  | finish => .ready
  | close => .closed

/-- A `_resync` task: not begun yet, or suspended at its sync with the lease it holds. -/
structure ResyncTask where
  groupId : GroupId
  lease : Option RecoveryLease

structure ResyncService where
  recovery : RecoveryCoordinator
  resyncAt : Dict String ℚ
  tasks : List ResyncTask
  raised : List IllegalRecoveryTransition
  last : Option Move

inductive ResyncEvent
  | attach (now : ℚ)
  | close (now : ℚ)
  | trigger (groupId : GroupId) (reason : String) (now : ℚ)
  | noticeOnce (groupId : GroupId) (detail : String) (now : ℚ)
  | resume (task : ℕ) (now : ℚ)

namespace ResyncService
variable (s : ResyncService)

def start : ResyncService :=
  { recovery := .initial, resyncAt := Dict.empty, tasks := [], raised := [], last := none }

def move (m : Move) (reason : String) (now : ℚ) : Bool × ResyncService :=
  match s.recovery.transition m.target reason now with
  | .ok c => (true, { s with recovery := c, last := some m })
  | .error e => (false, { s with raised := s.raised ++ [e] })

def attach (now : ℚ) : ResyncService :=
  ({ s with recovery := s.recovery.reset }.move .attach "attach" now).2

def close (now : ℚ) : ResyncService := (s.move .close "close" now).2

def throttled (key : String) (now : ℚ) : Bool :=
  now - (s.resyncAt.get? key).getD 0 < resyncMinIntervalSeconds

def syncKey (groupId : GroupId) : String := "sync:" ++ groupId.val

def resyncKey (groupId : GroupId) : String := "resync:" ++ groupId.val

def schedule (groupId : GroupId) : Bool × ResyncService → ResyncService
  | (false, s) => s
  | (true, s) => { s with tasks := s.tasks ++ [{ groupId, lease := none }] }

def triggerResync (groupId : GroupId) (reason : String) (now : ℚ) : ResyncService :=
  if s.throttled (syncKey groupId) now then s
  else if s.recovery.hasInFlight (resyncKey groupId) then s
  else
    schedule groupId <|
      { s with resyncAt := s.resyncAt.set (syncKey groupId) now }.move .trigger reason now

/-- `_emit_notice_once` shares the map of times with the resyncs and clears it when it is full. -/
def emitNoticeOnce (groupId : GroupId) (detail : String) (now : ℚ) : ResyncService :=
  let s := if s.resyncAt.size > throttleMapLimit then { s with resyncAt := Dict.empty } else s
  let key := groupId.val ++ ":" ++ detail
  if s.throttled key now then s else { s with resyncAt := s.resyncAt.set key now }

def finish (place : ℕ) (groupId : GroupId) (lease : RecoveryLease) (now : ℚ) : ResyncService :=
  ({ s with
      recovery := (lease.release s.recovery).2
      tasks := s.tasks.eraseIdx place }.move .finish ("resync done " ++ groupId.val) now).2

/-- With the lease in hand the task moves the machine and goes on to its sync; if the machine
refuses, the task ends at once. -/
def begun (place : ℕ) (groupId : GroupId) (lease : RecoveryLease) (now : ℚ) :
    Bool × ResyncService → ResyncService
  | (false, s) => s.finish place groupId lease now
  | (true, s) => { s with tasks := s.tasks.set place { groupId, lease := some lease } }

def beginResync (place : ℕ) (groupId : GroupId) (now : ℚ) : ResyncService :=
  match s.recovery.begin (resyncKey groupId) with
  | (none, _) => { s with tasks := s.tasks.eraseIdx place }
  | (some lease, c) =>
    begun place groupId lease now
      ({ s with recovery := c }.move .begin ("resync " ++ groupId.val) now)

def resume (place : ℕ) (now : ℚ) : Option ResyncTask → ResyncService
  | none => s
  | some { groupId, lease := none } => s.beginResync place groupId now
  | some { groupId, lease := some lease } => s.finish place groupId lease now

def step : ResyncEvent → ResyncService
  | .attach now => s.attach now
  | .close now => s.close now
  | .trigger groupId reason now => s.triggerResync groupId reason now
  | .noticeOnce groupId detail now => s.emitNoticeOnce groupId detail now
  | .resume task now => s.resume task now s.tasks[task]?

def run (events : List ResyncEvent) : ResyncService := events.foldl step start

def moveOf : ResyncEvent → Option Move
  | .attach _ => some .attach
  | .close _ => some .close
  | .trigger groupId _ now =>
    if s.throttled (syncKey groupId) now then none
    else if s.recovery.hasInFlight (resyncKey groupId) then none
    else some .trigger
  | .noticeOnce _ _ _ => none
  | .resume task _ =>
    match s.tasks[task]? with
    | none => none
    | some { groupId, lease := none } =>
      if s.recovery.hasInFlight (resyncKey groupId) then none else some .begin
    | some { lease := some _, .. } => some .finish

def Legal (state : RecoveryState) (m : Move) : Prop :=
  m = .attach ∨ state = m.target ∨ m.target ∈ state.allowedTransitions

structure Idle (s s' : ResyncService) : Prop where
  state : s'.recovery.state = s.recovery.state
  raised : s'.raised = s.raised
  last : s'.last = s.last

structure Moved (s : ResyncService) (m : Move) (s' : ResyncService) : Prop where
  state : s'.recovery.state = m.target
  raised : s'.raised = s.raised
  last : s'.last = some m

variable {s s' : ResyncService}

variable {m : Move}

lemma move_legal (reason now)
    (h : s.recovery.state = m.target ∨ m.target ∈ s.recovery.state.allowedTransitions) :
    (s.move m reason now).1 ∧ Moved s m (s.move m reason now).2 := by
  obtain ⟨c, made⟩ := (transition_eq_ok_iff m.target reason now).mpr h
  rw [move, made]
  exact ⟨rfl, (transition_ok made).1, rfl, rfl⟩

lemma move_illegal (reason now)
    (h : ¬ (s.recovery.state = m.target ∨ m.target ∈ s.recovery.state.allowedTransitions)) :
    (s.move m reason now).1 = false ∧ (s.move m reason now).2.raised ≠ [] := by
  unfold move
  cases made : s.recovery.transition m.target reason now with
  | ok c => exact absurd ((transition_eq_ok_iff _ _ _).mp ⟨c, made⟩) h
  | error e => exact ⟨rfl, append_ne_nil_of_right_ne_nil _ (cons_ne_nil e [])⟩

lemma raised_move (s : ResyncService) (m reason now) :
    s.raised <+: (s.move m reason now).2.raised := by
  unfold move
  cases s.recovery.transition m.target reason now with
  | ok => exact prefix_rfl
  | error => exact prefix_append _ _

lemma raised_finish (s : ResyncService) (place groupId lease now) :
    s.raised <+: (s.finish place groupId lease now).raised := by
  exact raised_move { s with
    recovery := (lease.release s.recovery).2, tasks := s.tasks.eraseIdx place } _ _ _

lemma state_release (lease : RecoveryLease) (c : RecoveryCoordinator) :
    (lease.release c).2.state = c.state := by
  unfold RecoveryLease.release
  split_ifs <;> rfl

def Takes (s : ResyncService) (m : Move) (s' : ResyncService) : Prop :=
  (Legal s.recovery.state m ∧ Moved s m s') ∨ (¬ Legal s.recovery.state m ∧ s'.raised ≠ [])

lemma takes_of_ne_attach (other : m ≠ .attach)
    (legal : (s.recovery.state = m.target ∨ m.target ∈ s.recovery.state.allowedTransitions) →
      Moved s m s')
    (illegal : ¬ (s.recovery.state = m.target ∨ m.target ∈ s.recovery.state.allowedTransitions) →
      s'.raised ≠ []) : Takes s m s' := by
  have unfolded : Legal s.recovery.state m ↔
      s.recovery.state = m.target ∨ m.target ∈ s.recovery.state.allowedTransitions := by
    simp [Legal, other]
  by_cases h : s.recovery.state = m.target ∨ m.target ∈ s.recovery.state.allowedTransitions
  · exact .inl ⟨unfolded.mpr h, legal h⟩
  · exact .inr ⟨fun l => h (unfolded.mp l), illegal h⟩

lemma Idle.takes {s₀} (idle : Idle s s₀) (h : Takes s₀ m s') : Takes s m s' := by
  unfold Takes at h ⊢
  rw [idle.state] at h
  rcases h with ⟨legal, moved⟩ | illegal
  · exact .inl ⟨legal, moved.state, moved.raised.trans idle.raised, moved.last⟩
  · exact .inr illegal

section
variable (s)

lemma attach_takes (now) : Takes s .attach (s.attach now) := by
  refine .inl ⟨.inl rfl, ?_⟩
  have legal : s.recovery.reset.state = Move.attach.target ∨
      Move.attach.target ∈ s.recovery.reset.state.allowedTransitions :=
    .inr (mem_cons_self ..)
  obtain ⟨-, moved⟩ := move_legal (s := { s with recovery := s.recovery.reset }) (m := .attach)
    "attach" now legal
  exact { moved with }

lemma moveThen_takes (other : m ≠ .attach) (reason now) (f : Bool × ResyncService → ResyncService)
    (legal : ∀ s', Moved s m s' → Moved s m (f (true, s')))
    (illegal : ∀ s', s'.raised ≠ [] → (f (false, s')).raised ≠ []) :
    Takes s m (f (s.move m reason now)) := by
  apply takes_of_ne_attach other
  · intro h
    obtain ⟨returned, moved⟩ := move_legal reason now h
    rw [← Prod.eta (s.move m reason now), returned]
    exact legal _ moved
  · intro h
    obtain ⟨threw, raised⟩ := move_illegal reason now h
    rw [← Prod.eta (s.move m reason now), threw]
    exact illegal _ raised

lemma move_takes (other : m ≠ .attach) (reason now) :
    Takes s m (s.move m reason now).2 :=
  moveThen_takes s other reason now Prod.snd (fun _ => id) fun _ => id

lemma close_takes (now) : Takes s .close (s.close now) :=
  move_takes s Move.noConfusion _ now

lemma finish_takes (place groupId lease now) :
    Takes s .finish (s.finish place groupId lease now) := by
  have idle : Idle s { s with
      recovery := (lease.release s.recovery).2, tasks := s.tasks.eraseIdx place } :=
    ⟨state_release lease s.recovery, rfl, rfl⟩
  exact idle.takes (move_takes _ Move.noConfusion _ now)

lemma schedule_takes (groupId reason now) :
    Takes s .trigger (schedule groupId (s.move .trigger reason now)) :=
  moveThen_takes s Move.noConfusion reason now _
    (fun _ moved => { moved with }) fun _ => id

lemma begun_takes (place groupId lease reason now) :
    Takes s .begin (begun place groupId lease now (s.move .begin reason now)) :=
  moveThen_takes s Move.noConfusion reason now _
    (fun _ moved => { moved with })
    fun s' => (raised_finish s' place groupId lease now).ne_nil

end

def Effect (s : ResyncService) (s' : ResyncService) : Option Move → Prop
  | none => Idle s s'
  | some m => Takes s m s'

section
variable (s)

lemma idle_emitNoticeOnce (groupId detail now) :
    Idle s (s.emitNoticeOnce groupId detail now) := by
  simp only [emitNoticeOnce]
  split_ifs <;> exact ⟨rfl, rfl, rfl⟩

lemma effect_trigger (groupId reason now) :
    Effect s (s.triggerResync groupId reason now) (s.moveOf (.trigger groupId reason now)) := by
  simp only [triggerResync, moveOf]
  split_ifs
  · exact ⟨rfl, rfl, rfl⟩
  · exact ⟨rfl, rfl, rfl⟩
  · have idle : Idle s { s with resyncAt := s.resyncAt.set (syncKey groupId) now } :=
      ⟨rfl, rfl, rfl⟩
    exact idle.takes (schedule_takes _ groupId reason now)

lemma effect_begin (place groupId now) :
    Effect s (s.beginResync place groupId now)
      (if s.recovery.hasInFlight (resyncKey groupId) then none else some .begin) := by
  unfold beginResync
  by_cases held : resyncKey groupId ∈ s.recovery.inFlight
  · have inFlight : s.recovery.hasInFlight (resyncKey groupId) := decide_eq_true held
    rw [begin_of_mem held, if_pos inFlight]
    exact ⟨rfl, rfl, rfl⟩
  · have notInFlight : ¬ s.recovery.hasInFlight (resyncKey groupId) :=
      fun h => held (of_decide_eq_true h)
    rw [begin_of_notMem held, if_neg notInFlight]
    have idle : Idle s { s with
        recovery := { s.recovery with
          inFlight := insert (resyncKey groupId) s.recovery.inFlight } } := ⟨rfl, rfl, rfl⟩
    exact idle.takes (begun_takes _ place groupId _ _ now)

lemma effect_step (e) : Effect s (s.step e) (s.moveOf e) := by
  cases e with
  | attach now => exact attach_takes s now
  | close now => exact close_takes s now
  | trigger groupId reason now => exact effect_trigger s groupId reason now
  | noticeOnce groupId detail now => exact idle_emitNoticeOnce s groupId detail now
  | resume place now =>
    simp only [step, moveOf]
    cases s.tasks[place]? with
    | none => exact ⟨rfl, rfl, rfl⟩
    | some task =>
      obtain ⟨groupId, lease⟩ := task
      cases lease with
      | none => exact effect_begin s place groupId now
      | some lease => exact finish_takes s place groupId lease now

end

/-- What the last move must have been for the next one to be legal: a resync is not requested
while another one is recovering nor after the service was closed, it begins right after a
request or the beginning of another one, and it does not end right after the closing. -/
def Follows (last : Option Move) : Move → Prop
  | .attach => True
  | .close => True
  | .trigger => last ≠ some .begin ∧ last ≠ some .close
  | .begin => last = some .trigger ∨ last = some .begin
  | .finish => last ≠ some .close

/-- Every call of `transition` that the event makes follows a move after which it is legal. -/
def InOrder (s : ResyncService) (e : ResyncEvent) : Prop :=
  ∀ m, s.moveOf e = some m → Follows s.last m

def stateAfter : Option Move → RecoveryState
  | none => .ready
  | some m => m.target

lemma legal_stateAfter_iff (last m) : Legal (stateAfter last) m ↔ Follows last m := by
  rcases last with _ | last
  · cases m <;> simp [Legal, Follows, stateAfter, Move.target, RecoveryState.allowedTransitions]
  · cases last <;> cases m <;>
      simp [Legal, Follows, stateAfter, Move.target, RecoveryState.allowedTransitions]

lemma raises_iff (at_last : s.recovery.state = stateAfter s.last) (quiet : s.raised = [])
    (e) : (s.step e).raised = [] ↔ s.InOrder e := by
  have effect := effect_step s e
  unfold InOrder
  cases made : s.moveOf e with
  | none =>
    rw [made] at effect
    refine ⟨fun _ m none_eq => ?_, fun _ => effect.raised.trans quiet⟩
    cases none_eq
  | some m =>
    rw [made] at effect
    have law := legal_stateAfter_iff s.last m
    rw [← at_last] at law
    rcases effect with ⟨legal, moved⟩ | ⟨illegal, raised⟩
    · refine ⟨fun _ m' same => ?_, fun _ => moved.raised.trans quiet⟩
      cases same
      exact law.mp legal
    · refine ⟨fun none_raised => absurd none_raised raised, fun follows => ?_⟩
      exact absurd (law.mpr (follows m rfl)) illegal

lemma state_step (at_last : s.recovery.state = stateAfter s.last) (e)
    (still : (s.step e).raised = []) : (s.step e).recovery.state = stateAfter (s.step e).last := by
  have effect := effect_step s e
  cases made : s.moveOf e with
  | none =>
    rw [made] at effect
    rwa [effect.state, effect.last]
  | some =>
    rw [made] at effect
    rcases effect with ⟨-, moved⟩ | ⟨-, raised⟩
    · rw [moved.state, moved.last]
      rfl
    · exact absurd still raised

lemma raised_step (s : ResyncService) (e) (h : (s.step e).raised = []) : s.raised = [] := by
  have effect := effect_step s e
  cases made : s.moveOf e with
  | none =>
    rw [made] at effect
    rwa [← effect.raised]
  | some =>
    rw [made] at effect
    rcases effect with ⟨-, moved⟩ | ⟨-, raised⟩
    · rwa [← moved.raised]
    · exact absurd h raised

lemma raised_run {events : List ResyncEvent}
    (h : (events.foldl step s).raised = []) : s.raised = [] := by
  induction events generalizing s with
  | nil => exact h
  | cons e events ih => exact raised_step s e (ih h)

/-- No call of `transition` in a run raises exactly if every move of the machine follows one
after which it is legal. -/
theorem transitions_legal_iff (events : List ResyncEvent) :
    (run events).raised = [] ↔ Runs.Along step InOrder start events := by
  have moments : Runs.Along step InOrder start events ↔
      ∀ earlier, earlier <+: events → (run earlier).raised = [] := by
    apply Runs.along_iff_forall_moment
      (J := fun s : ResyncService => s.recovery.state = stateAfter s.last)
      (P := fun s : ResyncService => s.raised = []) rfl rfl
    · intro s e _ at_last _ still
      exact state_step at_last e still
    · intro s e _ at_last quiet
      exact raises_iff at_last quiet e
  rw [moments]
  constructor
  · rintro quiet earlier ⟨later, rfl⟩
    rw [run, foldl_append] at quiet
    exact raised_run quiet
  · intro always
    exact always events prefix_rfl

lemma harbour_wellFormed : isValidGroupId "gl-group-BBBB-BBBB-BBBB" := by decide

def harbour : GroupId := ⟨"gl-group-BBBB-BBBB-BBBB", harbour_wellFormed⟩

lemma quay_wellFormed : isValidGroupId "gl-group-CCCC-CCCC-CCCC" := by decide

def quay : GroupId := ⟨"gl-group-CCCC-CCCC-CCCC", quay_wellFormed⟩

/-- Two groups fall behind at once. A second request finds the first resync recovering; or both
are requested in time, and the second begins when the first has ended; or the service is closed
while a resync waits for the relay. -/
theorem overlapping_resyncs_raise :
    ((run [.attach 10, .trigger harbour "stale" 10, .resume 0 10,
        .trigger quay "stale" 11]).raised.map (·.message)) =
      ["Illegal recovery transition recovering → resync_required."] ∧
    ((run [.attach 10, .trigger harbour "stale" 10, .trigger quay "stale" 10, .resume 0 10,
        .resume 0 11, .resume 0 11]).raised.map (·.message)) =
      ["Illegal recovery transition ready → recovering."] ∧
    ((run [.attach 10, .trigger harbour "stale" 10, .resume 0 10, .close 11,
        .resume 0 12]).raised.map (·.message)) =
      ["Illegal recovery transition closed → ready."] := by
  decide +kernel

end ResyncService

end Ghostlink.Groups
