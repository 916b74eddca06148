import Ghostlink.Transfer.Receiving

/-! What one step of an incoming transfer can do, said once, and the order that follows from it:
as long as calls of `accept` for a transfer do not overlap, chunks are handled only after the
call is over, and the `.part` file is renamed at most once. -/

namespace Ghostlink.FileTransfer
open Messaging List Reception

structure Core where
  manifest : FileManifest
  state : TransferState
  savedPath : Option String
  destination : Option String
  part : Option Bytes
  tasks : List Task
  moved : List (String × Bytes)

namespace Reception

def core (r : Reception) : Core where
  manifest := r.manifest
  state := r.transfer.state
  savedPath := r.transfer.savedPath
  destination := r.destination
  part := r.part
  tasks := r.tasks
  moved := r.moved

def disturbs (T : TransferPrimitives) (r : Reception) : ReceptionEvent → Bool
  | .chunk n sealed key _ =>
    match r.checkChunk T n sealed key with
    | .fails _ => true
    | _ => false
  | .resume k _ =>
    match r.tasks[k]? with
    | some (.written _ (some _)) | some (.hashed (.error _)) | some (.finalized (.error _)) => true
    | some (.hashed (.ok digest)) => digest != r.manifest.sha256
    | _ => false
  | .cancel _ _ | .reject _ _ | .peerError _ _ | .expire _ | .pause => true
  | .accept _ _ | .work _ _ | .unpause | .purge => false

inductive Next (T : TransferPrimitives) (taken : String → Bool) (r : Reception)
    (e : ReceptionEvent) (k : ℕ) : Task → Task → Prop
  | place (disk : Disk) (works : e = .work k disk) :
      Next T taken r e k .accepting (.placed (r.chooseDestination T taken disk))
  | create (destination : String) :
      Next T taken r e k (.placed (.ok destination)) (.opening destination)
  | createFails (destination error : String) :
      Next T taken r e k (.opening destination) (.opened destination (some error))
  | writeFails (n : ℕ) (data : Bytes) (error : String) :
      Next T taken r e k (.writing n data) (.written n (some error))
  | ack (n : ℕ) : Next T taken r e k (.written n none) .acking
  | hash : Next T taken r e k .acking .hashing
  | hashes (disk : Disk) : Next T taken r e k .hashing (.hashed (r.hashTemp T disk))
  | finalize (destination : String) (kept : r.destination = some destination) :
      Next T taken r e k (.hashed (.ok r.manifest.sha256)) (.finalizing destination)
  | choose : Next T taken r e k (.hashed (.ok r.manifest.sha256)) .choosing
  | chooses (disk : Disk) (works : e = .work k disk) :
      Next T taken r e k .choosing (.chosen (r.chooseDestination T taken disk))
  | finalizeChosen (destination : String) :
      Next T taken r e k (.chosen (.ok destination)) (.finalizing destination)
  | renameFails (destination error : String) :
      Next T taken r e k (.finalizing destination) (.finalized (.error error))
  | stops (t : Task) : Next T taken r e k t .done

inductive Change (T : TransferPrimitives) (taken : String → Bool) (r : Reception) :
    ReceptionEvent → Core → Prop
  | still (e : ReceptionEvent) : Change T taken r e r.core
  | asked {usage limit : ℕ} (state : r.transfer.state = .offered) :
      Change T taken r (.accept usage limit) { r.core with tasks := r.tasks ++ [.accepting] }
  | received {n : ℕ} {sealed : Bytes} {key : Option Key} {deletes : Bool} {data : Bytes}
      (state : r.transfer.state ≠ .offered) (open_ : r.transfer.state.isTerminal = false) :
      Change T taken r (.chunk n sealed key deletes)
        { r.core with tasks := r.tasks ++ [.writing n data] }
  | advanced {e : ReceptionEvent} {k : ℕ} {t t' : Task} (listed : r.tasks[k]? = some t)
      (next : Next T taken r e k t t') :
      Change T taken r e { r.core with tasks := r.tasks.set k t' }
  | began {k n : ℕ} {deletes : Bool} (listed : r.tasks[k]? = some (.written n none))
      (state : r.transfer.state = .accepted) : Change T taken r (.resume k deletes)
        { r.core with state := .transferring, tasks := r.tasks.set k .acking }
  | created {k : ℕ} {destination : String} (listed : r.tasks[k]? = some (.opening destination)) :
      Change T taken r (.work k .fine)
        { r.core with part := some (r.part.getD [])
                      tasks := r.tasks.set k (.opened destination none) }
  | accepted {k : ℕ} {destination : String} {deletes : Bool}
      (listed : r.tasks[k]? = some (.opened destination none))
      (state : r.transfer.state = .offered) : Change T taken r (.resume k deletes)
        { r.core with state := .accepted, destination := some destination
                      tasks := r.tasks.set k .done }
  | refused {k : ℕ} {destination : String} {deletes : Bool}
      (listed : r.tasks[k]? = some (.opened destination none))
      (state : r.transfer.state ≠ .offered) : Change T taken r (.resume k deletes)
        { r.core with destination := some destination, tasks := r.tasks.set k .done }
  | wrote {k n : ℕ} {data bytes : Bytes} (listed : r.tasks[k]? = some (.writing n data))
      (has : r.part = some bytes) : Change T taken r (.work k .fine)
        { r.core with part := some (writeChunk bytes n r.manifest.chunkSize data)
                      tasks := r.tasks.set k (.written n none) }
  | renamed {k : ℕ} {disk : Disk} {destination : String} {bytes : Bytes}
      {result : Except String String} (listed : r.tasks[k]? = some (.finalizing destination))
      (has : r.part = some bytes)
      (answer : disk = .fine ∧ result = .ok destination ∨
        ∃ strerror, disk = .refusesChmod strerror ∧ ∃ error, result = .error error) :
      Change T taken r (.work k disk)
        { r.core with part := none, moved := r.moved ++ [(destination, bytes)]
                      tasks := r.tasks.set k (.finalized result) }
  | completed {k : ℕ} {saved : String} {deletes : Bool}
      (listed : r.tasks[k]? = some (.finalized (.ok saved)))
      (state : r.transfer.state = .transferring) : Change T taken r (.resume k deletes)
        { r.core with state := .completed, savedPath := some saved, tasks := r.tasks.set k .done }
  | saved {k : ℕ} {saved : String} {deletes : Bool}
      (listed : r.tasks[k]? = some (.finalized (.ok saved)))
      (state : r.transfer.state ≠ .transferring) : Change T taken r (.resume k deletes)
        { r.core with savedPath := some saved, tasks := r.tasks.set k .done }
  | ended {e : ReceptionEvent} {state : TransferState} {part : Option Bytes} {tasks : List Task}
      (disturbs : r.disturbs T e) (open_ : r.transfer.state.isTerminal = false)
      (terminal : state.isTerminal) (other : state ≠ .completed)
      (left : part = none ∨ part = r.part)
      (stopped : tasks = r.tasks ∨
        ∃ k t, r.tasks[k]? = some t ∧ tasks = r.tasks.set k .done) : Change T taken r e
        { r.core with state, part, tasks }
  | paused (state : r.transfer.state = .transferring) :
      Change T taken r .pause { r.core with state := .paused }
  | unpaused (state : r.transfer.state = .paused) :
      Change T taken r .unpause { r.core with state := .transferring }
  | purged (terminal : r.transfer.state.isTerminal) :
      Change T taken r .purge { r.core with destination := none }

section
variable {T : TransferPrimitives} {taken : String → Bool} {r : Reception}

variable {state : TransferState} {k : ℕ} {deletes : Bool}

lemma not_terminal_of_transition {direction next}
    (h : next ∈ state.transitions direction) : state.isTerminal = false := by
  cases state <;> first | rfl | exact absurd h not_mem_nil

lemma accepted_iff_offered (state : TransferState) :
    TransferState.accepted ∈ state.transitions .receiving ↔ state = .offered := by
  cases state <;> decide

lemma completed_iff_transferring (state : TransferState) :
    TransferState.completed ∈ state.transitions .receiving ↔ state = .transferring := by
  cases state <;> decide

lemma settled_eq (r : Reception) (state error deletes) : r.settled state error deletes =
      if state ∈ r.transfer.state.transitions .receiving then
        { r with transfer := { r.transfer with state, error := error.or r.transfer.error }
                 part := if state ≠ .completed ∧ deletes then none else r.part }
      else r := by
  unfold settled settleTerminal Transfer.transitionTo
  by_cases allowed : state ∈ r.transfer.state.transitions .receiving
  · simp [allowed]
  · by_cases same : r.transfer.state = state
    · subst same
      simp [allowed]
    · simp [allowed, same]

lemma core_settled (r : Reception) (state error deletes) :
    (r.settled state error deletes).core = r.core ∨
      r.transfer.state.isTerminal = false ∧ ∃ part, (part = none ∨ part = r.part) ∧
        (r.settled state error deletes).core = { r.core with state, part } := by
  rw [settled_eq]
  by_cases allowed : state ∈ r.transfer.state.transitions .receiving
  · rw [if_pos allowed]
    refine .inr ⟨not_terminal_of_transition allowed, _, ?_, rfl⟩
    split_ifs
    · exact .inl rfl
    · exact .inr rfl
  · rw [if_neg allowed]
    exact .inl rfl

lemma change_fails {t} (listed : r.tasks[k]? = some t)
    (disturbs : r.disturbs T (.resume k deletes)) (message) :
    Change T taken r (.resume k deletes)
      ((r.setTask k .done).failTransfer message deletes).core := by
  have stops : Change T taken r (.resume k deletes) (r.setTask k .done).core :=
    .advanced listed (.stops t)
  unfold failTransfer
  split
  · exact stops
  · rcases core_settled (r.setTask k .done) .failed (some message) deletes with
      same | ⟨open_, part, left, ended⟩
    · rwa [same]
    · rw [ended]
      exact .ended disturbs open_ rfl (by decide) left (.inr ⟨k, t, listed, rfl⟩)

lemma change_settled {e} (disturbs : r.disturbs T e)
    (terminal : state.isTerminal) (other : state ≠ .completed)
    (error deletes) : Change T taken r e (r.settled state error deletes).core := by
  rcases core_settled r state error deletes with same | ⟨open_, part, left, ended⟩
  · rw [same]
    exact .still e
  · rw [ended]
    exact .ended disturbs open_ terminal other left (.inl rfl)

lemma change_ite {e r₁ r₂} {p : Prop} [Decidable p] (yes : Change T taken r e (core r₁))
    (no : Change T taken r e (core r₂)) : Change T taken r e (if p then r₁ else r₂).core := by
  split_ifs
  · exact yes
  · exact no

lemma change_accept (usage limit) :
    Change T taken r (.accept usage limit) (r.accept usage limit).core := by
  unfold accept
  split
  · exact .still _
  · rename_i checked
    simp only [checkAccept, Checks.refuse_eq_ok, Checks.throw_if_eq_ok, not_not] at checked
    exact .asked checked.2.1

lemma checkChunk_open {n sealed key} (h : r.checkChunk T n sealed key ≠ .ignored) :
    r.transfer.state ≠ .offered ∧ r.transfer.state.isTerminal = false := by
  constructor
  · intro offered
    apply h
    unfold checkChunk
    simp [offered]
  · apply Bool.eq_false_of_not_eq_true
    intro terminal
    apply h
    unfold checkChunk
    simp [terminal]

lemma change_onChunk (n sealed key deletes) :
    Change T taken r (.chunk n sealed key deletes) (r.onChunk T n sealed key deletes).core := by
  unfold onChunk
  split
  · rename_i message fails
    have disturbs : r.disturbs T (.chunk n sealed key deletes) := by
      simp [disturbs, fails]
    exact change_ite (.still _) (change_settled disturbs rfl (by decide) _ deletes)
  · exact .still _
  · rename_i data writes
    obtain ⟨state, open_⟩ := checkChunk_open (by rw [writes]; exact nofun)
    exact .received state open_

lemma change_work (k disk) : Change T taken r (.work k disk) (r.work T taken k disk).core := by
  unfold work
  rcases listed : r.tasks[k]? with _ | t
  · exact .still _
  cases t with
  | accepting => exact .advanced listed (.place disk rfl)
  | opening destination =>
    cases disk with
    | fine => exact .created listed
    | refuses strerror | refusesChmod strerror =>
      exact .advanced listed (.createFails destination strerror)
  | writing n data =>
    rcases has : r.part with _ | bytes
    · exact .advanced listed (.writeFails n data _)
    · cases disk with
      | fine => exact .wrote listed has
      | refuses | refusesChmod => exact .advanced listed (.writeFails n data _)
  | hashing => exact .advanced listed (.hashes disk)
  | choosing => exact .advanced listed (.chooses disk rfl)
  | finalizing destination =>
    rcases has : r.part with _ | bytes
    · exact .advanced listed (.renameFails destination _)
    · cases disk with
      | fine => exact .renamed listed has (.inl ⟨rfl, rfl⟩)
      | refuses => exact .advanced listed (.renameFails destination _)
      | refusesChmod strerror => exact .renamed listed has (.inr ⟨strerror, rfl, _, rfl⟩)
  | _ => exact .still _

lemma change_finishAccept {destination} (listed : r.tasks[k]? = some (.opened destination none)) :
    Change T taken r (.resume k deletes) ((r.setTask k .done).finishAccept destination).core := by
  unfold finishAccept Transfer.transitionTo
  by_cases state : r.transfer.state = .offered
  · simp only [setTask, accepted_iff_offered, state, if_true]
    exact .accepted listed state
  · simp only [setTask, accepted_iff_offered, state, if_false]
    exact .refused listed state

lemma change_markWritten {n} (listed : r.tasks[k]? = some (.written n none)) :
    Change T taken r (.resume k deletes) ((r.setTask k .acking).markWritten n).core := by
  unfold markWritten
  split
  · exact .advanced listed (.ack n)
  · dsimp only
    split
    · rename_i state
      exact .began listed state
    · exact .advanced listed (.ack n)

lemma change_complete {saved} (listed : r.tasks[k]? = some (.finalized (.ok saved))) :
    Change T taken r (.resume k deletes) (({ r.setTask k .done with
      transfer := { (r.setTask k .done).transfer with savedPath := some saved } } :
        Reception).settled .completed none deletes).core := by
  rw [settled_eq]
  by_cases state : r.transfer.state = .transferring
  · simp only [setTask, completed_iff_transferring, state, if_true]
    exact .completed listed state
  · simp only [setTask, completed_iff_transferring, state, if_false]
    exact .saved listed state

lemma change_resume (k deletes) :
    Change T taken r (.resume k deletes) (r.resume k deletes).core := by
  have fails {t : Task} (listed : r.tasks[k]? = some t) (message : String)
      (disturbs : r.disturbs T (.resume k deletes)) : Change T taken r (.resume k deletes)
        ((r.setTask k .done).failTransfer message deletes).core :=
    change_fails listed disturbs message
  unfold resume
  rcases listed : r.tasks[k]? with _ | t
  · exact .still _
  rcases t with _ | (_ | destination) | _ | ⟨destination, _ | _⟩ | _ | ⟨n, _ | error⟩ | _ | _ |
    (message | digest) | _ | (_ | destination) | _ | (message | saved) | _
  case placed.error => exact .advanced listed (.stops _)
  case placed.ok => exact .advanced listed (.create destination)
  case opened.none => exact change_finishAccept listed
  case opened.some => exact .advanced listed (.stops _)
  case written.none =>
    dsimp only
    split
    · exact .advanced listed (.stops _)
    · exact change_markWritten listed
  case written.some => exact fails listed error (by simp only [disturbs, listed])
  case acking =>
    dsimp only
    split
    · exact .advanced listed .hash
    · exact .advanced listed (.stops _)
  case hashed.error => exact fails listed message (by simp only [disturbs, listed])
  case hashed.ok =>
    dsimp only
    split
    · rename_i wrong
      refine fails listed _ ?_
      simp only [disturbs, listed]
      exact bne_iff_ne.mpr wrong
    · rename_i same
      rw [not_not.mp same] at listed
      split
      · rename_i destination kept
        exact .advanced listed (.finalize destination kept)
      · exact .advanced listed .choose
  case chosen.error => exact .advanced listed (.stops _)
  case chosen.ok => exact .advanced listed (.finalizeChosen destination)
  case finalized.error => exact fails listed message (by simp only [disturbs, listed])
  case finalized.ok => exact change_complete listed
  all_goals exact .still _

lemma step_change (T taken) (r : Reception) (e) : Change T taken r e (r.step T taken e).core := by
  cases e with
  | accept usage limit => exact change_accept usage limit
  | chunk n sealed key deletes => exact change_onChunk n sealed key deletes
  | work k disk => exact change_work k disk
  | resume k deletes => exact change_resume k deletes
  | cancel reason deletes =>
    exact change_ite (.still _) (change_settled rfl rfl (by decide) reason deletes)
  | reject reason deletes =>
    exact change_ite (change_settled rfl rfl (by decide) reason deletes) (.still _)
  | peerError message deletes =>
    exact change_ite (.still _) (change_settled rfl rfl (by decide) (some message) deletes)
  | expire deletes =>
    exact change_ite (.still _) (change_settled rfl rfl (by decide) _ deletes)
  | pause =>
    show Change T taken r _ r.pause.core
    unfold pause
    split
    · rename_i state
      exact .paused state
    · exact .still _
  | unpause =>
    show Change T taken r _ r.unpause.core
    unfold unpause
    split
    · rename_i state
      exact .unpaused state
    · exact .still _
  | purge =>
    show Change T taken r _ r.purge.core
    unfold purge
    split
    · rename_i terminal
      exact .purged terminal
    · exact .still _

end

end Reception

def Task.accepts : Task → Bool
  | .accepting | .placed _ | .opening _ | .opened _ _ => true
  | _ => false

/-- `accept` is not called while another call of it for the same transfer is under way. -/
def Reception.Apart (r : Reception) : ReceptionEvent → Prop
  | .accept _ _ => ∀ t ∈ r.tasks, t.accepts = false
  | _ => True

instance (r : Reception) : ∀ e, Decidable (r.Apart e)
  | .accept _ _ => inferInstanceAs (Decidable (∀ t ∈ r.tasks, t.accepts = false))
  | .chunk _ _ _ _ | .work _ _ | .resume _ _ | .cancel _ _ | .reject _ _ | .peerError _ _
  | .expire _ | .pause | .unpause | .purge => .isTrue trivial

namespace Core

structure Waiting (c : Core) : Prop where
  state : c.state = .offered ∨ c.state.isTerminal ∧ c.state ≠ .completed
  unmoved : c.moved = []
  stages : ∀ t ∈ c.tasks, t.accepts ∨ t = .done
  lone : ∀ (j k : ℕ) (t u : Task), c.tasks[j]? = some t → c.tasks[k]? = some u → t.accepts →
    u.accepts → j = k

/-- No call of `accept` is under way. There is a `.part` file only until it is renamed, and what
was renamed is what a handler saved. -/
structure Running (c : Core) : Prop where
  state : c.state ≠ .offered
  stages : ∀ t ∈ c.tasks, t.accepts = false
  unmoved : c.part.isSome → c.moved = []
  once : c.moved.length ≤ 1
  saved : ∀ name, .finalized (.ok name) ∈ c.tasks → ∃ bytes, c.moved = [(name, bytes)]
  completed : c.state = .completed →
    ∃ name bytes, c.savedPath = some name ∧ c.moved = [(name, bytes)]

def Phased (c : Core) : Prop := c.Waiting ∨ c.Running

variable {c : Core}

lemma Phased.moved_le (h : Phased c) : c.moved.length ≤ 1 := by
  rcases h with waiting | running
  · rw [waiting.unmoved]
    exact Nat.zero_le 1
  · exact running.once

lemma Phased.completed (h : Phased c) (done : c.state = .completed) :
    ∃ name bytes, c.savedPath = some name ∧ c.moved = [(name, bytes)] := by
  rcases h with waiting | running
  · rcases waiting.state with offered | ended
    · exact absurd (offered.symm.trans done) nofun
    · exact absurd done ended.2
  · exact running.completed done

end Core

namespace Reception
variable {T : TransferPrimitives} {taken : String → Bool} {r : Reception} {e : ReceptionEvent}
  {c : Core}

variable {t t' : Task} {k : ℕ}

lemma Next.accepts_eq (h : Next T taken r e k t t') : t' = .done ∨ t'.accepts = t.accepts := by
  cases h <;> first | exact .inr rfl | exact .inl rfl

lemma Next.of_done (h : Next T taken r e k .done t') : t' = .done := by
  cases h
  rfl

lemma Next.not_saved (h : Next T taken r e k t t') (name) : t' ≠ .finalized (.ok name) := by
  cases h <;> exact nofun

lemma not_waiting (h : r.core.Waiting) (listed : r.tasks[k]? = some t)
    (stage : t.accepts = false) (going : t ≠ .done) : False := by
  rcases h.stages t (mem_of_getElem? listed) with accepts | done
  · exact absurd (stage.symm.trans accepts) Bool.false_ne_true
  · exact going done

lemma waiting_set (h : r.core.Waiting) (listed : r.tasks[k]? = some t)
    (same : t' = .done ∨ t.accepts ∧ t'.accepts) :
    ({ r.core with tasks := r.tasks.set k t' } : Core).Waiting := by
  have before {j : ℕ} {u : Task} (hu : (r.tasks.set k t')[j]? = some u)
      (accepts : u.accepts) : ∃ v, r.tasks[j]? = some v ∧ v.accepts := by
    rw [getElem?_set] at hu
    split at hu
    · rename_i here
      subst here
      split at hu
      · cases hu
        rcases same with rfl | stage
        · exact absurd accepts Bool.false_ne_true
        · exact ⟨t, listed, stage.1⟩
      · exact absurd hu nofun
    · exact ⟨u, hu, accepts⟩
  refine ⟨h.state, h.unmoved, fun u hu => ?_, fun i j u v hu hv au av => ?_⟩
  · rcases mem_or_eq_of_mem_set hu with old | rfl
    · exact h.stages u old
    · exact (same.imp_right And.right).symm
  · obtain ⟨u', hu', au'⟩ := before hu au
    obtain ⟨v', hv', av'⟩ := before hv av
    exact h.lone i j u' v' hu' hv' au' av'

lemma waiting_step (h : r.core.Waiting) (apart : r.Apart e) (change : Change T taken r e c) :
    c.Phased := by
  have stopped {k : ℕ} {t : Task} (listed : r.tasks[k]? = some t) :
      ({ r.core with tasks := r.tasks.set k .done } : Core).Waiting :=
    waiting_set h listed (.inl rfl)
  cases change with
  | still => exact .inl h
  | asked =>
    have others {j : ℕ} {u : Task} (hu : (r.tasks ++ [.accepting])[j]? = some u)
        (accepts : u.accepts) : j = r.tasks.length := by
      rw [getElem?_append] at hu
      split at hu
      · have idle := apart u (mem_of_getElem? hu)
        exact absurd (idle.symm.trans accepts) Bool.false_ne_true
      · have short := (List.getElem?_eq_some_iff.mp hu).1
        rw [length_singleton] at short
        omega
    refine .inl ⟨h.state, h.unmoved, fun u hu => ?_, fun i j u v hu hv au av => ?_⟩
    · rcases mem_append.mp hu with old | new
      · exact h.stages u old
      · rw [mem_singleton.mp new]
        exact .inl rfl
    · rw [others hu au, others hv av]
  | received state open_ =>
    rcases h.state with offered | ended
    · exact absurd offered state
    · exact absurd (open_.symm.trans ended.1) Bool.false_ne_true
  | @advanced _ k t t' listed next =>
    refine .inl (waiting_set h listed ?_)
    rcases h.stages t (mem_of_getElem? listed) with accepts | rfl
    · exact next.accepts_eq.imp_right fun same => ⟨accepts, same.trans accepts⟩
    · exact .inl next.of_done
  | @created k destination listed =>
    have waiting : ({ r.core with tasks := r.tasks.set k (.opened destination none) } :
        Core).Waiting := waiting_set h listed (.inr ⟨rfl, rfl⟩)
    exact .inl { waiting with }
  | @accepted k destination _ listed state =>
    -- the call that ends was the only one, so nothing else is under way
    have idle (u : Task) (hu : u ∈ r.tasks.set k .done) : u = .done := by
      obtain ⟨j, hj⟩ := mem_iff_getElem?.mp hu
      rw [getElem?_set] at hj
      split at hj
      · split at hj
        · exact (Option.some.inj hj).symm
        · exact absurd hj nofun
      · rename_i apart
        rcases h.stages u (mem_of_getElem? hj) with accepts | done
        · exact absurd (h.lone k j _ u listed hj rfl accepts) apart
        · exact done
    exact .inr
      { state := nofun
        stages := fun u hu => by rw [idle u hu]; rfl
        unmoved := fun _ => h.unmoved
        once := by rw [show _ = [] from h.unmoved]; exact Nat.zero_le 1
        saved := fun name hn => absurd (idle _ hn) nofun
        completed := nofun }
  | refused listed =>
    exact .inl { stopped listed with }
  | began listed | wrote listed | renamed listed | completed listed | saved listed =>
    exact (not_waiting h listed rfl nofun).elim
  | ended disturbs open_ terminal other left stops =>
    rcases stops with rfl | ⟨k, t, listed, rfl⟩
    · exact .inl { h with state := .inr ⟨terminal, other⟩ }
    · exact .inl { stopped listed with state := .inr ⟨terminal, other⟩ }
  | paused state | unpaused state =>
    rcases h.state with offered | ended
    · exact absurd (offered.symm.trans state) nofun
    · exact absurd (congrArg TransferState.isTerminal state ▸ ended.1) nofun
  | purged => exact .inl { h with }

lemma not_running (h : r.core.Running) (listed : r.tasks[k]? = some t)
    (stage : t.accepts) : False := by
  have idle := h.stages t (mem_of_getElem? listed)
  exact absurd (idle.symm.trans stage) Bool.false_ne_true

lemma running_set (h : r.core.Running) (k : ℕ) (stage : t.accepts = false)
    (unsaved : ∀ name, t ≠ .finalized (.ok name)) :
    ({ r.core with tasks := r.tasks.set k t } : Core).Running := by
  refine { h with stages := fun u hu => ?_, saved := fun name hn => ?_ }
  · rcases mem_or_eq_of_mem_set hu with old | rfl
    · exact h.stages u old
    · exact stage
  · rcases mem_or_eq_of_mem_set hn with old | new
    · exact h.saved name old
    · exact absurd new.symm (unsaved name)

lemma running_ends (h : c.Running) {state : TransferState} (terminal : state.isTerminal)
    (other : state ≠ .completed) {part} (left : part = none ∨ part = c.part) :
    ({ c with state, part } : Core).Running where
  state offered := by
    rw [show state = _ from offered] at terminal
    exact absurd terminal Bool.false_ne_true
  stages := h.stages
  unmoved held := by
    rcases left with rfl | rfl
    · exact absurd held nofun
    · exact h.unmoved held
  once := h.once
  saved := h.saved
  completed done := absurd done other

lemma running_step (h : r.core.Running) (change : Change T taken r e c) : c.Running := by
  have stopped (k : ℕ) : ({ r.core with tasks := r.tasks.set k .done } : Core).Running :=
    running_set h k rfl nofun
  cases change with
  | still => exact h
  | asked state => exact absurd state h.state
  | @received n _ _ data state open_ =>
    refine { h with stages := fun u hu => ?_, saved := fun name hn => ?_ }
    · rcases mem_append.mp hu with old | new
      · exact h.stages u old
      · rw [mem_singleton.mp new]
        rfl
    · rcases mem_append.mp hn with old | new
      · exact h.saved name old
      · exact absurd (mem_singleton.mp new) nofun
  | @advanced _ k t t' listed next =>
    refine running_set h k ?_ next.not_saved
    rcases next.accepts_eq with rfl | same
    · rfl
    · exact same.trans (h.stages t (mem_of_getElem? listed))
  | @began k n _ listed state =>
    have running := running_set h (t := .acking) k rfl nofun
    exact { running with state := nofun, completed := nofun }
  | created listed | accepted listed | refused listed => exact (not_running h listed rfl).elim
  | @wrote k n data bytes listed has =>
    have running := running_set h (t := .written n none) k rfl nofun
    have held : r.core.part.isSome := by rw [show r.core.part = _ from has]; rfl
    exact { running with unmoved := fun _ => h.unmoved held }
  | @renamed k disk destination bytes result listed has answer =>
    have held : r.core.part.isSome := by rw [show r.core.part = _ from has]; rfl
    have unmoved : r.moved = [] := h.unmoved held
    have moved : r.moved ++ [(destination, bytes)] = [(destination, bytes)] := by
      rw [unmoved, nil_append]
    have stage (u : Task) (hu : u ∈ r.tasks.set k (.finalized result)) : u.accepts = false := by
      rcases mem_or_eq_of_mem_set hu with old | rfl
      · exact h.stages u old
      · rfl
    refine ⟨h.state, stage, nofun, ?_, ?_, ?_⟩
    · exact (congrArg List.length moved).le
    · intro name hn
      rcases mem_or_eq_of_mem_set hn with old | new
      · obtain ⟨_, before⟩ := h.saved name old
        exact absurd (unmoved.symm.trans before) nofun
      · rcases answer with ⟨-, rfl⟩ | ⟨_, -, error, rfl⟩
        · obtain rfl : name = destination := by injection new with same; injection same
          exact ⟨bytes, moved⟩
        · injection new with same
          injection same
    · intro done
      obtain ⟨_, _, -, before⟩ := h.completed done
      exact absurd (unmoved.symm.trans before) nofun
  | @completed k saved _ listed state =>
    have running := stopped k
    obtain ⟨bytes, moved⟩ := h.saved saved (mem_of_getElem? listed)
    exact { running with
      state := nofun
      completed := fun _ => ⟨saved, bytes, rfl, moved⟩ }
  | @saved k saved _ listed state =>
    have running := stopped k
    obtain ⟨bytes, moved⟩ := h.saved saved (mem_of_getElem? listed)
    exact { running with completed := fun _ => ⟨saved, bytes, rfl, moved⟩ }
  | ended disturbs open_ terminal other left stops =>
    rcases stops with rfl | ⟨k, -, -, rfl⟩
    · exact running_ends h terminal other left
    · exact running_ends (stopped k) terminal other left
  | paused | unpaused =>
    exact { h with state := nofun, completed := nofun }
  | purged => exact { h with }

lemma phased_step (h : r.core.Phased) (apart : r.Apart e) : (r.step T taken e).core.Phased := by
  have change := step_change T taken r e
  rcases h with waiting | running
  · exact waiting_step waiting apart change
  · exact .inr (running_step running change)

end Reception

end Ghostlink.FileTransfer
