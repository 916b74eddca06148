import Ghostlink.Base.Dict
import Ghostlink.Transfer.Publication

/-! All incoming transfers and the directory they are saved to. A destination is chosen by looking
for a free name when the transfer is accepted, and used by an unconditional rename much later;
nothing reserves the name in between. -/

namespace Ghostlink.FileTransfer
open Messaging Collections List Reception

def Task.destination? : Task → Option String
  | .placed (.ok destination) | .opening destination | .opened destination none
  | .chosen (.ok destination) | .finalizing destination => some destination
  | _ => none

def Task.handles : Task → Bool
  | .accepting | .placed _ | .opening _ | .opened _ _ | .done => false
  | _ => true

variable {choice : Except TransferError String}

lemma Task.destination_placed : (Task.placed choice).destination? = choice.toOption := by
  cases choice <;> rfl

lemma Task.destination_chosen : (Task.chosen choice).destination? = choice.toOption := by
  cases choice <;> rfl

namespace Core

/-- The file may still be renamed: the transfer is open, or it has ended, the file could not be
deleted and a chunk's handler goes on. -/
def holding (c : Core) : Bool :=
  (!c.state.isTerminal || c.part.isSome && c.tasks.any Task.handles) && c.moved.isEmpty

def reserved (c : Core) : List String :=
  if c.holding then c.destination.toList ++ c.tasks.filterMap Task.destination? else []

def Knows (c : Core) (name : String) : Prop :=
  c.destination = some name ∨ ∃ t ∈ c.tasks, t.destination? = some name

variable {c : Core}

lemma holding_iff : c.holding ↔ (c.state.isTerminal = false ∨
      c.part.isSome ∧ ∃ t ∈ c.tasks, t.handles) ∧ c.moved = [] := by
  rw [holding, Bool.and_eq_true, Bool.or_eq_true, Bool.not_eq_true', Bool.and_eq_true,
    any_eq_true, List.isEmpty_iff]

lemma mem_reserved {name} : name ∈ c.reserved ↔ c.holding ∧ c.Knows name := by
  unfold reserved
  split
  · rename_i holding
    rw [mem_append, Option.mem_toList, mem_filterMap]
    exact (and_iff_right holding).symm
  · rename_i spent
    exact ⟨fun h => absurd h not_mem_nil, fun h => absurd h.1 spent⟩

lemma reserved_of_moved (moved : c.moved ≠ []) : c.reserved = [] := by
  have spent : ¬ c.holding := fun holding => moved (holding_iff.mp holding).2
  rw [reserved, if_neg spent]

end Core

namespace Reception
variable {T : TransferPrimitives} {taken : String → Bool} {r : Reception} {e : ReceptionEvent}
  {c : Core}

variable {name : String}

lemma chooseDestination_free {disk}
    (h : (r.chooseDestination T taken disk).toOption = some name) : taken name = false := by
  cases disk with
  | fine =>
    rw [chooseDestination] at h
    cases found : destinationFor T taken r.manifest.filename with
    | error => cases found ▸ h
    | ok =>
      cases found ▸ h
      exact destinationFor_free found
  | refuses | refusesChmod => cases h

/-- The name that the work done at `e` chooses. -/
def chosen (T : TransferPrimitives) (taken : String → Bool) (r : Reception) :
    ReceptionEvent → Option String
  | .work k disk =>
    match r.tasks[k]? with
    | some .accepting | some .choosing => (r.chooseDestination T taken disk).toOption
    | _ => none
  | _ => none

lemma chosen_free (h : r.chosen T taken e = some name) : taken name = false := by
  unfold chosen at h
  split at h
  · split at h
    · exact chooseDestination_free h
    · exact chooseDestination_free h
    · cases h
  · cases h

variable {t : Task}

lemma Next.destination {k : ℕ} {t' : Task} (listed : r.tasks[k]? = some t)
    (h : Next T taken r e k t t') (named : t'.destination? = some name) :
    (t.destination? = some name ∨ r.destination = some name) ∨ r.chosen T taken e = some name := by
  cases h with
  | place disk works =>
    rw [works, chosen, listed]
    exact .inr (Task.destination_placed.symm.trans named)
  | chooses disk works =>
    rw [works, chosen, listed]
    exact .inr (Task.destination_chosen.symm.trans named)
  | create | finalizeChosen => exact .inl (.inl named)
  | finalize destination kept => exact .inl (.inr (kept.trans named))
  | _ => exact absurd named nofun

lemma knows_of_listed {k : ℕ} (listed : r.tasks[k]? = some t)
    (named : t.destination? = some name) : r.core.Knows name :=
  .inr ⟨t, mem_of_getElem? listed, named⟩

lemma knows_set {k} (t : Task)
    (own : t.destination? = some name → r.core.Knows name ∨ r.chosen T taken e = some name)
    (h : ({ r.core with tasks := r.tasks.set k t } : Core).Knows name) :
    r.core.Knows name ∨ r.chosen T taken e = some name := by
  rcases h with kept | ⟨u, hu, named⟩
  · exact .inl (.inl kept)
  · rcases mem_or_eq_of_mem_set hu with old | rfl
    · exact .inl (.inr ⟨u, old, named⟩)
    · exact own named

lemma knows_append (unnamed : t.destination? = none)
    (h : ({ r.core with tasks := r.tasks ++ [t] } : Core).Knows name) : r.core.Knows name := by
  rcases h with kept | ⟨u, hu, named⟩
  · exact .inl kept
  · rcases mem_append.mp hu with old | new
    · exact .inr ⟨u, old, named⟩
    · rw [mem_singleton.mp new, unnamed] at named
      exact absurd named nofun

lemma Next.handles {k : ℕ} {t' : Task} (h : Next T taken r e k t t') :
    t'.handles = false ∨ t.handles := by
  cases h <;> first | exact .inl rfl | exact .inr rfl

lemma handles_set {k : ℕ} (listed : r.tasks[k]? = some t) {t' : Task}
    (own : t'.handles = false ∨ t.handles) (h : ∃ u ∈ r.tasks.set k t', u.handles) :
    ∃ u ∈ r.tasks, u.handles := by
  obtain ⟨u, hu, on⟩ := h
  rcases mem_or_eq_of_mem_set hu with old | rfl
  · exact ⟨u, old, on⟩
  · refine ⟨t, mem_of_getElem? listed, own.resolve_left fun off => ?_⟩
    exact absurd (off.symm.trans on) Bool.false_ne_true

lemma not_handles_waiting (h : r.core.Waiting) (ht : t ∈ r.tasks) (on : t.handles) : False := by
  rcases h.stages t ht with accepts | rfl
  · cases t <;> first | exact absurd accepts Bool.false_ne_true | exact absurd on Bool.false_ne_true
  · exact absurd on Bool.false_ne_true

lemma reserved_step (phased : r.core.Phased) (change : Change T taken r e c)
    (h : name ∈ c.reserved) :
    name ∈ r.core.reserved ∨ r.core.holding ∧ r.chosen T taken e = some name := by
  rw [Core.mem_reserved, Core.holding_iff] at h
  obtain ⟨⟨live, unmoved⟩, knows⟩ := h
  have holds (before : r.transfer.state.isTerminal = false ∨
        r.part.isSome ∧ ∃ t ∈ r.tasks, t.handles) (same : r.moved = [])
      (known : r.core.Knows name ∨ r.chosen T taken e = some name) :
      name ∈ r.core.reserved ∨ r.core.holding ∧ r.chosen T taken e = some name :=
    have holding : r.core.holding := Core.holding_iff.mpr ⟨before, same⟩
    known.imp (fun known => Core.mem_reserved.mpr ⟨holding, known⟩) fun chosen => ⟨holding, chosen⟩
  have stopped (k : ℕ) (h : ({ r.core with tasks := r.tasks.set k .done } : Core).Knows name) :
      r.core.Knows name ∨ r.chosen T taken e = some name := knows_set .done nofun h
  cases change with
  | still => exact holds live unmoved (.inl knows)
  | purged => exact holds live unmoved (.inl (.inr (knows.resolve_left nofun)))
  | asked state => exact holds (.inl (by rw [state]; rfl)) unmoved (.inl (knows_append rfl knows))
  | received _ open_ => exact holds (.inl open_) unmoved (.inl (knows_append rfl knows))
  | advanced listed next =>
    refine holds (live.imp_right (And.imp_right (handles_set listed next.handles))) unmoved
      (knows_set _ (fun named => ?_) knows)
    rcases next.destination listed named with (own | kept) | chosen
    · exact .inl (knows_of_listed listed own)
    · exact .inl (.inl kept)
    · exact .inr chosen
  | began listed state =>
    exact holds (.inl (by rw [state]; rfl)) unmoved (knows_set .acking nofun knows)
  | @created k destination listed =>
    -- no chunk is handled while a call of `accept` is under way
    refine holds (live.imp_right fun going => ?_) unmoved (knows_set (.opened destination none)
      (fun named => .inl (knows_of_listed listed named)) knows)
    obtain ⟨u, hu, on⟩ := handles_set listed (.inl rfl) going.2
    rcases phased with waiting | running
    · exact (not_handles_waiting waiting hu on).elim
    · exact (not_running running listed rfl).elim
  | @accepted k destination _ listed state =>
    refine holds (.inl (by rw [state]; rfl)) unmoved ?_
    rcases knows with kept | others
    · exact .inl (knows_of_listed listed kept)
    · exact stopped k (.inr others)
  | @refused k destination _ listed state =>
    refine holds (live.imp_right (And.imp_right (handles_set listed (.inl rfl)))) unmoved ?_
    rcases knows with kept | others
    · exact .inl (knows_of_listed listed kept)
    · exact stopped k (.inr others)
  | @wrote k n data bytes listed has =>
    refine holds (live.imp_right fun _ => ⟨?_, _, mem_of_getElem? listed, rfl⟩) unmoved
      (knows_set (.written n none) nofun knows)
    rw [has]
    rfl
  | renamed =>
    exact absurd unmoved (append_ne_nil_of_right_ne_nil _ (cons_ne_nil _ _))
  | @completed k saved _ listed state =>
    exact holds (.inl (by rw [state]; rfl)) unmoved (stopped k knows)
  | @saved k saved _ listed state =>
    exact holds (live.imp_right (And.imp_right (handles_set listed (.inl rfl)))) unmoved
      (stopped k knows)
  | ended disturbs open_ terminal other left stops =>
    refine holds (.inl open_) unmoved ?_
    rcases stops with rfl | ⟨k, -, -, rfl⟩
    · exact .inl knows
    · exact stopped k knows
  | paused state | unpaused state =>
    exact holds (.inl (by rw [state]; rfl)) unmoved (.inl knows)

lemma moved_step (phased : r.core.Phased) (change : Change T taken r e c) :
    c.moved = r.moved ∨ ∃ name bytes, c.moved = r.moved ++ [(name, bytes)] ∧
      name ∈ r.core.reserved := by
  cases change with
  | @renamed k disk destination bytes result listed has answer =>
    refine .inr ⟨destination, bytes, rfl, Core.mem_reserved.mpr ⟨?_, knows_of_listed listed rfl⟩⟩
    have held : r.core.part.isSome := by rw [show r.core.part = _ from has]; rfl
    rcases phased with waiting | running
    · exact (not_waiting waiting listed rfl nofun).elim
    · exact Core.holding_iff.mpr
        ⟨.inr ⟨held, _, mem_of_getElem? listed, rfl⟩, running.unmoved held⟩
  | _ => exact .inl rfl

end Reception

structure Downloads where
  files : Dict String Bytes
  receptions : List Reception

inductive DownloadEvent
  | offer (transferId : String) (m : FileManifest)
  | event (i : ℕ) (e : ReceptionEvent)

namespace Downloads

def taken (d : Downloads) (name : String) : Bool := d.files.contains name

def renames (T : TransferPrimitives) (d : Downloads) (i : ℕ) (e : ReceptionEvent) :
    List (String × Bytes) :=
  match d.receptions[i]? with
  | none => []
  | some r => (r.step T d.taken e).moved.drop r.moved.length

def offer (d : Downloads) (transferId : String) (m : FileManifest) : Downloads :=
  if d.receptions.any fun r => r.transfer.transferId == transferId then d
  else
    match offered transferId m with
    | .error _ => d
    | .ok r => { d with receptions := d.receptions ++ [r] }

def event (T : TransferPrimitives) (d : Downloads) (i : ℕ) (e : ReceptionEvent) : Downloads :=
  match d.receptions[i]? with
  | none => d
  | some r =>
    { files := (d.renames T i e).foldl (fun files file => files.set file.1 file.2) d.files
      receptions := d.receptions.set i (r.step T d.taken e) }

def step (T : TransferPrimitives) (d : Downloads) : DownloadEvent → Downloads
  | .offer transferId m => d.offer transferId m
  | .event i e => d.event T i e

def fresh (files : Dict String Bytes) : Downloads := { files, receptions := [] }

def run (T : TransferPrimitives) (d : Downloads) (events : List DownloadEvent) : Downloads :=
  events.foldl (step T) d

def ReservedElsewhere (d : Downloads) (i : ℕ) (name : String) : Prop :=
  ∃ j < d.receptions.length, j ≠ i ∧ ∃ r ∈ d.receptions[j]?, name ∈ r.core.reserved

instance (d : Downloads) (i : ℕ) (name : String) : Decidable (d.ReservedElsewhere i name) :=
  inferInstanceAs (Decidable (∃ j < _, j ≠ i ∧ ∃ r ∈ d.receptions[j]?, name ∈ r.core.reserved))

/-- Calls of `accept` for one transfer do not overlap, and no name is chosen that another open
transfer may still use. -/
def Reserves (T : TransferPrimitives) (d : Downloads) : DownloadEvent → Prop
  | .offer _ _ => True
  | .event i e => ∀ r ∈ d.receptions[i]?, r.Apart e ∧
      (r.core.holding → ∀ name ∈ r.chosen T d.taken e, ¬ d.ReservedElsewhere i name)

instance (T : TransferPrimitives) (d : Downloads) : ∀ e, Decidable (d.Reserves T e)
  | .offer _ _ => .isTrue trivial
  | .event i e => inferInstanceAs (Decidable (∀ r ∈ d.receptions[i]?, r.Apart e ∧
      (r.core.holding → ∀ name ∈ r.chosen T d.taken e, ¬ d.ReservedElsewhere i name)))

/-- Names that open transfers may still use are free and belong to one transfer each; what was
moved in is still there, under different names, and so is every file of `old`. -/
structure Sound (old : Dict String Bytes) (d : Downloads) : Prop where
  phased : ∀ (i : ℕ) (r : Reception), d.receptions[i]? = some r → r.core.Phased
  free : ∀ (i : ℕ) (r : Reception), d.receptions[i]? = some r → ∀ name ∈ r.core.reserved,
    d.files.get? name = none
  apart : ∀ (i j : ℕ) (r s : Reception), d.receptions[i]? = some r → d.receptions[j]? = some s →
    i ≠ j → ∀ name ∈ r.core.reserved, name ∉ s.core.reserved
  kept : ∀ (i : ℕ) (r : Reception), d.receptions[i]? = some r → ∀ file ∈ r.moved,
    d.files.get? file.1 = some file.2
  distinct : ∀ (i j : ℕ) (r s : Reception), d.receptions[i]? = some r →
    d.receptions[j]? = some s → i ≠ j → ∀ f ∈ r.moved, ∀ g ∈ s.moved, f.1 ≠ g.1
  old : ∀ name bytes, old.get? name = some bytes → d.files.get? name = some bytes

variable {T : TransferPrimitives} {d : Downloads} {old : Dict String Bytes}

variable {name : String} {r s : Reception} {e : ReceptionEvent}

lemma taken_eq_false : d.taken name = false ↔ d.files.get? name = none := by
  rw [taken, Dict.contains, Option.isSome_eq_false_iff, Option.isNone_iff_eq_none]

variable {i : ℕ}

lemma Sound.renames (h : d.Sound old) (listed : d.receptions[i]? = some r) (e) :
    (d.renames T i e = [] ∧ (r.step T d.taken e).moved = r.moved) ∨
      ∃ name bytes, d.renames T i e = [(name, bytes)] ∧ name ∈ r.core.reserved ∧
        (r.step T d.taken e).moved = r.moved ++ [(name, bytes)] := by
  have moves : d.renames T i e = (r.step T d.taken e).moved.drop r.moved.length := by
    simp [Downloads.renames, listed]
  rw [moves]
  rcases moved_step (h.phased i r listed) (step_change T d.taken r e) with
    same | ⟨name, bytes, moved, reserved⟩
  · have same : (r.step T d.taken e).moved = r.moved := same
    exact .inl ⟨by rw [same, drop_length], same⟩
  · have moved : (r.step T d.taken e).moved = r.moved ++ [(name, bytes)] := moved
    exact .inr ⟨name, bytes, by rw [moved, drop_left], reserved, moved⟩

/-- Each entry of `rs'` is `r` at `i`, or an entry of `rs` elsewhere. -/
def Enters (i : ℕ) (r : Reception) (rs rs' : List Reception) : Prop :=
  ∀ j s, rs'[j]? = some s → j = i ∧ s = r ∨ j ≠ i ∧ rs[j]? = some s

lemma enters_set (rs) : Enters i r rs (rs.set i r) := by
  intro j s hs
  rw [getElem?_set] at hs
  split_ifs at hs with here
  · exact .inl ⟨here.symm, (Option.some.inj hs).symm⟩
  · exact .inr ⟨Ne.symm here, hs⟩

lemma enters_append (rs) : Enters rs.length r rs (rs ++ [r]) := by
  intro j s hs
  rw [getElem?_append] at hs
  split_ifs at hs with inside
  · exact .inr ⟨inside.ne, hs⟩
  · rw [getElem?_singleton] at hs
    split_ifs at hs
    exact .inl ⟨by omega, (Option.some.inj hs).symm⟩

variable {rs rs' : List Reception}

lemma Enters.each {P : Reception → Prop} (enters : Enters i r rs rs') (new : P r)
    (others : ∀ j s, j ≠ i → rs[j]? = some s → P s) : ∀ (j : ℕ) s, rs'[j]? = some s → P s := by
  intro j s hs
  rcases enters j s hs with ⟨-, rfl⟩ | ⟨other, before⟩
  · exact new
  · exact others j s other before

lemma Enters.pairs {P : Reception → Reception → Prop} (enters : Enters i r rs rs')
    (symm : ∀ s u, P s u → P u s) (new : ∀ k u, k ≠ i → rs[k]? = some u → P r u)
    (others : ∀ (j k : ℕ) s u, rs[j]? = some s → rs[k]? = some u → j ≠ k → P s u) :
    ∀ (j k : ℕ) s u, rs'[j]? = some s → rs'[k]? = some u → j ≠ k → P s u := by
  intro j k s u hs hu apart
  rcases enters j s hs with ⟨rfl, rfl⟩ | ⟨-, before⟩
  · rcases enters k u hu with ⟨rfl, -⟩ | ⟨other, before'⟩
    · exact absurd rfl apart
    · exact new k u other before'
  · rcases enters k u hu with ⟨rfl, rfl⟩ | ⟨-, before'⟩
    · exact symm u s (new j s apart before)
    · exact others j k s u before before' apart

lemma reserved_symm (s u : Reception) (apart : ∀ name ∈ s.core.reserved, name ∉ u.core.reserved) :
    ∀ name ∈ u.core.reserved, name ∉ s.core.reserved :=
  fun name mine theirs => apart name theirs mine

lemma moved_symm (s u : Reception) (apart : ∀ f ∈ s.moved, ∀ g ∈ u.moved, f.1 ≠ g.1) :
    ∀ f ∈ u.moved, ∀ g ∈ s.moved, f.1 ≠ g.1 :=
  fun f hf g hg => (apart g hg f hf).symm

section
variable (h : d.Sound old)
include h

section
variable (listed : d.receptions[i]? = some r)
include listed

lemma Sound.reserved_next (calm : d.Reserves T (.event i e))
    (reserved : name ∈ (r.step T d.taken e).core.reserved) : d.files.get? name = none ∧
      ∀ j s, j ≠ i → d.receptions[j]? = some s → name ∉ s.core.reserved := by
  rcases reserved_step (h.phased i r listed) (step_change T d.taken r e) reserved with own | ⟨holding, chosen⟩
  · exact ⟨h.free i r listed name own, fun j s other at_j =>
      h.apart i j r s listed at_j other.symm name own⟩
  · refine ⟨taken_eq_false.mp (chosen_free chosen), fun j s other at_j shared => ?_⟩
    have inside : j < d.receptions.length := (List.getElem?_eq_some_iff.mp at_j).1
    exact (calm r listed).2 holding name chosen ⟨j, inside, other, s, at_j, shared⟩

lemma Sound.quiet (calm : d.Reserves T (.event i e))
    (moved : (r.step T d.taken e).moved = r.moved) :
    ({ d with receptions := d.receptions.set i (r.step T d.taken e) } : Downloads).Sound old where
  phased := (enters_set _).each (phased_step (h.phased i r listed) (calm r listed).1)
    fun j s _ => h.phased j s
  free := (enters_set _).each (fun _ reserved => (h.reserved_next listed calm reserved).1)
    fun j s _ => h.free j s
  apart := by
    refine (enters_set _).pairs reserved_symm (fun k u other at_k name reserved => ?_) h.apart
    exact (h.reserved_next listed calm reserved).2 k u other at_k
  kept := by
    refine (enters_set _).each ?_ fun j s _ => h.kept j s
    rw [moved]
    exact h.kept i r listed
  distinct := by
    refine (enters_set _).pairs moved_symm (fun k u other at_k => ?_) h.distinct
    rw [moved]
    exact h.distinct i k r u listed at_k other.symm
  old := h.old

lemma Sound.rename (apart : r.Apart e) {bytes} (reserved : name ∈ r.core.reserved)
    (moved : (r.step T d.taken e).moved = r.moved ++ [(name, bytes)]) :
    ({ files := d.files.set name bytes
       receptions := d.receptions.set i (r.step T d.taken e) } : Downloads).Sound old := by
  have new : d.files.get? name = none := h.free i r listed name reserved
  have spent : (r.step T d.taken e).core.reserved = [] := by
    apply Core.reserved_of_moved
    rw [show (r.step T d.taken e).core.moved = _ from moved]
    exact append_ne_nil_of_right_ne_nil _ (cons_ne_nil _ _)
  -- files that were there have another name
  have stays {file : String} {content : Bytes} (there : d.files.get? file = some content) :
      file ≠ name ∧ (d.files.set name bytes).get? file = some content := by
    have other : file ≠ name := by
      rintro rfl
      exact absurd (new.symm.trans there) nofun
    exact ⟨other, (Dict.get?_set_ne d.files bytes other).trans there⟩
  have mine {file : String × Bytes} (hf : file ∈ (r.step T d.taken e).moved) :
      file ∈ r.moved ∨ file = (name, bytes) := by
    rw [moved] at hf
    exact (mem_append.mp hf).imp_right mem_singleton.mp
  have enters := enters_set (i := i) (r := r.step T d.taken e) d.receptions
  constructor
  · exact enters.each (phased_step (h.phased i r listed) apart) fun j s _ => h.phased j s
  · refine enters.each (by simp [spent]) fun j s other at_j wanted held => ?_
    have different : wanted ≠ name := by
      rintro rfl
      exact h.apart j i s r at_j listed other wanted held reserved
    exact (Dict.get?_set_ne d.files bytes different).trans (h.free j s at_j wanted held)
  · exact enters.pairs reserved_symm (by simp [spent]) h.apart
  · refine enters.each (fun file hf => ?_) fun j s _ at_j file hf =>
      (stays (h.kept j s at_j file hf)).2
    rcases mine hf with earlier | rfl
    · exact (stays (h.kept i r listed file earlier)).2
    · exact Dict.get?_set_self d.files name bytes
  · refine enters.pairs moved_symm (fun k u other at_k f hf g hg => ?_) h.distinct
    rcases mine hf with earlier | rfl
    · exact h.distinct i k r u listed at_k other.symm f earlier g hg
    · exact (stays (h.kept k u at_k g hg)).1.symm
  · intro file content there
    exact (stays (h.old file content there)).2

end

lemma Sound.offer {transferId m} (offer : offered transferId m = .ok r) :
    ({ d with receptions := d.receptions ++ [r] } : Downloads).Sound old := by
  have core := offered_core offer
  have unreserved name : name ∉ r.core.reserved := by
    rw [core]
    exact not_mem_nil
  have unmoved file : file ∉ r.moved := by
    rw [show r.moved = [] from congrArg Core.moved core]
    exact not_mem_nil
  have enters := enters_append (r := r) d.receptions
  exact
    { phased := enters.each (.inl (offered_waiting offer)) fun j s _ => h.phased j s
      free := enters.each (fun name held => absurd held (unreserved name)) fun j s _ => h.free j s
      apart := enters.pairs reserved_symm (fun _ _ _ _ name held => absurd held (unreserved name))
        h.apart
      kept := enters.each (fun file hf => absurd hf (unmoved file)) fun j s _ => h.kept j s
      distinct := enters.pairs moved_symm (fun _ _ _ _ f hf => absurd hf (unmoved f)) h.distinct
      old := h.old }

lemma Sound.event (calm : d.Reserves T (.event i e)) : (d.event T i e).Sound old := by
  unfold Downloads.event
  rcases listed : d.receptions[i]? with _ | r
  · exact h
  · dsimp only
    rcases h.renames listed e with ⟨none, moved⟩ | ⟨name, bytes, renames, reserved, moved⟩
    · rw [none]
      exact h.quiet listed calm moved
    · rw [renames]
      exact h.rename listed (calm r listed).1 reserved moved

lemma Sound.step {e} (calm : d.Reserves T e) : (d.step T e).Sound old := by
  rcases e with ⟨transferId, m⟩ | ⟨i, e⟩
  · show (d.offer transferId m).Sound old
    unfold Downloads.offer
    split
    · exact h
    · split
      · exact h
      · rename_i r offer
        exact h.offer offer
  · exact h.event calm

end

lemma fresh_sound (files) : (fresh files).Sound files := by
  have none {i : ℕ} {r : Reception} (h : (fresh files).receptions[i]? = some r) : False := by
    have empty : (fresh files).receptions[i]? = none := getElem?_nil
    exact absurd (empty.symm.trans h) nofun
  exact ⟨fun _ _ h => (none h).elim, fun _ _ h => (none h).elim, fun _ _ _ _ h => (none h).elim,
    fun _ _ h => (none h).elim, fun _ _ _ _ h => (none h).elim, fun _ _ there => there⟩

lemma Sound.savedPath_ne (h : d.Sound old) {j}
    (hr : d.receptions[i]? = some r) (hs : d.receptions[j]? = some s) (other : i ≠ j)
    (doneR : r.transfer.state = .completed) (doneS : s.transfer.state = .completed) :
    r.transfer.savedPath ≠ s.transfer.savedPath := by
  obtain ⟨nameR, bytesR, pathR, movedR⟩ := (h.phased i r hr).completed doneR
  obtain ⟨nameS, bytesS, pathS, movedS⟩ := (h.phased j s hs).completed doneS
  have mine : (nameR, bytesR) ∈ r.moved := by
    rw [show r.moved = _ from movedR]
    exact .head _
  have yours : (nameS, bytesS) ∈ s.moved := by
    rw [show s.moved = _ from movedS]
    exact .head _
  intro same
  exact h.distinct i j r s hr hs other _ mine _ yours
    (Option.some.inj (pathR.symm.trans (same.trans pathS)))

lemma Sound.saved (h : d.Sound old) {r : Reception} (hr : d.receptions[i]? = some r)
    (done : r.transfer.state = .completed) :
    ∃ name bytes, r.transfer.savedPath = some name ∧ r.moved = [(name, bytes)] ∧
      d.files.get? name = some bytes := by
  obtain ⟨name, bytes, path, moved⟩ := (h.phased i r hr).completed done
  have listed : (name, bytes) ∈ r.moved := by
    rw [show r.moved = _ from moved]
    exact .head _
  exact ⟨name, bytes, path, moved, h.kept i r hr _ listed⟩

/-- In a run in which no name is chosen that another open transfer may still use, every file is
moved to a name that nothing has, completed transfers are saved under different names and are
still there, and no file that was in the directory is replaced. -/
theorem downloads_never_overwritten (T : TransferPrimitives) (files : Dict String Bytes)
    (events : List DownloadEvent)
    (calm : Runs.Along (step T) (Reserves T) (fresh files) events) :
    let d := (fresh files).run T events
    (∀ i e, ∀ file ∈ d.renames T i e, d.files.get? file.1 = none) ∧
      (∀ (i j : ℕ) (r s : Reception), d.receptions[i]? = some r → d.receptions[j]? = some s →
        i ≠ j → r.transfer.state = .completed → s.transfer.state = .completed →
          r.transfer.savedPath ≠ s.transfer.savedPath) ∧
      (∀ (i : ℕ) (r : Reception), d.receptions[i]? = some r → r.transfer.state = .completed →
        ∃ name bytes, r.transfer.savedPath = some name ∧ r.moved = [(name, bytes)] ∧
          d.files.get? name = some bytes) ∧
      ∀ name bytes, files.get? name = some bytes → d.files.get? name = some bytes := by
  have sound : ((fresh files).run T events).Sound files :=
    calm.invariant (fresh_sound files) fun d e h quiet => h.step quiet
  refine ⟨fun i e file hf => ?_, fun i j r s hr hs => sound.savedPath_ne hr hs,
    fun i r hr => sound.saved hr, sound.old⟩
  rcases listed : ((fresh files).run T events).receptions[i]? with _ | r
  · simp only [Downloads.renames, listed] at hf
    simp at hf
  · rcases sound.renames listed e with ⟨none, -⟩ | ⟨name, bytes, renames, reserved, -⟩
    · rw [none] at hf
      simp at hf
    · rw [renames] at hf
      rw [mem_singleton.mp hf]
      exact sound.free i r listed name reserved

/-- A call of `accept` from its start to its end, and the one chunk up to the completion. -/
def acceptance (i : ℕ) : List DownloadEvent := accepted.map (.event i)

def reception (i : ℕ) (data : Bytes) : List DownloadEvent :=
  (frame 1 data :: throughRename 1 ++ [ReceptionEvent.resume 1]).map (.event i)

def offers : List DownloadEvent :=
  [.offer "tf_0000000a" (sampleManifest "a.bin" [7]),
    .offer "tf_0000000b" (sampleManifest "a.bin" [8])]

def overlapping : Downloads :=
  (fresh .empty).run plainTransfer
    (offers ++ acceptance 0 ++ acceptance 1 ++ reception 0 [7] ++ reception 1 [8])

/-- The second file replaces the first one, and both transfers say they were saved there. -/
theorem download_replaced :
    overlapping.receptions.map (fun r => (r.transfer.state, r.transfer.savedPath, r.moved)) =
        [(.completed, some "a.bin", [("a.bin", [7])]), (.completed, some "a.bin", [("a.bin", [8])])] ∧
      overlapping.files.entries = [("a.bin", [8])] := by
  decide +kernel

def oneByOne : List DownloadEvent :=
  offers ++ acceptance 0 ++ reception 0 [7] ++ acceptance 1 ++ reception 1 [8]

theorem one_by_one_kept :
    let files : Dict String Bytes := Dict.empty.set "a.bin" [5]
    let d := (fresh files).run plainTransfer oneByOne
    d.files.entries = [("a.bin", [5]), ("a (2).bin", [7]), ("a (3).bin", [8])] ∧
      d.files.get? "a.bin" = some [5] := by
  have kept := downloads_never_overwritten plainTransfer (Dict.empty.set "a.bin" [5]) oneByOne
    (by decide +kernel)
  exact ⟨by decide +kernel, kept.2.2.2 "a.bin" [5] (by decide +kernel)⟩

end Downloads

end Ghostlink.FileTransfer
