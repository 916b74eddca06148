import Mathlib.Data.List.Basic

/-! Runs in which every step is taken in a state that allows it. An invariant that allowed
steps keep holds wherever such a run leads. -/

namespace Runs
open List
variable {σ ι : Type*} {step : σ → ι → σ} {ok : σ → ι → Prop}

def Along (step : σ → ι → σ) (ok : σ → ι → Prop) : σ → List ι → Prop
  | _, [] => True
  | s, i :: is => ok s i ∧ Along step ok (step s i) is

instance decidableAlong [∀ s i, Decidable (ok s i)] :
    ∀ (s : σ) (is : List ι), Decidable (Along step ok s is)
  | _, [] => .isTrue trivial
  | s, i :: is =>
    have := decidableAlong (step s i) is
    inferInstanceAs (Decidable (ok s i ∧ Along step ok (step s i) is))

variable {s : σ}

lemma foldl_keeps {J : σ → Prop} (keep : ∀ s i, J s → J (step s i)) (is : List ι) (start : J s) :
    J (is.foldl step s) := by
  induction is generalizing s with
  | nil => exact start
  | cons i is ih => exact ih (keep s i start)

lemma Along.mono {ok' : σ → ι → Prop} {is : List ι} (h : Along step ok s is)
    (weaker : ∀ s i, ok s i → ok' s i) : Along step ok' s is := by
  induction is generalizing s with
  | nil => trivial
  | cons i is ih => exact ⟨weaker s i h.1, ih h.2⟩

lemma foldl_keeps_with {κ : Type*} {J : σ → Prop} {k : σ → κ} (fits : κ → ι → Prop)
    (keep : ∀ s i, J s → fits (k s) i → J (step s i) ∧ k (step s i) = k s) (is : List ι)
    (start : J s) (all : ∀ i ∈ is, fits (k s) i) :
    J (is.foldl step s) ∧ k (is.foldl step s) = k s := by
  induction is generalizing s with
  | nil => exact ⟨start, rfl⟩
  | cons i is ih =>
    obtain ⟨next, same⟩ := keep s i start (all i mem_cons_self)
    rw [← same]
    apply ih next
    rw [same]
    exact fun j mem => all j (mem_cons_of_mem i mem)

lemma along_append (is js : List ι) :
    Along step ok s (is ++ js) ↔ Along step ok s is ∧ Along step ok (is.foldl step s) js := by
  induction is generalizing s with
  | nil => simp [Along]
  | cons i is ih => simp [Along, ih, and_assoc]

variable {is : List ι} {J : σ → Prop}

lemma Along.invariant (h : Along step ok s is) (start : J s)
    (keep : ∀ s i, J s → ok s i → J (step s i)) : J (is.foldl step s) := by
  induction is generalizing s with
  | nil => exact start
  | cons i is ih => exact ih h.2 (keep s i start h.1)

lemma along_iff_forall_step (is) :
    Along step ok s is ↔ ∀ js i, js ++ [i] <+: is → ok (js.foldl step s) i := by
  induction is generalizing s with
  | nil =>
    refine ⟨fun _ js i before => ?_, fun _ => trivial⟩
    exact absurd (prefix_nil.mp before) (append_ne_nil_of_right_ne_nil js (by simp))
  | cons i is ih =>
    constructor
    · rintro ⟨allowed, later⟩ js j before
      cases js with
      | nil =>
        obtain ⟨rfl, -⟩ := cons_prefix_cons.mp before
        exact allowed
      | cons k js =>
        obtain ⟨rfl, rest⟩ := cons_prefix_cons.mp before
        exact ih.mp later js j rest
    · intro always
      refine ⟨always [] i (cons_prefix_cons.mpr ⟨rfl, nil_prefix⟩), ih.mpr ?_⟩
      intro js j before
      exact always (i :: js) j (cons_prefix_cons.mpr ⟨rfl, before⟩)

lemma along_congr {ok' : σ → ι → Prop} (inv : J s)
    (keep : ∀ s i, J s → ok s i → J (step s i)) (agree : ∀ s i, J s → (ok s i ↔ ok' s i)) :
    Along step ok s is ↔ Along step ok' s is := by
  induction is generalizing s with
  | nil => exact Iff.rfl
  | cons i is ih =>
    constructor
    · rintro ⟨allowed, later⟩
      exact ⟨(agree s i inv).mp allowed, (ih (keep s i inv allowed)).mp later⟩
    · rintro ⟨allowed', later⟩
      have allowed := (agree s i inv).mpr allowed'
      exact ⟨allowed, (ih (keep s i inv allowed)).mpr later⟩

lemma along_iff_forall_moment {P : σ → Prop} (inv : J s) (start : P s)
    (keep : ∀ s, ∀ i ∈ is, J s → P s → P (step s i) → J (step s i))
    (exact_at : ∀ s, ∀ i ∈ is, J s → P s → (P (step s i) ↔ ok s i)) :
    Along step ok s is ↔ ∀ js, js <+: is → P (js.foldl step s) := by
  induction is generalizing s with
  | nil =>
    refine ⟨fun _ js before => ?_, fun _ => trivial⟩
    rwa [prefix_nil.mp before]
  | cons i is ih =>
    have first : i ∈ i :: is := mem_cons_self
    have rest {t : σ} (inv : J t) (start : P t) := ih inv start
      (fun s j mem => keep s j (mem_cons_of_mem i mem))
      (fun s j mem => exact_at s j (mem_cons_of_mem i mem))
    constructor
    · rintro ⟨allowed, later⟩ js before
      have next := (exact_at s i first inv start).mpr allowed
      cases js with
      | nil => exact start
      | cons j js =>
        obtain ⟨rfl, shorter⟩ := cons_prefix_cons.mp before
        exact (rest (keep s j first inv start next) next).mp later js shorter
    · intro always
      have next : P (step s i) := always [i] (cons_prefix_cons.mpr ⟨rfl, nil_prefix⟩)
      refine ⟨(exact_at s i first inv start).mp next,
        (rest (keep s i first inv start next) next).mpr ?_⟩
      intro js before
      exact always (i :: js) (cons_prefix_cons.mpr ⟨rfl, before⟩)

end Runs
