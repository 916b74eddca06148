import Mathlib.Data.List.Range

/-! One-way ratchets. A chain key is advanced position by position, and the key of a
position is derived from the chain key that stands just before it is advanced. -/

namespace Ratchet
variable {κ μ σ : Type*}

def after (advance : ℕ → κ → κ) (root : κ) : ℕ → κ
  | 0 => root
  | n + 1 => advance (n + 1) (after advance root n)

def keyAt (advance : ℕ → κ → κ) (derive : ℕ → κ → μ) (root : κ) (n : ℕ) : μ :=
  derive n (after advance root (n - 1))

/-- Walk a chain key through the positions, showing each one to `visit` before passing it. -/
def walk (advance : ℕ → κ → κ) (visit : ℕ → κ → σ → σ) : List ℕ → κ → σ → κ × σ
  | [], c, s => (c, s)
  | n :: ns, c, s => walk advance visit ns (advance n c) (visit n c s)

lemma walk_range' (advance visit) (root : κ) (Inv : ℕ → σ → Prop)
    (keep : ∀ n s, Inv n s → Inv (n + 1) (visit (n + 1) (after advance root n) s))
    (count m) (s : σ) (start : Inv m s) :
    (walk advance visit (List.range' (m + 1) count) (after advance root m) s).1 =
        after advance root (m + count) ∧
      Inv (m + count)
        (walk advance visit (List.range' (m + 1) count) (after advance root m) s).2 := by
  induction count generalizing m s with
  | zero => exact ⟨rfl, start⟩
  | succ count ih =>
    have next := ih (m + 1) (visit (m + 1) (after advance root m) s) (keep m s start)
    rwa [Nat.add_right_comm m 1 count] at next

lemma foldl_range' (advance) (root : κ) (count) :
    (List.range' 1 count).foldl (fun c n => advance n c) root = after advance root count := by
  induction count with
  | zero => rfl
  | succ count ih =>
    rw [List.range'_1_concat, List.foldl_append, ih, Nat.add_comm 1 count]
    rfl

end Ratchet
