import Mathlib.Algebra.Order.Field.Rat
import Mathlib.Tactic.Linarith
import TableBench.Time

namespace TableBench

/-- Exact points and lengths of time in seconds. -/
instance : TimeScale Rat where
  ofSeconds n := n
  decideLT _ _ := inferInstance
  decideLE _ _ := inferInstance
  text := toString

/-- So many looks and the pauses between them fit into what is left of a wait. -/
def InTime (looks : Nat) (pollInterval left : Rat) : Prop :=
  looks = 0 ∨ ((looks : Rat) - 1) * pollInterval < left

theorem InTime.of_succ {j : Nat} {p r : Rat} (h : InTime (j + 1) p r) : (j : Rat) * p < r := by
  have hj := h.resolve_left (Nat.succ_ne_zero j)
  push_cast at hj
  linarith

theorem InTime.pause {j : Nat} {p r : Rat} (hp : 0 < p) (h : InTime (j + 1) p r) :
    InTime j p (r - if r < p then r else p) := by
  have h := h.of_succ
  cases j with
  | zero => exact .inl rfl
  | succ j =>
    right
    have hj : 0 ≤ (j : Rat) * p := mul_nonneg (Nat.cast_nonneg j) hp.le
    have hle : ¬ r < p := by
      rw [not_lt]
      push_cast at h
      linarith
    rw [if_neg hle]
    push_cast at h ⊢
    linarith

theorem InTime.succ_iff {j : Nat} {p r : Rat} (hp : 0 < p) (hr : 0 < r) :
    InTime (j + 1) p r ↔ InTime j p (r - min r p) := by
  constructor
  · intro h
    rw [min_def_lt]
    exact h.pause hp
  · intro h
    right
    push_cast
    cases j with
    | zero => simpa using hr
    | succ j =>
      have h := h.of_succ
      have hj : 0 ≤ (j : Rat) * p := mul_nonneg (Nat.cast_nonneg j) hp.le
      push_cast
      rcases le_total r p with hle | hle
      · rw [min_eq_left hle] at h
        linarith
      · rw [min_eq_right hle] at h
        linarith

end TableBench
