import Mathlib.Algebra.Group.Nat.Defs
import Mathlib.Data.List.TakeWhile
import TableBench.Number.Numeral

namespace TableBench.Number

theorem fits_iff {digits : Nat} {n : Int} : fits digits n = true ↔ n.natAbs < 10 ^ digits :=
  decide_eq_true_iff

theorem fits_mono {few digits : Nat} {n : Int} (h : fits few n = true) (hle : few ≤ digits) :
    fits digits n = true := by
  rw [fits_iff] at h ⊢
  exact Nat.lt_of_lt_of_le h (Nat.pow_le_pow_right (by decide) hle)

theorem toNat_sub_le_of_isDigit {c : Char} (h : c.isDigit = true) : c.toNat - 48 ≤ 9 := by
  simp only [Char.isDigit, Bool.and_eq_true, decide_eq_true_eq] at h
  have hle : c.toNat ≤ 57 := h.2
  omega

theorem foldl_digits_lt {cs : List Char} (h : ∀ c ∈ cs, c.isDigit = true) (n : Nat) :
    cs.foldl (fun n c => 10 * n + (c.toNat - 48)) n < (n + 1) * 10 ^ cs.length := by
  induction cs generalizing n with
  | nil =>
    rw [List.foldl_nil, List.length_nil, Nat.pow_zero, Nat.mul_one]
    exact Nat.lt_succ_self n
  | cons c cs ih =>
    obtain ⟨hc, hcs⟩ := List.forall_mem_cons.1 h
    have hstep : 10 * n + (c.toNat - 48) + 1 ≤ (n + 1) * 10 := by
      have hd := toNat_sub_le_of_isDigit hc
      omega
    calc
      _ < (10 * n + (c.toNat - 48) + 1) * 10 ^ cs.length := ih hcs _
      _ ≤ (n + 1) * 10 * 10 ^ cs.length := Nat.mul_le_mul_right _ hstep
      _ = (n + 1) * 10 ^ (c :: cs).length := by
        rw [List.length_cons, Nat.pow_succ, Nat.mul_assoc, Nat.mul_comm 10]

/-- Digits make up a number that has no more of them. -/
theorem digitsValue_lt {cs : List Char} (h : ∀ c ∈ cs, c.isDigit = true) :
    digitsValue cs < 10 ^ cs.length := by
  have hlt := foldl_digits_lt h 0
  rwa [Nat.zero_add, Nat.one_mul] at hlt

theorem isDigit_of_mem_ungroup {afterDigit : Bool} {cs ds : List Char}
    (h : ungroup afterDigit cs = some ds) (hcs : ∀ c ∈ cs, c.isDigit = true ∨ c = '_') :
    ∀ c ∈ ds, c.isDigit = true := by
  induction cs generalizing afterDigit ds with
  | nil =>
    cases h
    exact List.forall_mem_nil _
  | cons c cs ih =>
    obtain ⟨hc, hrest⟩ := List.forall_mem_cons.1 hcs
    by_cases hu : c = '_'
    · subst hu
      rw [ungroup] at h
      split at h
      · exact ih h hrest
      · cases h
    · rw [ungroup] at h
      · obtain ⟨ds', hds, rfl⟩ := Option.map_eq_some_iff.1 h
        exact List.forall_mem_cons.2 ⟨hc.resolve_right hu, ih hds hrest⟩
      · exact hu

/-- An integer that was read has no more digits than it may be written with. -/
theorem fits_of_readDigits {cs : List Char} {n : Int} (h : readDigits cs = .ok n) :
    fits maxDigits n = true := by
  unfold readDigits at h
  dsimp only at h
  split at h
  · cases h
  · next ds hds =>
    split at h
    · cases h
    · next hlength =>
      split at h
      · cases h
      · have hdigits := isDigit_of_mem_ungroup hds fun c hc => by
          simpa using List.mem_takeWhile_imp hc
        have hvalue := Nat.lt_of_lt_of_le (digitsValue_lt hdigits)
          (Nat.pow_le_pow_right (by decide) (Nat.not_lt.1 hlength))
        rw [fits_iff]
        split at h <;> cases h
        · rwa [Int.natAbs_neg, Int.natAbs_natCast]
        · rwa [Int.natAbs_natCast]

theorem fits_of_readInteger {s : String} {n : Int} (h : readInteger s = .ok n) :
    fits maxDigits n = true :=
  fits_of_readDigits h

end TableBench.Number
