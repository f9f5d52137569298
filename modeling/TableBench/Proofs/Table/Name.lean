import TableBench.Table.Name

namespace TableBench

namespace Text

theorem toNat_lt_of_isAlphanum {c : Char} (h : c.isAlphanum = true) : c.toNat < 128 := by
  change ((decide (65 ≤ c.val ∧ c.val ≤ 90) || decide (97 ≤ c.val) && decide (c.val ≤ 122)) ||
    decide (48 ≤ c.val) && decide (c.val ≤ 57)) = true at h
  simp only [Bool.or_eq_true, Bool.and_eq_true, decide_eq_true_eq, UInt32.le_iff_toNat_le] at h
  change ((65 ≤ c.toNat ∧ c.toNat ≤ 90) ∨ 97 ≤ c.toNat ∧ c.toNat ≤ 122) ∨
    48 ≤ c.toNat ∧ c.toNat ≤ 57 at h
  omega

theorem isAlphanumeric_of_ascii {c : Char} (h : c.toNat < 128) :
    isAlphanumeric c = c.isAlphanum := by
  have hfirst : ∀ n < 128, Ranges.has (alphanumericRanges.take 3) (Char.ofNat n) =
      (Char.ofNat n).isAlphanum := by
    decide +kernel
  have hc := hfirst c.toNat h
  rw [Char.ofNat_toNat] at hc
  -- all but the first three ranges lie beyond ASCII
  have hrest : ∀ r ∈ alphanumericRanges.drop 3, 128 ≤ r.1 := by decide +kernel
  have hnone : Ranges.has (alphanumericRanges.drop 3) c = false := by
    rw [Bool.eq_false_iff]
    intro hhas
    obtain ⟨r, hr, hle, -⟩ := Ranges.has_eq_true_iff.1 hhas
    have hbeyond := hrest r hr
    omega
  have hsplit : isAlphanumeric c = (Ranges.has (alphanumericRanges.take 3) c ||
      Ranges.has (alphanumericRanges.drop 3) c) := by
    rw [isAlphanumeric, Ranges.has, Ranges.has, Ranges.has, ← List.any_append,
      List.take_append_drop]
  rw [hsplit, hc, hnone, Bool.or_false]

theorem isAlphanum_iff (c : Char) :
    c.isAlphanum = true ↔ isAlphanumeric c = true ∧ c.toNat < 128 := by
  constructor
  · intro h
    have hlt := toNat_lt_of_isAlphanum h
    exact ⟨(isAlphanumeric_of_ascii hlt).trans h, hlt⟩
  · rintro ⟨h, hlt⟩
    exact (isAlphanumeric_of_ascii hlt).symm.trans h

end Text

namespace Table

/-- A text of 3 to 255 characters, each of them a letter, as that is understood, or a hyphen, an
underscore or a period. -/
structure NameOver (letter : Char → Bool) (s : String) : Prop where
  least : 3 ≤ s.length
  most : s.length ≤ 255
  characters : ∀ c ∈ s.toList, letter c = true ∨ c = '-' ∨ c = '_' ∨ c = '.'

/-- The names that the service takes for tables: its letters are the letters and digits of ASCII. -/
def IsName : String → Prop := NameOver Char.isAlphanum

theorem isNameCharacter_iff (c : Char) :
    isNameCharacter c = true ↔ Text.isAlphanumeric c = true ∨ c = '-' ∨ c = '_' ∨ c = '.' := by
  simp only [isNameCharacter, Bool.or_eq_true, decide_eq_true_eq, or_assoc]

theorem nameProblem?_eq_none_iff (s : String) :
    nameProblem? s = none ↔ NameOver Text.isAlphanumeric s := by
  constructor
  · intro h
    rw [nameProblem?] at h
    split at h
    · cases h
    split at h
    · cases h
    next hlength =>
      split at h
      · next hall =>
        simp only [Bool.or_eq_true, decide_eq_true_eq, not_or, Nat.not_lt] at hlength
        rw [List.all_eq_true] at hall
        exact ⟨hlength.1, hlength.2, fun c hc => (isNameCharacter_iff c).1 (hall c hc)⟩
      · cases h
  · rintro ⟨hleast, hmost, hall⟩
    have hempty : s.isEmpty = false := by
      rw [Bool.eq_false_iff]
      intro h
      rw [String.isEmpty_iff.1 h] at hleast
      exact absurd hleast (by decide)
    have hlength : (decide (s.length < 3) || decide (255 < s.length)) = false := by
      simp only [Bool.or_eq_false_iff, decide_eq_false_iff_not, Nat.not_lt]
      exact ⟨hleast, hmost⟩
    have hcharacters : s.toList.all isNameCharacter = true :=
      List.all_eq_true.2 fun c hc => (isNameCharacter_iff c).2 (hall c hc)
    simp only [nameProblem?, hempty, hlength, hcharacters, Bool.false_eq_true, if_false, if_true]

theorem nameProblem?_ne_none {s : String} (h : ¬ NameOver Text.isAlphanumeric s) :
    ∃ p, nameProblem? s = some p :=
  Option.ne_none_iff_exists'.1 fun hn => h ((nameProblem?_eq_none_iff s).1 hn)

/-- Of the names that pass the check the service takes those in ASCII, and no others. -/
theorem isName_iff (s : String) :
    IsName s ↔ NameOver Text.isAlphanumeric s ∧ ∀ c ∈ s.toList, c.toNat < 128 := by
  constructor
  · rintro ⟨hleast, hmost, hall⟩
    refine ⟨⟨hleast, hmost, fun c hc => ?_⟩, fun c hc => ?_⟩
    · exact (hall c hc).imp_left fun h => ((Text.isAlphanum_iff c).1 h).1
    · obtain h | rfl | rfl | rfl := hall c hc
      · exact Text.toNat_lt_of_isAlphanum h
      all_goals decide
  · rintro ⟨⟨hleast, hmost, hall⟩, hascii⟩
    refine ⟨hleast, hmost, fun c hc => ?_⟩
    exact (hall c hc).imp_left fun h => (Text.isAlphanum_iff c).2 ⟨h, hascii c hc⟩

end Table

end TableBench
