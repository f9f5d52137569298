import TableBench.Payload.Values
import TableBench.Proofs.Number.Rounding

namespace TableBench.Payload

namespace Twister

theorem toNat_shiftRight_lt (a : UInt32) : (a >>> 5).toNat < 2 ^ 27 ∧ (a >>> 6).toNat < 2 ^ 26 := by
  have h := a.toNat_lt
  simp only [UInt32.toNat_shiftRight, UInt32.reduceToNat, Nat.shiftRight_eq_div_pow, Nat.reduceMod,
    Nat.reducePow] at h ⊢
  omega

theorem next53_lt (t : Twister) : t.next53.1 < 2 ^ 53 := by
  rw [next53]
  dsimp only
  have ha := (toNat_shiftRight_lt t.next.1).1
  have hb := (toNat_shiftRight_lt t.next.2.next.1).2
  omega

end Twister

theorem place_lt {fraction : Nat} (h : fraction < 2 ^ 53) : place fraction < 62 :=
  Number.roundToBits_mul_div_lt h (by decide)

theorem length_alphabet : alphabet.length = 62 := by decide +kernel

theorem character_mem (t : Twister) : (character t).1 ∈ alphabet := by
  have h : place t.next53.1 < alphabet.length := by
    rw [length_alphabet]
    exact place_lt t.next53_lt
  have hc : (character t).1 = alphabet.getD (place t.next53.1) 'a' := rfl
  rw [hc, List.getD_eq_getElem?_getD, List.getElem?_eq_getElem h, Option.getD_some]
  exact List.getElem_mem h

theorem isAlphanum_of_mem_alphabet {c : Char} (h : c ∈ alphabet) : c.isAlphanum = true := by
  have hall : alphabet.all Char.isAlphanum = true := by decide +kernel
  exact List.all_eq_true.1 hall c h

theorem characters_succ (n : Nat) (t : Twister) :
    characters (n + 1) t =
      ((character t).1 :: (characters n (character t).2).1,
        (characters n (character t).2).2) := rfl

theorem length_characters (n : Nat) (t : Twister) : (characters n t).1.length = n := by
  induction n generalizing t with
  | zero => rfl
  | succ n ih => rw [characters_succ, List.length_cons, ih]

theorem mem_alphabet_of_mem_characters {n : Nat} {t : Twister} {c : Char}
    (h : c ∈ (characters n t).1) : c ∈ alphabet := by
  induction n generalizing t with
  | zero => cases h
  | succ n ih =>
    rw [characters_succ, List.mem_cons] at h
    obtain rfl | h := h
    · exact character_mem t
    · exact ih h

/-- A stream is cut at any point: what comes after it begins with the state at the cut. -/
theorem characters_add (m n : Nat) (t : Twister) :
    characters (m + n) t =
      ((characters m t).1 ++ (characters n (characters m t).2).1,
        (characters n (characters m t).2).2) := by
  induction m generalizing t with
  | zero =>
    rw [Nat.zero_add]
    rfl
  | succ m ih =>
    rw [Nat.succ_add, characters_succ, ih]
    rfl

section

variable (size count : Nat) (t : Twister)

theorem valuesFrom_succ :
    valuesFrom size (count + 1) t =
      String.ofList (characters size t).1 :: valuesFrom size count (characters size t).2 := rfl

theorem length_valuesFrom : (valuesFrom size count t).length = count := by
  induction count generalizing t with
  | zero => rfl
  | succ count ih => rw [valuesFrom_succ, List.length_cons, ih]

theorem mem_valuesFrom {v : String} (h : v ∈ valuesFrom size count t) :
    ∃ t, v = String.ofList (characters size t).1 := by
  induction count generalizing t with
  | zero => cases h
  | succ count ih =>
    rw [valuesFrom_succ, List.mem_cons] at h
    obtain rfl | h := h
    · exact ⟨t, rfl⟩
    · exact ih _ h

theorem valuesFrom_add (more : Nat) :
    valuesFrom size (count + more) t =
      valuesFrom size count t ++ valuesFrom size more (characters (size * count) t).2 := by
  induction count generalizing t with
  | zero =>
    rw [Nat.zero_add]
    rfl
  | succ count ih =>
    rw [Nat.succ_add, valuesFrom_succ, ih, Nat.mul_succ, Nat.add_comm (size * count),
      characters_add]
    rfl

/-- The pieces together are the stream as far as they go. -/
theorem join_valuesFrom :
    String.join (valuesFrom size count t) = String.ofList (characters (size * count) t).1 := by
  induction count generalizing t with
  | zero => rfl
  | succ count ih =>
    rw [valuesFrom_succ, String.join_cons, ih, Nat.mul_succ, Nat.add_comm (size * count),
      characters_add, String.ofList_append]

end

variable (size : Nat) (seed : Int) (count : Nat)

theorem values_succ : values size seed (count + 1) =
    values size seed count ++ [stream size seed count] := by
  have h : values size seed (count + 1) = values size seed count ++
      [String.ofList (characters size (characters (size * count) (Twister.ofSeed seed)).2).1] :=
    valuesFrom_add size count (Twister.ofSeed seed) 1
  rw [stream, h, List.getLast?_concat]
  rfl

theorem values_eq_map : values size seed count = (List.range count).map (stream size seed) := by
  induction count with
  | zero => rfl
  | succ count ih => rw [values_succ, ih, List.range_succ, List.map_append, List.map_singleton]

theorem isAlphanum_of_mem_values {v : String} (h : v ∈ values size seed count) :
    v.length = size ∧ ∀ c ∈ v.toList, c.isAlphanum = true := by
  obtain ⟨t, rfl⟩ := mem_valuesFrom size count _ h
  rw [String.length_ofList, String.toList_ofList]
  exact ⟨length_characters size t, fun c hc =>
    isAlphanum_of_mem_alphabet (mem_alphabet_of_mem_characters hc)⟩

theorem values_joined :
    values (size * count) seed 1 = [String.join (values size seed count)] := by
  have h := join_valuesFrom size count (Twister.ofSeed seed)
  rw [values, values, h]
  rfl

end TableBench.Payload
