import TableBench.Document.Writer

namespace TableBench

namespace Text

def IsAscii (c : Char) : Prop := 0x20 ≤ c.toNat ∧ c.toNat < 0x7f

instance : DecidablePred IsAscii := fun _ => inferInstanceAs (Decidable (_ ∧ _))

def AsciiLine (cs : List Char) : Prop := ∀ c ∈ cs, IsAscii c

instance : DecidablePred AsciiLine := fun cs => List.decidableBAll IsAscii cs

namespace AsciiLine

variable {c : Char} {cs ds : List Char}

theorem nil : AsciiLine [] := List.forall_mem_nil _

theorem cons (h : IsAscii c) (hs : AsciiLine cs) : AsciiLine (c :: cs) :=
  List.forall_mem_cons.2 ⟨h, hs⟩

theorem append (h : AsciiLine cs) (hs : AsciiLine ds) : AsciiLine (cs ++ ds) :=
  List.forall_mem_append.2 ⟨h, hs⟩

theorem flatMap {α : Type} {f : α → List Char} (h : ∀ a, AsciiLine (f a)) (as : List α) :
    AsciiLine (as.flatMap f) := by
  intro c hc
  obtain ⟨a, -, ha⟩ := List.mem_flatMap.1 hc
  exact h a c ha

theorem take (h : AsciiLine cs) (n : Nat) : AsciiLine (cs.take n) :=
  fun c hc => h c (List.mem_of_mem_take hc)

theorem drop (h : AsciiLine cs) (n : Nat) : AsciiLine (cs.drop n) :=
  fun c hc => h c (List.mem_of_mem_drop hc)

theorem replicate (h : IsAscii c) (n : Nat) : AsciiLine (List.replicate n c) :=
  fun _ hd => (List.eq_of_mem_replicate hd).symm ▸ h

theorem newline_not_mem (h : AsciiLine cs) : '\n' ∉ cs := fun hmem => absurd (h _ hmem) (by decide)

end AsciiLine

def OneLine (s : String) : Prop := AsciiLine s.toList

theorem ascii_hexDigits (width n : Nat) : AsciiLine (hexDigits width n) := by
  induction width generalizing n with
  | zero => exact .nil
  | succ width ih =>
    have hdigit : ∀ d < 16, IsAscii (Nat.digitChar d) := by decide
    exact (ih (n / 16)).append (.cons (hdigit _ (Nat.mod_lt n (by decide))) .nil)

theorem ascii_toDigits (n : Nat) : AsciiLine (Nat.toDigits 10 n) := by
  intro c hc
  have hdigit := Nat.isDigit_of_mem_toDigits (by decide) (by decide) hc
  rw [Char.isDigit, Bool.and_eq_true, decide_eq_true_eq, decide_eq_true_eq] at hdigit
  obtain ⟨hleast, hgreatest⟩ := hdigit
  have hleast : 48 ≤ c.toNat := hleast
  have hgreatest : c.toNat ≤ 57 := hgreatest
  exact ⟨by omega, by omega⟩

end Text

open Text

namespace Number

theorem ascii_positional {digits : List Char} (h : AsciiLine digits) (point : Int) :
    AsciiLine (positional digits point) := by
  have hzeros (n : Nat) : AsciiLine (List.replicate n '0') := .replicate (by decide) n
  rw [positional]
  split
  · exact (AsciiLine.cons (by decide) (.cons (by decide) (hzeros _))).append h
  · refine ((h.take _).append (hzeros _)).append (.cons (by decide) ?_)
    split
    · exact .cons (by decide) .nil
    · exact h.drop _

theorem ascii_scientific (n : Layout) {digits : List Char} (h : AsciiLine digits) (point : Int) :
    AsciiLine (scientific n digits point) := by
  have hplaces : AsciiLine (if digits.length ≤ 1 then [] else '.' :: digits.drop 1) := by
    split
    · exact .nil
    · exact .cons (by decide) (h.drop 1)
  have hsign (negative : Prop) [Decidable negative] : IsAscii (if negative then '-' else '+') := by
    split <;> decide
  have hzeros (n : Nat) : AsciiLine (List.replicate n '0') := .replicate (by decide) n
  rw [scientific]
  refine (((h.take 1).append hplaces).append (.cons (by decide) ?_)).append (ascii_toDigits _)
  exact .cons (hsign _) (hzeros _)

theorem ascii_write (n : Layout) (d : Decimal) : AsciiLine (n.write d) := by
  rw [Layout.write]
  split
  · exact ascii_positional (ascii_toDigits _) _
  · exact ascii_scientific n (ascii_toDigits _) _

theorem Binary.ascii_chars (b : Binary) : AsciiLine b.chars := by
  have hmagnitude : AsciiLine
      (if b.significand = 0 then ['0', '.', '0'] else Layout.standard.write b.shortest) := by
    split
    · decide
    · exact ascii_write _ _
  rw [Binary.chars]
  split
  · exact .cons (by decide) hmagnitude
  · exact hmagnitude

theorem ascii_floatChars {words : Nonfinite} (hn : AsciiLine words.notNumber.toList)
    (hi : AsciiLine words.infinity.toList) (x : Float) : AsciiLine (floatChars words x) := by
  rw [floatChars]
  split
  · exact Binary.ascii_chars _
  · split
    · exact hn
    · split
      · exact .cons (by decide) hi
      · exact hi

end Number

namespace Document

theorem ascii_longEscape (c : Char) : AsciiLine (longEscape c) := by
  have hunit (n : Nat) : AsciiLine (unitEscape n) :=
    .cons (by decide) (.cons (by decide) (ascii_hexDigits 4 n))
  rw [longEscape]
  split
  · exact hunit _
  · exact (hunit _).append (hunit _)

theorem ascii_escape (c : Char) : AsciiLine (escape c) := by
  unfold escape
  split
  iterate 7 decide
  split
  · next h =>
    rw [Bool.and_eq_true, decide_eq_true_eq, decide_eq_true_eq] at h
    exact .cons ⟨h.1, by omega⟩ .nil
  · exact ascii_longEscape c

theorem ascii_quote (cs : List Char) : AsciiLine (quote cs) :=
  (AsciiLine.cons (by decide) (.flatMap ascii_escape cs)).append (.cons (by decide) .nil)

theorem ascii_separated {ps : List (List Char)} (h : ∀ p ∈ ps, AsciiLine p) :
    AsciiLine (separated ps) := by
  induction ps with
  | nil => exact .nil
  | cons p r ih =>
    obtain ⟨hp, hr⟩ := List.forall_mem_cons.1 h
    cases r with
    | nil => exact hp
    | cons p' r => exact hp.append (.cons (by decide) (.cons (by decide) (ih hr)))

theorem ascii_intChars (n : Int) : AsciiLine (intChars n) := by
  rw [intChars]
  split
  · exact .cons (by decide) (ascii_toDigits _)
  · exact ascii_toDigits _

mutual

theorem ascii_chars : ∀ d : Document, AsciiLine d.chars
  | null => by decide
  | bool true => by decide
  | bool false => by decide
  | int n => ascii_intChars n
  | float x => Number.ascii_floatChars (by decide) (by decide) x
  | text s => ascii_quote s.toList
  | bytes bs => ascii_quote (byteLiteral bs)
  | list ds =>
    (AsciiLine.cons (by decide) (ascii_separated (ascii_listChars ds))).append
      (.cons (by decide) .nil)
  | object fs =>
    (AsciiLine.cons (by decide) (ascii_separated (ascii_fieldsChars fs))).append
      (.cons (by decide) .nil)

theorem ascii_listChars : ∀ ds : List Document, ∀ p ∈ listChars ds, AsciiLine p
  | [] => List.forall_mem_nil _
  | d :: ds => List.forall_mem_cons.2 ⟨ascii_chars d, ascii_listChars ds⟩

theorem ascii_fieldsChars : ∀ fs : Fields, ∀ p ∈ fieldsChars fs, AsciiLine p
  | [] => List.forall_mem_nil _
  | (k, d) :: fs =>
    List.forall_mem_cons.2
      ⟨(ascii_quote k.toList).append (.cons (by decide) (.cons (by decide) (ascii_chars d))),
        ascii_fieldsChars fs⟩

end

theorem oneLine_write (d : Document) : OneLine d.write := by
  rw [OneLine, write, String.toList_ofList]
  exact ascii_chars d

theorem oneLine_render (d : Document) : OneLine d.render := oneLine_write d.sorted

end Document

end TableBench
