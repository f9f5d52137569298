import TableBench.Document.Reader
import TableBench.Document.Writer

namespace TableBench.Document

/- Texts. -/

theorem hexValue?_digitChar : ∀ n < 16, hexValue? (Nat.digitChar n) = some n := by decide

theorem unitEscape_eq (n : Nat) : ∃ a b c d, unitEscape n = ['\\', 'u', a, b, c, d] ∧
    (n < 0x10000 → unit? a b c d = some n) := by
  refine ⟨_, _, _, _, rfl, fun hn => ?_⟩
  have hdigit (m : Nat) := hexValue?_digitChar (m % 16) (Nat.mod_lt m (by decide))
  simp only [unit?, hdigit, Option.bind_eq_bind, Option.bind_some, Option.pure_def,
    Option.some.injEq]
  omega

/-- What a text starts with does not count for the rest of it. -/
def reads (c : Char) (r : List Char) : Option (List Char × List Char) :=
  (readText r).map fun p => (c :: p.1, p.2)

theorem bind_reads (c : Char) (r : List Char) :
    (readText r).bind (fun p => some (c :: p.1, p.2)) = reads c r := by
  rw [reads]
  cases readText r <;> rfl

theorem readText_unitEscape {n : Nat} (hn : n < 0xd800 ∨ 0xdfff < n ∧ n < 0x10000)
    (r : List Char) : readText (unitEscape n ++ r) = reads (Char.ofNat n) r := by
  obtain ⟨a, b, c, d, he, hunit⟩ := unitEscape_eq n
  have hunit := hunit (by omega)
  -- it is no high surrogate, so that what follows it is read on its own
  have hhigh : (decide (0xd800 ≤ n) && decide (n < 0xdc00)) = false := by
    rw [Bool.and_eq_false_iff, decide_eq_false_iff_not, decide_eq_false_iff_not]
    omega
  rw [he, readText.eq_def]
  split
  · next h => cases h
  · next h => cases h
  · next h =>
    cases h
    simp only [hunit, Option.bind_eq_bind, Option.bind_some, hhigh, Bool.false_eq_true, if_false]
    exact bind_reads _ _
  · next h =>
    cases h
    simp only [hunit, Option.bind_eq_bind, Option.bind_some]
    exact bind_reads _ _
  · next hno h =>
    cases h
    exact absurd rfl (hno a b c d r rfl)
  · next hno _ h =>
    cases h
    exact absurd rfl (hno a b c d r rfl)

theorem readText_surrogates {high low : Nat} (hh : 0xd800 ≤ high ∧ high < 0xdc00)
    (hl : low < 0x10000) (r : List Char) :
    readText (unitEscape high ++ (unitEscape low ++ r)) =
      reads (Char.ofNat (0x10000 + (high - 0xd800) * 0x400 + (low - 0xdc00))) r := by
  obtain ⟨a, b, c, d, he, hunit⟩ := unitEscape_eq high
  obtain ⟨a', b', c', d', he', hunit'⟩ := unitEscape_eq low
  have hunit := hunit (by omega)
  have hunit' := hunit' hl
  have hhigh : (decide (0xd800 ≤ high) && decide (high < 0xdc00)) = true := by
    rw [Bool.and_eq_true, decide_eq_true_eq, decide_eq_true_eq]
    exact hh
  rw [he, he']
  simp only [List.cons_append, List.nil_append, readText, hunit, hunit', Option.bind_eq_bind,
    Option.bind_some, hhigh, if_true]
  exact bind_reads _ _

theorem readText_longEscape (c : Char) (r : List Char) :
    readText (longEscape c ++ r) = reads c r := by
  have hvalid : c.toNat < 0xd800 ∨ 0xdfff < c.toNat ∧ c.toNat < 0x110000 := c.valid
  rw [longEscape]
  split
  · rw [readText_unitEscape (by omega), Char.ofNat_toNat]
  · dsimp only
    rw [List.append_assoc, readText_surrogates (by omega) (by omega)]
    have hjoined : 0x10000 + (0xd800 + (c.toNat - 0x10000) / 0x400 - 0xd800) * 0x400 +
        (0xdc00 + (c.toNat - 0x10000) % 0x400 - 0xdc00) = c.toNat := by omega
    rw [hjoined, Char.ofNat_toNat]

theorem readText_short {e c : Char} (he : e ≠ 'u') (hc : unescape? e = some c) (r : List Char) :
    readText ('\\' :: e :: r) = reads c r := by
  rw [readText.eq_def]
  split
  · next h => cases h
  · next h => cases h
  · next h =>
    cases h
    exact absurd rfl he
  · next h =>
    cases h
    exact absurd rfl he
  · next h =>
    cases h
    simp only [hc, Option.bind_eq_bind, Option.bind_some]
    exact bind_reads _ _
  · next hno h =>
    cases h
    exact absurd rfl (hno e r rfl)

theorem readText_plain {c : Char} (hq : c ≠ '\x22') (hb : c ≠ '\\') (r : List Char) :
    readText (c :: r) = reads c r := by
  rw [readText.eq_def]
  split
  · next h => cases h
  · next h =>
    cases h
    exact absurd rfl hq
  iterate 3
    next h =>
      cases h
      exact absurd rfl hb
  · next h =>
    cases h
    exact bind_reads _ _

theorem readText_escape (c : Char) (r : List Char) : readText (escape c ++ r) = reads c r := by
  unfold escape
  split
  iterate 7 exact readText_short (by decide) rfl r
  next hq hb _ _ _ _ _ =>
    split
    · exact readText_plain hq hb r
    · exact readText_longEscape c r

theorem readText_quote (cs r : List Char) :
    readText (cs.flatMap escape ++ '\x22' :: r) = some (cs, r) := by
  induction cs with
  | nil => rfl
  | cons c cs ih =>
    rw [List.flatMap_cons, List.append_assoc, readText_escape, reads, ih]
    rfl

/- Numbers. -/

def Breaks (r : List Char) : Prop := ∀ c ∈ r.head?, isNumberPart c = false

theorem digitsValue_toDigits (n : Nat) : Number.digitsValue (Nat.toDigits 10 n) = n :=
  Nat.ofDigitChars_toDigits (by decide) (by decide)

theorem isDigit_toDigits (n : Nat) : ∀ c ∈ Nat.toDigits 10 n, c.isDigit = true :=
  fun _ hc => Nat.isDigit_of_mem_toDigits (by decide) (by decide) hc

theorem toDigits_eq_cons (n : Nat) : ∃ c r, Nat.toDigits 10 n = c :: r ∧ c.isDigit = true := by
  obtain ⟨c, r, h⟩ := List.exists_cons_of_ne_nil (Nat.toDigits_ne_nil (n := n) (b := 10))
  exact ⟨c, r, h, isDigit_toDigits n c (by rw [h]; exact List.mem_cons_self)⟩

theorem splitSign_toDigits (n : Nat) :
    Number.splitSign (Nat.toDigits 10 n) = (false, Nat.toDigits 10 n) := by
  obtain ⟨c, r, h, hc⟩ := toDigits_eq_cons n
  rw [h, Number.splitSign]
  · rintro r' heq
    cases heq
    cases hc
  · rintro r' heq
    cases heq
    cases hc

theorem ofNumber?_intChars (n : Int) : ofNumber? (intChars n) = some (int n) := by
  have hall (m : Nat) : (Nat.toDigits 10 m).all Char.isDigit = true :=
    List.all_eq_true.2 (isDigit_toDigits m)
  have hne (m : Nat) : (Nat.toDigits 10 m).isEmpty = false := by
    rw [List.isEmpty_eq_false_iff]
    exact Nat.toDigits_ne_nil
  rw [intChars]
  split
  · simp only [ofNumber?, Number.splitSign, hne, hall, digitsValue_toDigits, Bool.false_eq_true,
      if_false, if_true, Option.some.injEq, int.injEq]
    omega
  · simp only [ofNumber?, splitSign_toDigits, hne, hall, digitsValue_toDigits, Bool.false_eq_true,
      if_false, if_true, Option.some.injEq, int.injEq]
    omega

theorem isNumberPart_intChars (n : Int) : ∀ c ∈ intChars n, isNumberPart c = true := by
  have hdigits (m : Nat) : ∀ c ∈ Nat.toDigits 10 m, isNumberPart c = true := by
    intro c hc
    rw [isNumberPart, isDigit_toDigits m c hc]
    rfl
  rw [intChars]
  split
  · exact List.forall_mem_cons.2 ⟨by decide, hdigits _⟩
  · exact hdigits _

theorem takeWhile_breaks {r : List Char} (h : Breaks r) : r.takeWhile isNumberPart = [] := by
  cases r with
  | nil => rfl
  | cons c r => rw [List.takeWhile_cons_of_neg (by rw [h c rfl]; exact Bool.false_ne_true)]

theorem dropWhile_breaks {r : List Char} (h : Breaks r) : r.dropWhile isNumberPart = r := by
  cases r with
  | nil => rfl
  | cons c r => rw [List.dropWhile_cons_of_neg (by rw [h c rfl]; exact Bool.false_ne_true)]

theorem readNumber_intChars (n : Int) {r : List Char} (h : Breaks r) :
    (ofNumber? ((intChars n ++ r).takeWhile isNumberPart)).map
      (·, (intChars n ++ r).dropWhile isNumberPart) = some (int n, r) := by
  rw [List.takeWhile_append_of_pos (isNumberPart_intChars n),
    List.dropWhile_append_of_pos (isNumberPart_intChars n), takeWhile_breaks h, dropWhile_breaks h,
    List.append_nil, ofNumber?_intChars]
  rfl

/- Values. -/

/-- The document is built of null, truth values, integers and texts, and the names of every object
are distinct. -/
inductive IsPlain : Document → Prop
  | null : IsPlain null
  | bool (b : Bool) : IsPlain (bool b)
  | int (n : Int) : IsPlain (int n)
  | text (s : String) : IsPlain (text s)
  | list {ds : List Document} (h : ∀ d ∈ ds, IsPlain d) : IsPlain (list ds)
  | object {fs : Fields} (hn : (fs.map Prod.fst).Nodup) (h : ∀ f ∈ fs, IsPlain f.2) :
    IsPlain (object fs)

/-- The document is read back wherever it stands, given a step for each of its characters. -/
def ReadsBack (d : Document) : Prop := ∀ steps r, d.chars.length ≤ steps → Breaks r →
  readValue steps (d.chars ++ r) = some (d, r)

theorem skip_cons {c : Char} (h : c ∉ [' ', '\t', '\n', '\r']) (r : List Char) :
    skip (c :: r) = c :: r := by
  rw [skip, List.dropWhile_cons_of_neg]
  simpa only [List.mem_cons, List.not_mem_nil, or_false, Bool.or_eq_true, decide_eq_true_eq,
    or_assoc] using h

theorem breaks_cons {c : Char} (h : isNumberPart c = false) (r : List Char) : Breaks (c :: r) := by
  rintro _ ⟨⟩
  exact h

theorem chars_eq_cons {d : Document} (h : d.IsPlain) :
    ∃ c r, d.chars = c :: r ∧ c ∉ [']', ' ', '\t', '\n', '\r'] := by
  cases h with
  | null => exact ⟨_, _, rfl, by decide⟩
  | bool b => cases b <;> exact ⟨_, _, rfl, by decide⟩
  | int n =>
    rw [chars, intChars]
    split
    · exact ⟨_, _, rfl, by decide⟩
    · obtain ⟨c, r, hc, hdigit⟩ := toDigits_eq_cons n.natAbs
      have hnone : [']', ' ', '\t', '\n', '\r'].all (fun c => !c.isDigit) = true := by decide
      refine ⟨c, r, hc, fun hmem => ?_⟩
      have hother := List.all_eq_true.1 hnone c hmem
      rw [hdigit] at hother
      cases hother
  | text s => exact ⟨_, _, rfl, by decide⟩
  | list h => exact ⟨_, _, rfl, by decide⟩
  | object hn h => exact ⟨_, _, rfl, by decide⟩

/- One step. -/

section

variable {steps : Nat} {cs r : List Char} {d : Document}

theorem readValue_blank : readValue steps (' ' :: r) = readValue steps r := by
  cases steps with
  | zero => rfl
  | succ steps => rw [readValue, readValue]; rfl

theorem readMembers_blank : readMembers steps (' ' :: r) = readMembers steps r := by
  cases steps with
  | zero => rfl
  | succ steps => rw [readMembers, readMembers, readValue_blank]

theorem readFields_blank {fs : Fields} :
    readFields steps fs (' ' :: r) = readFields steps fs r := by
  cases steps with
  | zero => rfl
  | succ steps => rw [readFields, readFields]; rfl

theorem readMembers_last (h : readValue steps cs = some (d, ']' :: r)) :
    readMembers (steps + 1) cs = some ([d], r) := by
  rw [readMembers, h]
  rfl

theorem readMembers_more (h : readValue steps cs = some (d, ',' :: r)) :
    readMembers (steps + 1) cs = (readMembers steps r).bind fun p => some (d :: p.1, p.2) := by
  rw [readMembers, h]
  rfl

def readAfter (steps : Nat) (fs : Fields) (k : String) (p : Document × List Char) :
    Option (Fields × List Char) :=
  match skip p.2 with
  | ',' :: r => readFields steps (Fields.set fs k p.1) r
  | '\x7d' :: r => some (Fields.set fs k p.1, r)
  | _ => none

theorem readFields_field (k : String) (fs : Fields) :
    readFields (steps + 1) fs (quote k.toList ++ ':' :: cs) =
      (readValue steps cs).bind (readAfter steps fs k) := by
  rw [readFields, quote]
  simp only [List.cons_append, List.append_assoc]
  rw [skip_cons (by decide)]
  simp only [List.nil_append, readText_quote, Option.bind_eq_bind, Option.bind_some]
  rw [skip_cons (by decide)]
  simp only [String.ofList_toList]
  rfl

theorem readFields_last (k : String) (fs : Fields)
    (h : readValue steps cs = some (d, '\x7d' :: r)) :
    readFields (steps + 1) fs (quote k.toList ++ ':' :: cs) = some (Fields.set fs k d, r) := by
  rw [readFields_field, h]
  rfl

theorem readFields_more (k : String) (fs : Fields)
    (h : readValue steps cs = some (d, ',' :: r)) :
    readFields (steps + 1) fs (quote k.toList ++ ':' :: cs) =
      readFields steps (Fields.set fs k d) r := by
  rw [readFields_field, h]
  rfl

theorem readValue_list (h : ∀ r', skip cs ≠ ']' :: r') :
    readValue (steps + 1) ('[' :: cs) = (readMembers steps (skip cs)).map
      fun p => (list p.1, p.2) := by
  rw [readValue, skip_cons (by decide)]
  split
  case h_3 heq =>
    cases heq
    split
    · next heq => exact absurd heq (h _)
    · rfl
  case h_8 hno _ _ _ _ => exact absurd rfl (hno cs)
  all_goals next heq => cases heq

theorem readValue_object (h : ∀ r', skip cs ≠ '\x7d' :: r') :
    readValue (steps + 1) ('\x7b' :: cs) = (readFields steps [] (skip cs)).map
      fun p => (object p.1, p.2) := by
  rw [readValue, skip_cons (by decide)]
  split
  case h_4 heq =>
    cases heq
    split
    · next heq => exact absurd heq (h _)
    · rfl
  case h_8 hno _ _ _ => exact absurd rfl (hno cs)
  all_goals next heq => cases heq

theorem readValue_text (s : String) :
    readValue (steps + 1) (quote s.toList ++ r) = some (text s, r) := by
  rw [quote, List.append_assoc, List.cons_append, readValue]
  change (readText (s.toList.flatMap escape ++ '\x22' :: r)).map _ = _
  rw [readText_quote]
  simp only [Option.map_some, String.ofList_toList]

theorem readValue_number {c : Char} (hc : c = '-' ∨ c.isDigit = true) :
    readValue (steps + 1) (c :: cs) = (ofNumber? ((c :: cs).takeWhile isNumberPart)).map
      (·, (c :: cs).dropWhile isNumberPart) := by
  have hother : ∀ c' ∈ [' ', '\t', '\n', '\r', '\x22', '[', '\x7b', 'n', 't', 'f'], c ≠ c' := by
    rintro c' hmem rfl
    have hnone : [' ', '\t', '\n', '\r', '\x22', '[', '\x7b', 'n', 't', 'f'].all
        (fun c => decide ¬ (c = '-' ∨ c.isDigit = true)) = true := by decide
    exact of_decide_eq_true (List.all_eq_true.1 hnone c hmem) hc
  have hskip : skip (c :: cs) = c :: cs := by
    refine skip_cons (fun hmem => ?_) cs
    exact hother c (List.mem_append_left [_, _, _, _, _, _] hmem) rfl
  rw [readValue, hskip]
  split
  · next h => cases h
  iterate 6
    next h =>
      cases h
      exact absurd rfl (hother _ (by decide))
  · rfl

theorem intChars_eq_cons (n : Int) :
    ∃ c cs, intChars n = c :: cs ∧ (c = '-' ∨ c.isDigit = true) := by
  rw [intChars]
  split
  · exact ⟨_, _, rfl, .inl rfl⟩
  · obtain ⟨c, cs, h, hc⟩ := toDigits_eq_cons n.natAbs
    exact ⟨c, cs, h, .inr hc⟩

theorem readValue_intChars (n : Int) (hr : Breaks r) :
    readValue (steps + 1) (intChars n ++ r) = some (int n, r) := by
  obtain ⟨c, cs, h, hc⟩ := intChars_eq_cons n
  have hread := readNumber_intChars n hr
  rw [h, List.cons_append] at hread ⊢
  rw [readValue_number hc, hread]

end

theorem readMembers_separated {ds : List Document} (hne : ds ≠ []) (h : ∀ d ∈ ds, d.ReadsBack)
    {steps : Nat} (hs : (separated (listChars ds)).length < steps) (r : List Char) :
    readMembers steps (separated (listChars ds) ++ ']' :: r) = some (ds, r) := by
  induction ds generalizing steps with
  | nil => exact absurd rfl hne
  | cons d ds ih =>
    obtain ⟨hd, hds⟩ := List.forall_mem_cons.1 h
    obtain ⟨steps, rfl⟩ := Nat.exists_eq_add_one_of_ne_zero (Nat.ne_zero_of_lt hs)
    cases ds with
    | nil => exact readMembers_last (hd steps _ (Nat.le_of_lt_succ hs) (breaks_cons rfl r))
    | cons d' ds =>
      have hsplit : separated (listChars (d :: d' :: ds)) =
          d.chars ++ ',' :: ' ' :: separated (listChars (d' :: ds)) := rfl
      rw [hsplit, List.length_append, List.length_cons, List.length_cons] at hs
      have hread := hd steps (',' :: ' ' :: (separated (listChars (d' :: ds)) ++ ']' :: r))
        (by omega) (breaks_cons rfl _)
      rw [hsplit, List.append_assoc, List.cons_append, List.cons_append, readMembers_more hread,
        readMembers_blank, ih (List.cons_ne_nil _ _) hds (by omega)]
      rfl

theorem set_of_not_mem {fs : Fields} {k : String} (h : k ∉ fs.map Prod.fst) (d : Document) :
    Fields.set fs k d = fs ++ [(k, d)] := by
  induction fs with
  | nil => rfl
  | cons f fs ih =>
    rw [List.map_cons, List.mem_cons, not_or] at h
    rw [Fields.set, if_neg (fun he => h.1 he.symm), ih h.2]
    rfl

theorem readFields_separated {before fs : Fields} (hne : fs ≠ [])
    (hn : ((before ++ fs).map Prod.fst).Nodup) (h : ∀ f ∈ fs, f.2.ReadsBack) {steps : Nat}
    (hs : (separated (fieldsChars fs)).length < steps) (r : List Char) :
    readFields steps before (separated (fieldsChars fs) ++ '\x7d' :: r) =
      some (before ++ fs, r) := by
  induction fs generalizing before steps with
  | nil => exact absurd rfl hne
  | cons f fs ih =>
    obtain ⟨k, d⟩ := f
    obtain ⟨hd, hfs⟩ : d.ReadsBack ∧ ∀ f ∈ fs, f.2.ReadsBack := List.forall_mem_cons.1 h
    obtain ⟨steps, rfl⟩ := Nat.exists_eq_add_one_of_ne_zero (Nat.ne_zero_of_lt hs)
    -- the fields before have other names, so that this one is put behind them
    have hset : Fields.set before k d = before ++ [(k, d)] := by
      apply set_of_not_mem
      rw [List.map_append, List.nodup_append] at hn
      exact fun hk => hn.2.2 k hk k List.mem_cons_self rfl
    cases fs with
    | nil =>
      have hsplit :
          separated (fieldsChars [(k, d)]) = quote k.toList ++ ':' :: ' ' :: d.chars := rfl
      rw [hsplit, List.length_append, List.length_cons, List.length_cons] at hs
      have hread := hd steps ('\x7d' :: r) (by omega) (breaks_cons rfl r)
      rw [← readValue_blank] at hread
      rw [hsplit, List.append_assoc, ← hset]
      exact readFields_last k before hread
    | cons f fs =>
      have hsplit : separated (fieldsChars ((k, d) :: f :: fs)) =
          quote k.toList ++ ':' :: ' ' :: d.chars ++ ',' :: ' ' ::
            separated (fieldsChars (f :: fs)) := rfl
      rw [hsplit] at hs
      simp only [List.length_append, List.length_cons] at hs
      have hread := hd steps (',' :: ' ' :: (separated (fieldsChars (f :: fs)) ++ '\x7d' :: r))
        (by omega) (breaks_cons rfl _)
      rw [← readValue_blank] at hread
      have hmore := readFields_more k before hread
      rw [readFields_blank, hset, ih (List.cons_ne_nil _ _) (by simpa using hn) hfs (by omega),
        List.append_assoc] at hmore
      rw [hsplit]
      simpa only [List.append_assoc, List.cons_append, List.nil_append] using hmore

theorem separated_eq_cons {c : Char} {p : List Char} (ps : List (List Char)) :
    ∃ cs, separated ((c :: p) :: ps) = c :: cs := by
  cases ps with
  | nil => exact ⟨p, rfl⟩
  | cons q ps => exact ⟨_, rfl⟩

theorem skip_chars {d : Document} (h : d.IsPlain) (ps : List (List Char)) (r : List Char) :
    skip (separated (d.chars :: ps) ++ r) = separated (d.chars :: ps) ++ r ∧
      ∀ r', separated (d.chars :: ps) ++ r ≠ ']' :: r' := by
  obtain ⟨c, p, hc, hmem⟩ := chars_eq_cons h
  obtain ⟨cs, hcs⟩ := separated_eq_cons (c := c) (p := p) ps
  rw [List.mem_cons, not_or] at hmem
  rw [hc, hcs, List.cons_append]
  refine ⟨skip_cons hmem.2 _, ?_⟩
  rintro r' heq
  exact hmem.1 (List.cons.inj heq).1

theorem ReadsBack.of_succ {d : Document} (h : d.IsPlain)
    (hs : ∀ steps r, d.chars.length ≤ steps + 1 → Breaks r →
      readValue (steps + 1) (d.chars ++ r) = some (d, r)) : d.ReadsBack := by
  intro steps r hlength hr
  obtain ⟨c, cs, hc, -⟩ := chars_eq_cons h
  have hne : steps ≠ 0 := by
    rw [hc] at hlength
    exact Nat.ne_zero_of_lt hlength
  obtain ⟨steps, rfl⟩ := Nat.exists_eq_add_one_of_ne_zero hne
  exact hs steps r hlength hr

/-- What is written of a plain document is read back as that document, wherever it stands. -/
theorem IsPlain.readsBack {d : Document} (h : d.IsPlain) : d.ReadsBack := by
  induction h with
  | null =>
    refine .of_succ .null fun steps r _ _ => ?_
    rw [readValue]
    rfl
  | bool b =>
    refine .of_succ (.bool b) fun steps r _ _ => ?_
    cases b <;> rw [readValue] <;> rfl
  | int n => exact .of_succ (.int n) fun steps r _ hr => readValue_intChars n hr
  | text s => exact .of_succ (.text s) fun steps r _ _ => readValue_text s
  | @list ds h ih =>
    refine .of_succ (.list h) fun steps r hs _ => ?_
    cases ds with
    | nil =>
      rw [readValue]
      rfl
    | cons d ds =>
      have hchars : (Document.list (d :: ds)).chars =
          '[' :: (separated (listChars (d :: ds)) ++ [']']) := rfl
      rw [hchars, List.length_cons, List.length_append, List.length_singleton] at hs
      -- the brackets are two characters and take one step
      have hlength : (separated (listChars (d :: ds))).length < steps := by omega
      obtain ⟨hskip, hopen⟩ :=
        skip_chars (h d List.mem_cons_self) (listChars ds) (']' :: r)
      have hread := readMembers_separated (List.cons_ne_nil d ds) ih hlength r
      rw [listChars] at hread
      rw [hchars, listChars, List.cons_append, List.append_assoc, List.singleton_append,
        readValue_list (by rw [hskip]; exact hopen), hskip, hread]
      rfl
  | @object fs hn h ih =>
    refine .of_succ (.object hn h) fun steps r hs _ => ?_
    cases fs with
    | nil =>
      rw [readValue]
      rfl
    | cons f fs =>
      obtain ⟨k, d⟩ := f
      have hchars : (Document.object ((k, d) :: fs)).chars =
          '\x7b' :: (separated (fieldsChars ((k, d) :: fs)) ++ ['\x7d']) := rfl
      rw [hchars, List.length_cons, List.length_append, List.length_singleton] at hs
      have hlength : (separated (fieldsChars ((k, d) :: fs))).length < steps := by omega
      obtain ⟨cs, hcs⟩ : ∃ cs, separated (fieldsChars ((k, d) :: fs)) = '\x22' :: cs :=
        separated_eq_cons (fieldsChars fs)
      have hread : readFields steps [] (separated (fieldsChars ((k, d) :: fs)) ++ '\x7d' :: r) =
          some ((k, d) :: fs, r) :=
        readFields_separated (List.cons_ne_nil (k, d) fs) hn ih hlength r
      rw [hcs, List.cons_append] at hread
      have hskip : skip ('\x22' :: (cs ++ '\x7d' :: r)) = '\x22' :: (cs ++ '\x7d' :: r) :=
        skip_cons (by decide) _
      rw [hchars, hcs, List.cons_append, List.append_assoc, List.singleton_append,
        List.cons_append, readValue_object (by rw [hskip]; exact nofun), hskip, hread]
      rfl

/-- A plain document is told from its text. -/
theorem read?_write {d : Document} (h : d.IsPlain) : read? d.write = some d := by
  have hread := h.readsBack (d.chars.length + 1) [] (Nat.le_succ _) nofun
  rw [List.append_nil] at hread
  rw [read?, write, String.toList_ofList]
  simp only [hread, Option.bind_eq_bind, Option.bind_some]
  rfl

theorem write_injective {a b : Document} (ha : a.IsPlain) (hb : b.IsPlain)
    (h : a.write = b.write) : a = b := by
  have hread := read?_write ha
  rw [h, read?_write hb] at hread
  exact (Option.some.inj hread).symm

end TableBench.Document
