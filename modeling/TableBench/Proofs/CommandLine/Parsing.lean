import Mathlib.Tactic.Tauto
import TableBench.CommandLine.Program
import TableBench.Proofs.Number.Numeral

namespace TableBench

namespace CommandLine

theorem bind_eq_ok {ε α β : Type} {x : Except ε α} {f : α → Except ε β} {b : β}
    (h : x >>= f = .ok b) : ∃ a, x = .ok a ∧ f a = .ok b := by
  cases x with
  | error e => cases h
  | ok a => exact ⟨a, rfl, h⟩

def Parameter.allNames (p : Parameter) : List String := p.names ++ p.offNames

/-- If the option stands for itself and has no short name, then one of the words spells it out. -/
def Parameter.Spelled (p : Parameter) (words : List String) : Prop :=
  p.takesValue = false → (∀ name ∈ p.allNames, 2 < name.length) → ∃ name ∈ p.allNames, name ∈ words

theorem Parameter.Spelled.mono {p : Parameter} {words words' : List String} (h : p.Spelled words)
    (hw : words ⊆ words') : p.Spelled words' := by
  intro hv hl
  obtain ⟨name, hname, hmem⟩ := h hv hl
  exact ⟨name, hname, hw hmem⟩

variable {ps : List Parameter} {p : Parameter} {m : Mention} {name word : String}
  {words rest : List String} {ms : List (Parameter × Mention)}

theorem find?_eq_some (h : find? ps name = some (p, m)) : p ∈ ps ∧ name ∈ p.allNames := by
  obtain ⟨q, hq, hfound⟩ := List.exists_of_findSome?_eq_some h
  split at hfound
  · next hname =>
    cases hfound
    exact ⟨hq, List.mem_append_left _ (List.contains_iff_mem.1 hname)⟩
  · split at hfound
    · next hname =>
      cases hfound
      exact ⟨hq, List.mem_append_right _ (List.contains_iff_mem.1 hname)⟩
    · cases hfound

theorem splitValue_of_none (h : (splitValue word).2 = none) : (splitValue word).1 = word := by
  rw [splitValue] at h ⊢
  split at h
  · rfl
  · cases h

/-- What a step finds is among the options and spelled out, and it leaves some of the words. -/
structure Finds (ps : List Parameter) (words : List String) (ms : List (Parameter × Mention))
    (left : List String) : Prop where
  mentions : ∀ m ∈ ms, m.1 ∈ ps ∧ m.1.Spelled words
  left : left ⊆ words

theorem Finds.mono {left : List String} (h : Finds ps rest ms left) (hw : rest ⊆ words) :
    Finds ps words ms left where
  mentions m hm := ⟨(h.mentions m hm).1, (h.mentions m hm).2.mono hw⟩
  left := List.Subset.trans h.left hw

theorem Finds.one (hp : p ∈ ps) (hs : p.Spelled words) (hr : rest ⊆ words) :
    Finds ps words [(p, m)] rest :=
  ⟨List.forall_mem_singleton.2 ⟨hp, hs⟩, hr⟩

theorem longStep_finds {value : Option String} {left : List String}
    (h : longStep p m name value rest = .ok (ms, left)) (hp : p ∈ ps) (hname : name ∈ p.allNames)
    (hvalue : value = none → name = word) : Finds ps (word :: rest) ms left := by
  unfold longStep at h
  cases hv : p.takesValue with
  | true =>
    have hspelled : p.Spelled (word :: rest) := by
      intro hno
      rw [hv] at hno
      cases hno
    simp only [hv, if_true] at h
    split at h
    · cases h
      exact .one hp hspelled (List.subset_cons_self word rest)
    · next v left _ =>
      cases h
      exact .one hp hspelled fun s hs => List.mem_cons_of_mem _ (List.mem_cons_of_mem _ hs)
    · cases h
  | false =>
    simp only [hv, Bool.false_eq_true, if_false] at h
    split at h
    · cases h
    · cases h
      refine .one hp (fun _ _ => ⟨name, hname, ?_⟩) (List.subset_cons_self word rest)
      rw [hvalue rfl]
      exact List.mem_cons_self

theorem spelled_of_short {c : Char} (h : String.ofList ['-', c] ∈ p.allNames) :
    p.Spelled words := by
  intro _ hlong
  have hlength := hlong _ h
  rw [String.length_ofList] at hlength
  exact absurd hlength (Nat.lt_irrefl 2)

theorem shortSteps_finds {cs : List Char} {left : List String}
    (h : shortSteps ps cs rest = .ok (ms, left)) : Finds ps rest ms left := by
  induction cs generalizing ms with
  | nil =>
    cases h
    exact ⟨List.forall_mem_nil _, List.Subset.refl _⟩
  | cons c cs ih =>
    rw [shortSteps] at h
    split at h
    · cases h
    · next p m hfound =>
      obtain ⟨hp, hname⟩ := find?_eq_some hfound
      have hspelled : p.Spelled rest := spelled_of_short hname
      split at h
      · split at h
        · cases h
        · cases h
          exact .one hp hspelled (List.subset_cons_self _ _)
        · cases h
          exact .one hp hspelled (List.Subset.refl _)
      · obtain ⟨⟨ms', left'⟩, hsteps, h⟩ := bind_eq_ok h
        cases h
        have hfinds := ih hsteps
        exact ⟨List.forall_mem_cons.2 ⟨⟨hp, hspelled⟩, hfinds.mentions⟩, hfinds.left⟩

theorem step_finds {left : List String} (h : step ps word rest = .ok (ms, left)) :
    Finds ps (word :: rest) ms left := by
  unfold step at h
  dsimp only at h
  split at h
  · next p m hfound =>
    split at hfound
    · obtain ⟨hp, hname⟩ := find?_eq_some hfound
      exact longStep_finds h hp hname splitValue_of_none
    · cases hfound
  · split at h
    · cases h
    · exact (shortSteps_finds h).mono (List.subset_cons_self word rest)

/-- The mentions of a command line are spelled out in it, and its arguments are among its words. -/
theorem scan_finds {anywhere : Bool} {n : Nat} {parsed : Parsed}
    (h : scan ps anywhere n words = .ok parsed) :
    Finds ps words parsed.mentions parsed.arguments := by
  induction n generalizing words parsed with
  | zero =>
    cases h
    exact ⟨List.forall_mem_nil _, List.Subset.refl _⟩
  | succ n ih =>
    cases words with
    | nil =>
      cases h
      exact ⟨List.forall_mem_nil _, List.Subset.refl _⟩
    | cons word rest =>
      rw [scan] at h
      split at h
      · cases h
        exact ⟨List.forall_mem_nil _, List.subset_cons_self word rest⟩
      split at h
      · obtain ⟨⟨ms, left⟩, hstep, h⟩ := bind_eq_ok h
        obtain ⟨later, hscan, h⟩ := bind_eq_ok h
        cases h
        -- the rest of the scan is about words that the step left
        have hfirst := step_finds hstep
        have hlater := (ih hscan).mono hfirst.left
        exact ⟨List.forall_mem_append.2 ⟨hfirst.mentions, hlater.mentions⟩, hlater.left⟩
      split at h
      · obtain ⟨later, hscan, h⟩ := bind_eq_ok h
        cases h
        have hlater := (ih hscan).mono (List.subset_cons_self word rest)
        exact ⟨hlater.mentions, List.cons_subset.2 ⟨List.mem_cons_self, hlater.left⟩⟩
      · cases h
        exact ⟨List.forall_mem_nil _, List.Subset.refl _⟩

/-- What a mention of an option, or a value of it, may change. -/
inductive Parameter.Makes (p : Parameter) : (Invocation → Invocation) → Prop
  | unchanged : Makes p id
  | text {setting : String → Setting Float} (h : p.action = .text setting) (value : String) :
    Makes p (·.set (setting value))
  | integer {setting : Int → Setting Float} (h : p.action = .integer setting) {value : String}
    {n : Int} (hn : Number.readInteger value = .ok n) : Makes p (·.set (setting n))
  | decimal {setting : Float → Setting Float} (h : p.action = .decimal setting) (x : Float) :
    Makes p (·.set (setting x))
  | switch {change : Bool → Invocation → Invocation} (h : p.action = .switch change) (b : Bool) :
    Makes p (change b)
  | count {change : Nat → Invocation → Invocation} (h : p.action = .count change) (n : Nat) :
    Makes p (change n)

section

variable {f : Invocation → Invocation} {R : Invocation → Prop} {i i' : Invocation}

theorem ofValue_makes {value : String} (h : p.ofValue value = .ok f) : p.Makes f := by
  unfold Parameter.ofValue at h
  split at h
  · next ha =>
    cases h
    exact .text ha value
  · next ha =>
    split at h <;> cases h
    next hn => exact .integer ha hn
  · next ha =>
    split at h <;> cases h
    exact .decimal ha _
  · next ha =>
    split at h <;> cases h
    exact .switch ha _
  · next ha =>
    split at h <;> cases h
    exact .count ha _

theorem change_makes {ms : List Mention} (h : Parsed.change p ms = .ok f) : p.Makes f := by
  unfold Parsed.change at h
  split at h
  · next ha =>
    cases h
    exact .count ha _
  · next ha => split at h <;> cases h <;> exact .switch ha _
  · split at h
    · exact ofValue_makes h
    · cases h
      exact .unchanged

theorem applyAll_keeps {changes : List (Except UsageProblem (Invocation → Invocation))}
    (h : applyAll changes i = .ok i') (hi : R i)
    (hR : ∀ change ∈ changes, ∀ f, change = .ok f → ∀ i, R i → R (f i)) : R i' := by
  induction changes generalizing i with
  | nil =>
    cases h
    exact hi
  | cons change changes ih =>
    obtain ⟨hchange, hchanges⟩ := List.forall_mem_cons.1 hR
    rw [applyAll, List.foldlM_cons] at h
    obtain ⟨i₁, hi₁, h⟩ := bind_eq_ok h
    obtain ⟨f, hf, hi₁⟩ := bind_eq_ok hi₁
    cases hi₁
    exact ih h (hchange f hf i hi) hchanges

theorem mem_foldl_mentioned {qs : List Parameter}
    (h : p ∈ ms.foldl (fun ps m => if ps.any (·.names == m.1.names) then ps else ps ++ [m.1]) qs) :
    p ∈ qs ∨ ∃ m ∈ ms, m.1 = p := by
  induction ms generalizing qs with
  | nil => exact .inl h
  | cons m ms ih =>
    rw [List.foldl_cons] at h
    rcases ih h with hp | ⟨m', hm', rfl⟩
    · split at hp
      · exact .inl hp
      · rcases List.mem_append.1 hp with hp | hp
        · exact .inl hp
        · exact .inr ⟨m, List.mem_cons_self, (List.mem_singleton.1 hp).symm⟩
    · exact .inr ⟨m', List.mem_cons_of_mem m hm', rfl⟩

theorem mem_mentioned {parsed : Parsed} (h : p ∈ mentioned parsed) :
    ∃ m ∈ parsed.mentions, m.1 = p := by
  rcases mem_foldl_mentioned h with hp | hm
  · cases hp
  · exact hm

/-- What the mentioned options keep, and the others as the environment has them, the whole command
line keeps. -/
theorem invocation_keeps {c : Command} {e : Environment} (h : c.invocation e words = .ok i)
    (hstart : R {}) (hkeys : ∀ i keys, R i → R { i with keys })
    (hmentioned : ∀ p ∈ c.options, p.Spelled words → ∀ f, p.Makes f → ∀ i, R i → R (f i))
    (hothers : ∀ p ∈ c.options, ∀ value, standIn e p = some value →
      ∀ f, p.Makes f → ∀ i, R i → R (f i)) : R i := by
  rw [Command.invocation] at h
  obtain ⟨parsed, hparse, h⟩ := bind_eq_ok h
  obtain ⟨i₁, hfirst, h⟩ := bind_eq_ok h
  obtain ⟨⟨keys, rest⟩, -, h⟩ := bind_eq_ok h
  obtain ⟨i₂, hrest, h⟩ := bind_eq_ok h
  have hfinds := scan_finds hparse
  have hi₁ : R i₁ := by
    refine applyAll_keeps hfirst hstart ?_
    intro change hchange f hf
    obtain ⟨p, hp, rfl⟩ := List.mem_map.1 hchange
    obtain ⟨m, hm, rfl⟩ := mem_mentioned hp
    obtain ⟨hoption, hspelled⟩ := hfinds.mentions m hm
    exact hmentioned m.1 hoption hspelled f (change_makes hf)
  have hi₂ : R i₂ := by
    refine applyAll_keeps hrest (hkeys i₁ keys hi₁) ?_
    intro change hchange f hf
    obtain ⟨p, hp, rfl⟩ := List.mem_map.1 hchange
    cases hv : standIn e p with
    | none =>
      rw [hv] at hf
      cases hf
      exact fun _ hi => hi
    | some value =>
      rw [hv] at hf
      exact hothers p (List.mem_filter.1 hp).1 value hv f (ofValue_makes hf)
  split at h
  · cases h
    exact hi₂
  · cases h

theorem mem_options {c : Command} (hp : p ∈ c.options) : p = Options.approve ∨
    p ∈ Options.valueSize :: Options.maxRounds :: (Options.capacity ++ Options.waiting ++
      Options.store) := by
  cases c <;>
    simp only [Command.options, Options.store, List.mem_cons, List.mem_append] at hp ⊢ <;> tauto

end

/-- Only an integer sets the number of rounds. -/
def Action.Rounds : Action → Prop
  | .text setting => ∀ s n, setting s ≠ .maxRounds n
  | .integer setting => ∀ m n, setting m = .maxRounds n → m = n
  | .decimal setting => ∀ x n, setting x ≠ .maxRounds n
  | .switch change =>
    ∀ b i n, Setting.maxRounds n ∈ (change b i).settings → Setting.maxRounds n ∈ i.settings
  | .count change =>
    ∀ k i n, Setting.maxRounds n ∈ (change k i).settings → Setting.maxRounds n ∈ i.settings

theorem options_rounds {c : Command} (hp : p ∈ c.options) : p.action.Rounds := by
  have hrounds : ∀ p ∈ Options.approve :: Options.valueSize :: Options.maxRounds ::
      (Options.capacity ++ Options.waiting ++ Options.store), p.action.Rounds := by
    simp [Options.approve, Options.valueSize, Options.maxRounds, Options.capacity,
      Options.waiting, Options.store, Options.table, Options.client, Options.output, Action.Rounds,
      Invocation.set]
  rcases mem_options hp with rfl | hp
  · exact hrounds _ List.mem_cons_self
  · exact hrounds p (List.mem_cons_of_mem _ hp)

/-- The numbers of rounds among the settings can be written out. -/
def Invocation.RoundsFit (i : Invocation) : Prop :=
  ∀ n, .maxRounds n ∈ i.settings → Number.fits Number.maxDigits n = true

theorem Invocation.mem_set {i : Invocation} {added s : Setting Float} :
    s ∈ (i.set added).settings ↔ s ∈ i.settings ∨ s = added := by
  rw [Invocation.set, List.mem_append, List.mem_singleton]

theorem Parameter.Makes.roundsFit {p : Parameter} {f : Invocation → Invocation} (hf : p.Makes f)
    (hp : p.action.Rounds) {i : Invocation} (h : i.RoundsFit) : (f i).RoundsFit := by
  intro n hn
  cases hf with
  | unchanged => exact h n hn
  | text ha value =>
    rw [ha] at hp
    exact (Invocation.mem_set.1 hn).elim (h n) fun he => absurd he.symm (hp value n)
  | integer ha hread =>
    rw [ha] at hp
    rcases Invocation.mem_set.1 hn with hn | he
    · exact h n hn
    · rw [← hp _ n he.symm]
      exact Number.fits_of_readInteger hread
  | decimal ha x =>
    rw [ha] at hp
    exact (Invocation.mem_set.1 hn).elim (h n) fun he => absurd he.symm (hp x n)
  | switch ha b =>
    rw [ha] at hp
    exact h n (hp b i n hn)
  | count ha k =>
    rw [ha] at hp
    exact h n (hp k i n hn)

theorem invocation_roundsFit {c : Command} {e : Environment} {i : Invocation}
    (h : c.invocation e words = .ok i) : i.RoundsFit :=
  invocation_keeps h (R := Invocation.RoundsFit) (fun _ hn => absurd hn List.not_mem_nil)
    (fun _ _ hi => hi) (fun _ hp _ _ hf _ hi => hf.roundsFit (options_rounds hp) hi)
    fun _ hp _ _ _ hf _ hi => hf.roundsFit (options_rounds hp) hi

theorem splitCommand_subset {α : Type} {named? : String → Option α} {a : α}
    (h : splitCommand ps named? words = .ok (some (a, rest))) : rest ⊆ words := by
  rw [splitCommand] at h
  obtain ⟨parsed, hparse, h⟩ := bind_eq_ok h
  split at h
  · cases h
  split at h
  · cases h
  · next word left hargs =>
    have hsubset := (scan_finds hparse).left
    rw [hargs] at hsubset
    split at h
    · cases h
      exact List.Subset.trans (List.subset_cons_self word _) hsubset
    · obtain ⟨misplaced, -, h⟩ := bind_eq_ok h
      split at h <;> cases h

end CommandLine

end TableBench
