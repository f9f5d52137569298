import TableBench.Proofs.CommandLine.Visit

namespace TableBench

open Run

def Event.target? : Event → Option Target
  | call target .. | close target => some target
  | openStore .. => some .store
  | openAccelerator .. => some .accelerator
  | resolve .. => none

def concerning (t : Target) (es : List Event) : List Event := es.filter (·.target? == some t)

/-- The service was not touched, or a client of it was opened, then used, and closed last of all. -/
def Tidy (t : Target) (es : List Event) : Prop :=
  concerning t es = [] ∨ ∃ opening requests,
    concerning t es = opening :: (requests ++ [.close t]) ∧ opening.opened? = some t ∧
      ∀ e ∈ requests, e.isCall = true

section

variable {t target : Target} {es : List Event}

theorem concerning_append (t : Target) (es es' : List Event) :
    concerning t (es ++ es') = concerning t es ++ concerning t es' :=
  List.filter_append es es'

theorem concerning_eq_nil (h : ∀ e ∈ es, e.target? ≠ some t) : concerning t es = [] := by
  rw [concerning, List.filter_eq_nil_iff]
  intro e he heq
  exact h e he (beq_iff_eq.1 heq)

theorem Event.IsSearch.target? {e : Event} (h : e.IsSearch) : e.target? = none := by
  obtain ⟨profile, region, rfl⟩ := h
  rfl

theorem Event.ToStore.target? {e : Event} (h : e.ToStore) : e.target? = some .store := by
  obtain ⟨request, answer, rfl⟩ := h
  rfl

theorem Event.Through.target? {c : Client} {e : Event} (h : e.Through c) :
    e.target? = some c.dataTarget := by
  obtain ⟨request, answer, rfl, -⟩ := h
  rfl

theorem Event.target?_of_opened? {e : Event} (h : e.opened? = some t) : e.target? = some t := by
  cases e with
  | openStore => exact h
  | openAccelerator => exact h
  | _ => cases h

theorem concerning_searches (h : ∀ e ∈ es, e.IsSearch) : concerning t es = [] := by
  apply concerning_eq_nil
  intro e he
  rw [(h e he).target?]
  exact nofun

theorem concerning_others (h : ∀ e ∈ es, e.target? = some target) (ht : target ≠ t) :
    concerning t es = [] := by
  apply concerning_eq_nil
  intro e he heq
  rw [h e he] at heq
  exact ht (Option.some.inj heq)

theorem Opens.concerning_of_ne (h : Opens target es) (ht : target ≠ t) : concerning t es = [] := by
  obtain ⟨searches, e, rfl, he, hsearches⟩ := h
  have htarget : ∀ e' ∈ [e], e'.target? = some target :=
    List.forall_mem_singleton.2 (Event.target?_of_opened? he)
  rw [concerning_append, concerning_searches hsearches, concerning_others htarget ht]
  rfl

/-- The parts of a tidy use: what comes before the opening and what follows the requests have
nothing to do with the service, up to the closing. -/
theorem tidy_of_parts {before opens requests after : List Event}
    (hbefore : concerning t before = []) (hopens : Opens t opens)
    (hrequests : ∀ e ∈ requests, e.target? = some t → e.isCall = true)
    (hafter : concerning t after = [.close t]) :
    Tidy t (before ++ (opens ++ (requests ++ after))) := by
  obtain ⟨searches, e, rfl, he, hsearches⟩ := hopens
  have htarget : (e.target? == some t) = true := beq_iff_eq.2 (Event.target?_of_opened? he)
  have hopening : concerning t [e] = [e] := by
    simp only [concerning, List.filter, htarget]
  refine .inr ⟨e, concerning t requests, ?_, he, ?_⟩
  · rw [concerning_append, concerning_append, concerning_append, concerning_append, hbefore,
      concerning_searches hsearches, hopening, hafter]
    rfl
  · intro e' he'
    obtain ⟨hmem, ht⟩ := List.mem_filter.1 he'
    exact hrequests e' hmem (beq_iff_eq.1 ht)

end

namespace CommandLine

theorem Visit.tidy {inner es : List Event} (h : Visit inner es) (t : Target) : Tidy t es := by
  cases h with
  | nothing h => exact .inl (concerning_searches h)
  | @store es inner h₁ h =>
    cases t with
    | store =>
      refine tidy_of_parts (rfl : concerning .store [] = []) h₁ ?_ rfl
      intro e he ht
      rcases h e he with ⟨request, answer, rfl⟩ | hsearch
      · rfl
      · rw [hsearch.target?] at ht
        cases ht
    | accelerator =>
      have hes : concerning .accelerator es = [] := h₁.concerning_of_ne nofun
      have hinner : concerning .accelerator inner = [] := by
        apply concerning_eq_nil
        intro e he ht
        rcases h e he with hstore | hsearch
        · rw [hstore.target?] at ht
          cases ht
        · rw [hsearch.target?] at ht
          cases ht
      refine .inl ?_
      rw [concerning_append, hes, concerning_append, hinner]
      rfl
  | @both es₁ es₂ es₃ es₄ h₁ h₂ h₃ h₄ =>
    cases t with
    | store =>
      have hes₃ : concerning .store es₃ = [] := h₃.concerning_of_ne nofun
      have hes₄ : concerning .store es₄ = [] :=
        concerning_others (fun e he => (h₄ e he).target?) nofun
      have hrequests : ∀ e ∈ es₂, e.target? = some .store → e.isCall = true := by
        intro e he _
        obtain ⟨request, answer, rfl⟩ := h₂ e he
        rfl
      have hafter : concerning .store (es₃ ++ (es₄ ++ [.close .store, .close .accelerator])) =
          [.close .store] := by
        rw [concerning_append, hes₃, concerning_append, hes₄]
        rfl
      change Tidy .store ([] ++ _)
      exact tidy_of_parts rfl h₁ hrequests hafter
    | accelerator =>
      have hes₁ : concerning .accelerator es₁ = [] := h₁.concerning_of_ne nofun
      have hes₂ : concerning .accelerator es₂ = [] :=
        concerning_others (fun e he => (h₂ e he).target?) nofun
      have hbefore : concerning .accelerator (es₁ ++ es₂) = [] := by
        rw [concerning_append, hes₁, hes₂]
        rfl
      rw [← List.append_assoc]
      refine tidy_of_parts hbefore h₃ ?_ rfl
      intro e he _
      obtain ⟨request, answer, rfl, -⟩ := h₄ e he
      rfl

variable (w : World Float) (payloads : Payloads) (time : String) (words : List String)

theorem accepts_or_idle : (∃ c i, Accepts w.environment words c i) ∨
    (run w payloads time words).world = w := by
  cases hgroup : splitCommand [Options.version]
      (fun word => if word = groupName then some () else none) words with
  | error p => exact .inr (by simp only [run, hgroup]; rfl)
  | ok found =>
    cases found with
    | none => exact .inr (by simp only [run, hgroup]; rfl)
    | some found =>
      obtain ⟨⟨⟩, rest⟩ := found
      cases hcommand : splitCommand [] Command.ofName? rest with
      | error p => exact .inr (by simp only [run, hgroup, runGroup, hcommand]; rfl)
      | ok found =>
        cases found with
        | none => exact .inr (by simp only [run, hgroup, runGroup, hcommand]; rfl)
        | some found =>
          obtain ⟨c, args⟩ := found
          cases hi : c.invocation w.environment args with
          | error p =>
            exact .inr (by simp only [run, hgroup, runGroup, hcommand, runCommand, hi]; rfl)
          | ok i => exact .inl ⟨c, i, rest, args, hgroup, hcommand, hi⟩

/-- Whatever a run of the program ends in, each client that it opened was closed exactly once, after
everything else that was done with it, and no other was closed. -/
theorem run_closes_what_it_opens : ∃ es,
    (run w payloads time words).world.events = w.events ++ es ∧ ∀ t, Tidy t es := by
  obtain ⟨c, i, h⟩ | hidle := accepts_or_idle w payloads time words
  · obtain ⟨es, hes, inner, hvisit, -⟩ := Command.body_visits c i payloads w
    exact ⟨es, by rw [world_run h, hes], hvisit.tidy⟩
  · exact ⟨[], by rw [hidle, List.append_nil], fun t => .inl rfl⟩

end CommandLine

end TableBench
