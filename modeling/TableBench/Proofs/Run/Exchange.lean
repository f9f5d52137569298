import TableBench.Proofs.Run.Step

namespace TableBench

/-- Requests were made with these events, and each took an outcome off the script if there was
one. -/
structure World.Exchanged {T : Type} (w : World T) (es : List Event) (w' : World T) : Prop where
  events : w'.events = w.events ++ es
  script : w'.script = w.script.drop es.length
  source : w'.source = w.source

namespace World.Exchanged

variable {T : Type} {w w₁ w₂ : World T} {es es' : List Event}

theorem refl (w : World T) : w.Exchanged [] w := ⟨(List.append_nil _).symm, rfl, rfl⟩

theorem trans (h : w.Exchanged es w₁) (h' : w₁.Exchanged es' w₂) : w.Exchanged (es ++ es') w₂ where
  events := by rw [h'.events, h.events, List.append_assoc]
  script := by rw [h'.script, h.script, List.drop_drop, List.length_append]
  source := h'.source.trans h.source

theorem logged (h : w.Exchanged es w₁) (rs : List LogRecord) : w.Exchanged es (w₁.logged rs) :=
  ⟨h.events, h.script, h.source⟩

theorem waited [TimeScale T] (h : w.Exchanged es w₁) (t : T) (passed : Option T) :
    w.Exchanged es (w₁.waited t passed) :=
  ⟨h.events, h.script, h.source⟩

theorem unanswered (hs : w.script = []) (rs : List LogRecord) (target : Target)
    (request : Request) : w.Exchanged [.call target request none]
      ((w.logged rs).noted (.call target request none)) where
  events := rfl
  script := by simp [hs]
  source := rfl

theorem answered [TimeScale T] {o : Outcome T} {script : List (Outcome T)}
    (hs : w.script = o :: script) (rs : List LogRecord) (target : Target) (request : Request) :
    w.Exchanged [.call target request (some o.answer)]
      ((w.logged rs).answered target request o script) where
  events := rfl
  script := by rw [hs]; rfl
  source := rfl

end World.Exchanged

end TableBench
