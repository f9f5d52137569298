import TableBench.Proofs.Batch.Draining
import TableBench.Proofs.Session.FailedStart

namespace TableBench

open Run

theorem Run.Sends.first {T α : Type} {target : Target} {x : Run T α} {w : World T}
    {p : Event → Prop} (h : Sends target x w) (hp : Emits p x) :
    ∃ request answer es, p (.call target request answer) ∧
      (final x w).events = w.events ++ .call target request answer :: es := by
  obtain ⟨request, answer, es, hes⟩ := h
  obtain ⟨es', hes', hall⟩ := hp.adds w
  have he : es' = .call target request answer :: es :=
    List.append_cancel_left (hes'.symm.trans hes)
  exact ⟨request, answer, es, hall _ (he ▸ List.mem_cons_self), hes⟩

namespace Event

end Event

namespace Key

end Key

namespace Batch

/-- What a refused batch ends in. The error names the number of rounds, the repeated keys, or the
number of keys and the limit; a number of rounds with too many digits cannot be named. -/
inductive Problem.Told : Problem → Failure → Prop
  | rounds {n : Int} (h : n.natAbs < 10 ^ 4300) :
    Told (.rounds n) (.reported (.invalidArgument
      (.text ("max_rounds must be at least 1, got " ++ toString n))) false)
  | unwritable {n : Int} (h : 10 ^ 4300 ≤ n.natAbs) :
    Told (.rounds n) (.stray (.badValue ("Exceeds the limit (4300 digits) for integer string " ++
      "conversion; use sys.set_int_max_str_digits() to increase the limit")))
  | duplicates (keys : List String) :
    Told (.duplicates keys) (.reported (.invalidArgument
      (.text ("Batch contains duplicate keys: " ++ ", ".intercalate keys))) false)
  | empty : Told .empty (.reported (.invalidArgument
      (.text "Batch must contain at least one key")) false)
  | tooMany (n limit : Nat) :
    Told (.tooMany n limit) (.reported (.invalidArgument
      (.text ("Batch of " ++ toString n ++ " keys exceeds the limit of " ++ toString limit))) false)

variable {keys : List String} {limit : Nat} {rounds : Int} {p : Problem}

variable {T : Type} [TimeScale T] (c : Client) (table attributeName : String)
  (consistent : Document) (w : World T)

end Batch

end TableBench
