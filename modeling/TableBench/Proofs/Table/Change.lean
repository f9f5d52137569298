import TableBench.Proofs.Run.Emission

namespace TableBench

open Run

namespace Event

def changesTable : Event → Bool
  | call _ (.createTable _) _ | call _ (.deleteTable _) _ => true
  | _ => false

theorem changesTable_of_aside {e : Event} (h : e.isCall = false) : e.changesTable = false := by
  cases e with
  | call => cases h
  | _ => rfl

def ToStore (e : Event) : Prop := ∃ request answer, e = .call .store request answer

def IsLook (e : Event) : Prop := ∃ table answer, e = .call .store (.describeTable table) answer

theorem IsLook.toStore {e : Event} (h : e.IsLook) : e.ToStore := by
  obtain ⟨table, answer, rfl⟩ := h
  exact ⟨_, _, rfl⟩

theorem IsLook.changesTable {e : Event} (h : e.IsLook) : e.changesTable = false := by
  obtain ⟨table, answer, rfl⟩ := h
  rfl

end Event

def changes (es : List Event) : List Event := es.filter Event.changesTable

theorem changes_append (es es' : List Event) : changes (es ++ es') = changes es ++ changes es' :=
  List.filter_append es es'

theorem changes_eq_nil {es : List Event} (h : ∀ e ∈ es, e.changesTable = false) :
    changes es = [] := by
  rw [changes, List.filter_eq_nil_iff]
  intro e he
  rw [h e he]
  exact Bool.false_ne_true

/-- The request was sent to the store, and that is all. -/
def Sent (request : Request) (es : List Event) : Prop :=
  ∃ answer, es = [.call .store request answer]

namespace Table.Lifecycle

variable {T : Type} [TimeScale T] (l : Lifecycle T) (w : World T)

theorem request_since {α : Type} (request : Request) (read : Document → Except Failure α) :
    w.Since (final (do Run.ofExcept (read (← call .store request)) : Run T α) w) (Sent request) :=
  Emits.since_before (s := w) (fun _ => inferInstance) (call_since .store request w)

theorem create_since (d : Definition) :
    w.Since (final (l.create d) w) (Sent (.createTable d.request)) := by
  have hrequest (w : World T) :=
    request_since w (.createTable d.request) (·.require "TableDescription")
  rw [create, final_bind_of_ok (log_apply _ _ _ w)]
  refine Emits.since_before (s := w.logged _) (fun r => ?_) ?_
  · split <;> infer_instance
  · rw [final_attempt]
    exact hrequest _

theorem describe_emits (tableName : String) : Emits Event.IsLook (l.describe tableName) :=
  .describe fun answer => ⟨_, answer, rfl⟩

theorem await_emits (goal : Goal) (tableName : String) :
    Emits Event.IsLook (l.await goal tableName) :=
  .await (fun answer => ⟨_, answer, rfl⟩) goal

theorem drop_since (tableName : String) :
    w.Since (final (l.drop tableName) w) fun es => ∃ sent looks, es = sent ++ looks ∧
      Sent (.deleteTable (.text tableName)) sent ∧ ∀ e ∈ looks, e.IsLook := by
  have hrequest (w : World T) :=
    request_since w (.deleteTable (.text tableName)) (·.require "TableDescription")
  have hawait := l.await_emits .deleted tableName
  rw [drop, final_bind_of_ok (log_apply _ _ _ w)]
  refine since_bind (s := w.logged _) (hrequest _) (fun _ => Emits.adds)
    (List.forall_mem_nil Event.IsLook) ?_
  intro sent looks hsent hlooks
  exact ⟨sent, looks, rfl, hsent, hlooks⟩

end Table.Lifecycle

end TableBench
