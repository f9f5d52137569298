import TableBench.Batch
import TableBench.Proofs.Run.Growth

namespace TableBench

namespace Item

/-- The item is the one that a request about the key finds. -/
def Carries (attributeName key : String) (item : Document) : Prop :=
  item.get? attributeName = (address attributeName key).get? attributeName

theorem get?_address (attributeName key : String) :
    (address attributeName key).get? attributeName = some (.string key) := by
  simp only [address, Document.get?, Document.fields?, Option.bind_some, Fields.lookup_cons,
    if_true]

theorem get?_make (attributeName key payload name : String) :
    (make attributeName key payload).get? name =
      if name = valueAttribute then some (.string payload)
      else if name = attributeName then some (.string key) else none := by
  simp only [make, Document.get?, Document.fields?, Option.bind_some, Fields.lookup_set,
    Fields.lookup_cons, List.lookup_nil]

theorem string_inj {s t : String} (h : Document.string s = Document.string t) : s = t := by
  simpa only [Document.string, Document.object.injEq, List.cons.injEq, Prod.mk.injEq,
    Document.text.injEq, true_and, and_true] using h

theorem carries_make_iff (attributeName key payload : String) :
    Carries attributeName key (make attributeName key payload) ↔
      attributeName ≠ valueAttribute ∨ payload = key := by
  rw [Carries, get?_address, get?_make]
  by_cases h : attributeName = valueAttribute
  · rw [if_pos h, Option.some.injEq]
    constructor
    · intro he
      exact .inr (string_inj he)
    · rintro (hn | rfl)
      · exact absurd h hn
      · rfl
  · rw [if_neg h, if_pos rfl]
    exact ⟨fun _ => .inl h, fun _ => rfl⟩

theorem make_eq {attributeName : String} (h : attributeName ≠ valueAttribute)
    (key payload : String) :
    make attributeName key payload =
      .object [(attributeName, .string key), (valueAttribute, .string payload)] := by
  simp only [make, Fields.set, if_neg h]

end Item

theorem map_mapIdx {α β γ : Type} (g : β → γ) (f : Nat → α → β) (as : List α) :
    (as.mapIdx f).map g = as.mapIdx fun i a => g (f i a) := by
  simp only [List.mapIdx_eq_zipIdx_map, List.map_map, Function.comp_def]

namespace Batch

variable {T : Type}

/-- Payloads are taken in the order of the keys, one for each. -/
theorem putRequests_apply (attributeName : String) (keys : List String) (w : World T) :
    putRequests attributeName keys w =
      .ok
        (keys.mapIdx fun i key =>
          putRequest attributeName key (w.source.value (w.source.drawn + i)))
        (w.drew keys.length) := by
  induction keys generalizing w with
  | nil => rfl
  | cons key keys ih =>
    rw [putRequests, Run.bind_of_ok (Run.draw_apply w), Run.bind_of_ok (ih _)]
    have hw : (w.drew 1).drew keys.length = w.drew (keys.length + 1) := by
      simp only [World.drew, Nat.add_assoc, Nat.add_comm 1]
    have hp (i : Nat) : w.source.drawn + 1 + i = w.source.drawn + (i + 1) := by omega
    simp only [List.mapIdx_cons, List.length_cons, World.drew_source_value,
      World.drew_source_drawn, Nat.add_zero, hp, ← hw]
    rfl

end Batch

namespace Item

variable {T : Type} [TimeScale T] (c : Client) (table attributeName key : String) (w : World T)

theorem events_final_write :
    ∃ answer, (Run.final (write c table attributeName key) w).events =
      w.events ++ [.call c.dataTarget (.putItem (.text table)
        (make attributeName key (w.source.value w.source.drawn))) answer] := by
  rw [write, Run.final_bind_of_ok (Run.draw_apply w),
    Run.final_bind_of_still _ fun _ _ => rfl]
  exact Run.events_final_call _ _ _

theorem events_final_read (consistent : Document) :
    ∃ answer, (Run.final (read c table attributeName key consistent) w).events =
      w.events ++ [.call c.dataTarget
        (.getItem (.text table) (address attributeName key) consistent) answer] := by
  rw [read, Run.final_bind_of_still _ fun _ _ => rfl, Client.getItem,
    Run.final_bind_of_still _ ?_]
  · exact Run.events_final_call _ _ _
  · intro response w
    cases response.requireFields with
    | ok fs =>
      rw [Run.ofExcept_ok, pure_bind]
      split <;> rfl
    | error e => rfl

/-- An item is stored under its key unless keys are kept where payloads go: in that case it is
stored under its payload. -/
theorem written_items_carry_key_iff (keys : List String) (consistent : Document) :
    (∃ items : List Document,
      Batch.putRequests attributeName keys w =
        .ok (items.map fun item => .object [("Item", item)]) (w.drew keys.length) ∧
      items.length = keys.length ∧
      ∀ i (hi : i < items.length) (hk : i < keys.length),
        (items[i].get? attributeName = some (.string keys[i]) ↔
          attributeName ≠ valueAttribute ∨
            w.source.value (w.source.drawn + i) = keys[i])) ∧
    ∃ item written sought,
      (Run.final (write c table attributeName key) w).events =
        w.events ++ [.call c.dataTarget (.putItem (.text table) item) written] ∧
      (Run.final (read c table attributeName key consistent) w).events =
        w.events ++ [.call c.dataTarget
          (.getItem (.text table) (address attributeName key) consistent) sought] ∧
      (Carries attributeName key item ↔
        attributeName ≠ valueAttribute ∨ w.source.value w.source.drawn = key) := by
  constructor
  · refine ⟨keys.mapIdx fun i key =>
      make attributeName key (w.source.value (w.source.drawn + i)), ?_, ?_, ?_⟩
    · rw [Batch.putRequests_apply, map_mapIdx]
      rfl
    · exact List.length_mapIdx
    · intro i hi hk
      rw [List.getElem_mapIdx, ← get?_address attributeName keys[i]]
      exact carries_make_iff attributeName keys[i] _
  · obtain ⟨written, hw⟩ := events_final_write c table attributeName key w
    obtain ⟨sought, hs⟩ := events_final_read c table attributeName key w consistent
    exact ⟨_, written, sought, hw, hs, carries_make_iff attributeName key _⟩

end Item

end TableBench
