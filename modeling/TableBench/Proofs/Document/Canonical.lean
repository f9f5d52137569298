import Mathlib.Data.List.Nodup
import TableBench.Proofs.Document.Reading
import TableBench.Proofs.Number.Numeral

namespace TableBench.Document

mutual

/-- The documents are equal up to the order of the fields of every object. -/
def Alike : Document → Document → Prop
  | list ds, list es => AlikeMembers ds es
  | object fs, object gs => AlikeFields fs gs
  | d, e => d = e

def AlikeMembers : List Document → List Document → Prop
  | [], es => es = []
  | d :: ds, es => ∃ e es', es = e :: es' ∧ d.Alike e ∧ AlikeMembers ds es'

/-- The fields are alike one by one when those of the second object are put in another order. -/
def AlikeFields : List (String × Document) → List (String × Document) → Prop
  | [], gs => gs = []
  | (k, d) :: fs, gs =>
    ∃ e gs', gs.Perm ((k, e) :: gs') ∧ d.Alike e ∧ AlikeFields fs gs'

end

/- What sorting does to the parts of a document. -/

theorem sortedList_eq_map (ds : List Document) : sortedList ds = ds.map sorted := by
  induction ds with
  | nil => rfl
  | cons d ds ih => rw [sortedList, ih, List.map_cons]

theorem sortedFields_eq_map (fs : Fields) :
    sortedFields fs = fs.map fun f => (f.1, f.2.sorted) := by
  induction fs with
  | nil => rfl
  | cons f fs ih => rw [sortedFields, ih, List.map_cons]

theorem names_sortedFields (fs : Fields) :
    (sortedFields fs).map Prod.fst = fs.map Prod.fst := by
  rw [sortedFields_eq_map, List.map_map]
  rfl

theorem sortedFields_perm {fs gs : Fields} (h : fs.Perm gs) :
    (sortedFields fs).Perm (sortedFields gs) := by
  rw [sortedFields_eq_map, sortedFields_eq_map]
  exact h.map _

theorem sortFields_perm (fs : Fields) : (sortFields fs).Perm fs := List.mergeSort_perm fs _

theorem sortFields_pairwise (fs : Fields) : (sortFields fs).Pairwise fun f g => f.1 ≤ g.1 := by
  have hsorted : (sortFields fs).Pairwise fun f g => decide (f.1 ≤ g.1) = true := by
    apply List.pairwise_mergeSort
    · intro f g h hfg hgh
      rw [decide_eq_true_eq] at hfg hgh ⊢
      exact String.le_trans hfg hgh
    · intro f g
      rw [Bool.or_eq_true, decide_eq_true_eq, decide_eq_true_eq]
      exact String.le_total f.1 g.1
  exact hsorted.imp of_decide_eq_true

theorem sortFields_eq_of_perm {fs gs : Fields} (hn : (fs.map Prod.fst).Nodup) (h : fs.Perm gs) :
    sortFields fs = sortFields gs := by
  have hperm : (sortFields fs).Perm (sortFields gs) :=
    (sortFields_perm fs).trans (h.trans (sortFields_perm gs).symm)
  refine hperm.eq_of_pairwise ?_ (sortFields_pairwise fs) (sortFields_pairwise gs)
  intro f g hf hg hfg hgf
  have hf : f ∈ fs := (sortFields_perm fs).subset hf
  have hg : g ∈ fs := h.symm.subset ((sortFields_perm gs).subset hg)
  exact List.inj_on_of_nodup_map hn hf hg (String.le_antisymm hfg hgf)

theorem IsPlain.sorted {d : Document} (h : d.IsPlain) : d.sorted.IsPlain := by
  induction h with
  | list h ih =>
    rw [Document.sorted, sortedList_eq_map]
    exact .list (List.forall_mem_map.2 ih)
  | @object fs hn h ih =>
    rw [Document.sorted]
    refine .object ?_ ?_
    · rwa [((sortFields_perm _).map Prod.fst).nodup_iff, names_sortedFields]
    · intro f hf
      have hf := (sortFields_perm _).subset hf
      rw [sortedFields_eq_map] at hf
      obtain ⟨g, hg, rfl⟩ := List.mem_map.1 hf
      exact ih g hg
  | null => exact .null
  | bool b => exact .bool b
  | int n => exact .int n
  | text s => exact .text s

mutual

theorem alike_of_sorted_eq : ∀ d e : Document, d.sorted = e.sorted → d.Alike e
  | list ds, e, h => by
    cases e with
    | list es => exact alikeMembers_of_sorted_eq ds es (list.inj h)
    | _ => cases h
  | object fs, e, h => by
    cases e with
    | object gs =>
      have heq : sortFields (sortedFields fs) = sortFields (sortedFields gs) := object.inj h
      refine alikeFields_of_perm fs gs ((sortFields_perm _).symm.trans ?_)
      rw [← heq]
      exact sortFields_perm _
    | _ => cases h
  | null, e, h | bool _, e, h | int _, e, h | float _, e, h | text _, e, h | bytes _, e, h => by
    cases e <;> first | exact h | cases h

theorem alikeMembers_of_sorted_eq : ∀ ds es : List Document,
    sortedList ds = sortedList es → AlikeMembers ds es
  | [], es, h => by
    cases es with
    | nil => rfl
    | cons e es => cases h
  | d :: ds, es, h => by
    cases es with
    | nil => cases h
    | cons e es =>
      obtain ⟨hd, hds⟩ := List.cons.inj h
      exact ⟨e, es, rfl, alike_of_sorted_eq d e hd, alikeMembers_of_sorted_eq ds es hds⟩

theorem alikeFields_of_perm : ∀ fs gs : Fields,
    (sortedFields gs).Perm (sortedFields fs) → AlikeFields fs gs
  | [], gs, h => by
    rw [sortedFields_eq_map] at h
    exact List.map_eq_nil_iff.1 h.eq_nil
  | (k, d) :: fs, gs, h => by
    -- the field stands somewhere among the others, and the rest goes without it
    have hmem : (k, d.sorted) ∈ sortedFields gs := h.symm.subset List.mem_cons_self
    rw [sortedFields_eq_map] at hmem
    obtain ⟨⟨k', e⟩, hg, heq⟩ := List.mem_map.1 hmem
    obtain ⟨before, after, rfl⟩ := List.append_of_mem hg
    obtain ⟨rfl, he⟩ := Prod.mk.inj heq
    refine ⟨e, before ++ after, List.perm_middle, alike_of_sorted_eq d e he.symm,
      alikeFields_of_perm fs (before ++ after) ?_⟩
    have hrest := (sortedFields_perm List.perm_middle).symm.trans h
    rw [sortedFields, sortedFields, he] at hrest
    exact hrest.cons_inv

end

mutual

theorem sorted_eq_of_alike : ∀ d e : Document, d.IsPlain → d.Alike e → d.sorted = e.sorted
  | list ds, e, hd, h => by
    cases hd with
    | list hds =>
      cases e with
      | list es => exact congrArg list (sortedList_eq_of_alike ds es hds h)
      | _ => cases h
  | object fs, e, hd, h => by
    cases hd with
    | object hn hfs =>
      cases e with
      | object gs =>
        refine congrArg object (sortFields_eq_of_perm ?_ (sortedFields_perm_of_alike fs gs hfs h))
        rwa [names_sortedFields]
      | _ => cases h
  | null, e, _, h | bool _, e, _, h | int _, e, _, h | float _, e, _, h | text _, e, _, h
  | bytes _, e, _, h => by
    cases e <;> exact congrArg sorted h

theorem sortedList_eq_of_alike : ∀ ds es : List Document, (∀ d ∈ ds, d.IsPlain) →
    AlikeMembers ds es → sortedList ds = sortedList es
  | [], es, _, h => by
    cases h
    rfl
  | d :: ds, es, hds, h => by
    obtain ⟨hd, hds⟩ := List.forall_mem_cons.1 hds
    obtain ⟨e, es, rfl, he, hes⟩ := h
    rw [sortedList, sortedList, sorted_eq_of_alike d e hd he, sortedList_eq_of_alike ds es hds hes]

theorem sortedFields_perm_of_alike : ∀ fs gs : Fields, (∀ f ∈ fs, f.2.IsPlain) →
    AlikeFields fs gs → (sortedFields fs).Perm (sortedFields gs)
  | [], gs, _, h => by
    cases h
    exact .refl _
  | (k, d) :: fs, gs, hfs, h => by
    obtain ⟨hd, hfs⟩ := List.forall_mem_cons.1 hfs
    obtain ⟨e, gs', hperm, he, hgs⟩ := h
    refine .trans ?_ (sortedFields_perm hperm).symm
    rw [sortedFields, sortedFields, sorted_eq_of_alike d e hd he]
    exact (sortedFields_perm_of_alike fs gs' hfs hgs).cons _

end

/-- The document stays within the bounds, inside so many lists and objects. -/
inductive Within (limits : Limits) : Nat → Document → Prop
  | null (level : Nat) : Within limits level null
  | bool (level : Nat) (b : Bool) : Within limits level (bool b)
  | int (level : Nat) {n : Int}
      (h : ∀ digits, limits.digits = some digits → n.natAbs < 10 ^ digits) :
    Within limits level (int n)
  | float (level : Nat) (x : Float) : Within limits level (float x)
  | text (level : Nat) (s : String) : Within limits level (text s)
  | bytes (level : Nat) (bs : List UInt8) : Within limits level (bytes bs)
  | list {level : Nat} {ds : List Document} (h : ∀ depth, limits.depth = some depth → level < depth)
    (hds : ∀ d ∈ ds, Within limits (level + 1) d) : Within limits level (list ds)
  | object {level : Nat} {fs : Fields} (h : ∀ depth, limits.depth = some depth → level < depth)
    (hfs : ∀ f ∈ fs, Within limits (level + 1) f.2) : Within limits level (object fs)

variable {limits : Limits} {level : Nat}

theorem listExcess?_eq_none_iff {ds : List Document} :
    listExcess? limits level ds = none ↔ ∀ d ∈ ds, d.excess? limits level = none := by
  induction ds with
  | nil => exact iff_of_true rfl (List.forall_mem_nil _)
  | cons d ds ih => rw [listExcess?, Option.or_eq_none_iff, ih, List.forall_mem_cons]

theorem fieldsExcess?_eq_none_iff {fs : Fields} :
    fieldsExcess? limits level fs = none ↔ ∀ f ∈ fs, f.2.excess? limits level = none := by
  induction fs with
  | nil => exact iff_of_true rfl (List.forall_mem_nil _)
  | cons f fs ih => rw [fieldsExcess?, Option.or_eq_none_iff, ih, List.forall_mem_cons]

theorem all_lt_iff {depth : Option Nat} :
    depth.all (level < ·) = true ↔ ∀ n, depth = some n → level < n := by
  simp [Option.all_eq_true]

theorem bounded_eq_none_iff {p : Prop} [Decidable p] {inner : Option Excess} {e : Excess} :
    (if p then inner else some e) = none ↔ p ∧ inner = none := by
  split
  · next h => exact (and_iff_right h).symm
  · next h => exact iff_of_false nofun fun ⟨hp, _⟩ => h hp

theorem within_int_iff {n : Int} : (int n).Within limits level ↔
    ∀ digits, limits.digits = some digits → n.natAbs < 10 ^ digits :=
  ⟨fun | .int _ h => h, .int level⟩

theorem within_list_iff {ds : List Document} : (list ds).Within limits level ↔
    (∀ depth, limits.depth = some depth → level < depth) ∧
      ∀ d ∈ ds, d.Within limits (level + 1) :=
  ⟨fun | .list h hds => ⟨h, hds⟩, fun ⟨h, hds⟩ => .list h hds⟩

theorem within_object_iff {fs : Fields} : (object fs).Within limits level ↔
    (∀ depth, limits.depth = some depth → level < depth) ∧
      ∀ f ∈ fs, f.2.Within limits (level + 1) :=
  ⟨fun | .object h hfs => ⟨h, hfs⟩, fun ⟨h, hfs⟩ => .object h hfs⟩

/-- Nothing goes beyond the bounds exactly if the document stays within them. -/
theorem IsPlain.excess?_eq_none_iff {d : Document} (h : d.IsPlain) :
    d.excess? limits level = none ↔ d.Within limits level := by
  induction h generalizing level with
  | null => exact iff_of_true rfl (.null level)
  | bool b => exact iff_of_true rfl (.bool level b)
  | text s => exact iff_of_true rfl (.text level s)
  | int n =>
    rw [excess?, bounded_eq_none_iff, and_iff_left rfl, within_int_iff]
    simp only [Option.all_eq_true, Number.fits_iff]
  | list _ ih =>
    rw [excess?, bounded_eq_none_iff, listExcess?_eq_none_iff, all_lt_iff, within_list_iff]
    exact and_congr_right fun _ => forall₂_congr fun d hd => ih d hd
  | object _ _ ih =>
    rw [excess?, bounded_eq_none_iff, fieldsExcess?_eq_none_iff, all_lt_iff, within_object_iff]
    exact and_congr_right fun _ => forall₂_congr fun f hf => ih f hf

/-- The order of fields does not matter to the bounds. -/
theorem IsPlain.within_sorted_iff {d : Document} (h : d.IsPlain) :
    d.sorted.Within limits level ↔ d.Within limits level := by
  induction h generalizing level with
  | null | bool | int | text => exact Iff.rfl
  | list _ ih =>
    rw [Document.sorted, sortedList_eq_map, within_list_iff, within_list_iff, List.forall_mem_map]
    exact and_congr_right fun _ => forall₂_congr fun d hd => ih d hd
  | @object fs _ _ ih =>
    rw [Document.sorted, sortedFields_eq_map, within_object_iff, within_object_iff]
    refine and_congr_right fun _ => ?_
    have hperm := sortFields_perm (fs.map fun f => (f.1, f.2.sorted))
    calc
      _ ↔ ∀ f ∈ fs.map fun f => (f.1, f.2.sorted), f.2.Within limits (level + 1) :=
        forall_congr' fun f => imp_congr_left hperm.mem_iff
      _ ↔ ∀ f ∈ fs, f.2.sorted.Within limits (level + 1) := List.forall_mem_map
      _ ↔ _ := forall₂_congr fun f hf => ih f hf

theorem renderWithin_of_within {d : Document} (h : d.IsPlain) (hw : d.Within limits 0) :
    renderWithin limits d = .ok d.render := by
  rw [renderWithin, h.sorted.excess?_eq_none_iff.2 (h.within_sorted_iff.2 hw)]

theorem within_of_renderWithin {d : Document} (h : d.IsPlain) {s : String}
    (hr : renderWithin limits d = .ok s) : d.Within limits 0 := by
  rw [renderWithin] at hr
  split at hr
  · cases hr
  · next he => exact h.within_sorted_iff.1 (h.sorted.excess?_eq_none_iff.1 he)

theorem IsPlain.within_unlimited {d : Document} (h : d.IsPlain) :
    d.Within ⟨none, none⟩ level := by
  induction h generalizing level with
  | null => exact .null level
  | bool b => exact .bool level b
  | int n => exact .int level nofun
  | text s => exact .text level s
  | list _ ih => exact .list nofun fun d hmem => ih d hmem
  | object _ _ ih => exact .object nofun fun f hmem => ih f hmem

/-- Plain documents are rendered alike if and only if they are equal up to the order of fields: the
order in which an object was built does not show, and everything else does. A document is rendered
exactly if it stays within the bounds for the digits of integers and for the depth, whatever these
are; without bounds every document is. The order of fields does not matter to that either. -/
theorem renderWithin_eq_iff_alike (limits : Limits) {a b : Document} (ha : a.IsPlain)
    (hb : b.IsPlain) :
    (a.Within limits 0 → b.Within limits 0 →
      (renderWithin limits a = renderWithin limits b ↔ a.Alike b)) ∧
    (a.Alike b → renderWithin limits a = renderWithin limits b) ∧
    ((∃ s, renderWithin limits a = .ok s) ↔ a.Within limits 0) ∧
    a.Within ⟨none, none⟩ 0 := by
  have halike (h : a.Alike b) : renderWithin limits a = renderWithin limits b := by
    rw [renderWithin, renderWithin, render, render, sorted_eq_of_alike a b ha h]
  refine ⟨fun hwa hwb => ⟨fun h => ?_, halike⟩, halike, ⟨?_, ?_⟩, ha.within_unlimited⟩
  · rw [renderWithin_of_within ha hwa, renderWithin_of_within hb hwb] at h
    exact alike_of_sorted_eq a b (write_injective ha.sorted hb.sorted (Except.ok.inj h))
  · rintro ⟨s, hs⟩
    exact within_of_renderWithin ha hs
  · intro hw
    exact ⟨_, renderWithin_of_within ha hw⟩

theorem renderWithin_eq_iff_alike_reordered :
    renderWithin {} (object [("b", list [int (-1), text "\\\n"]), ("a", null)]) =
        renderWithin {} (object [("a", null), ("b", list [int (-1), text "\\\n"])]) ∧
      renderWithin {} (list [int 1]) ≠ renderWithin {} (list [text "1"]) := by
  have hlist : (list [int (-1), text "\\\n"]).IsPlain := by
    refine .list ?_
    simp only [List.forall_mem_cons]
    exact ⟨.int _, .text _, List.forall_mem_nil _⟩
  have hplain {fs : Fields} (hn : (fs.map Prod.fst).Nodup)
      (hfs : fs.Perm [("b", list [int (-1), text "\\\n"]), ("a", null)]) :
      (object fs).IsPlain := by
    refine .object hn fun f hf => ?_
    rcases List.mem_cons.1 (hfs.subset hf) with rfl | hf
    · exact hlist
    · rw [List.mem_singleton.1 hf]
      exact .null
  have halike : (object [("b", list [int (-1), text "\\\n"]), ("a", null)]).Alike
      (object [("a", null), ("b", list [int (-1), text "\\\n"])]) := by
    refine ⟨_, _, List.Perm.swap _ _ _, alike_of_sorted_eq _ _ rfl, null, [], .refl _, rfl, rfl⟩
  constructor
  · exact (renderWithin_eq_iff_alike {} (hplain (by decide) (.refl _))
      (hplain (by decide) (.swap _ _ _))).2.1 halike
  · intro h
    have hone : (list [int 1]).IsPlain := .list (List.forall_mem_singleton.2 (.int 1))
    have htext : (list [text "1"]).IsPlain := .list (List.forall_mem_singleton.2 (.text "1"))
    have hwone : (list [int 1]).Within {} 0 := by
      refine .list nofun (List.forall_mem_singleton.2 (.int 1 fun digits hd => ?_))
      cases hd
      exact Nat.one_lt_pow (by decide : Number.maxDigits ≠ 0) (by decide)
    have hwtext : (list [text "1"]).Within {} 0 :=
      .list nofun (List.forall_mem_singleton.2 (.text 1 "1"))
    obtain ⟨e, es, he, hd, -⟩ :=
      ((renderWithin_eq_iff_alike {} hone htext).1 hwone hwtext).1 h
    cases he
    cases hd

end TableBench.Document
