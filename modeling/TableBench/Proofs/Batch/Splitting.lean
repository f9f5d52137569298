import TableBench.Proofs.Batch.Draining

namespace TableBench

open Run KeyValue

namespace Batch

/- What is done and what is left. -/

section

variable {α : Type} {done left : Nat → List α} {n : Nat}

/-- In each of the first rounds a part of what was left is done, and the rest is left. -/
def Splits (done left : Nat → List α) (n : Nat) : Prop :=
  ∀ i < n, (done i ++ left (i + 1)).Perm (left i)

def doneBefore (done : Nat → List α) (n : Nat) : List α := (List.range n).flatMap done

theorem doneBefore_succ (done : Nat → List α) (n : Nat) :
    doneBefore done (n + 1) = doneBefore done n ++ done n := by
  rw [doneBefore, List.range_succ, List.flatMap_append, List.flatMap_singleton]
  rfl

theorem Splits.perm (h : Splits done left n) :
    ∀ i ≤ n, (doneBefore done i ++ left i).Perm (left 0) := by
  intro i hi
  induction i with
  | zero => exact .refl _
  | succ i ih =>
    rw [doneBefore_succ, List.append_assoc]
    exact ((h i hi).append_left _).trans (ih (by omega))

theorem Splits.disjoint (h : Splits done left n) (hn : (left 0).Nodup) :
    ∀ i ≤ n, (doneBefore done i).Disjoint (left i) := by
  intro i hi
  exact List.disjoint_of_nodup_append ((h.perm i hi).nodup_iff.2 hn)

theorem Splits.subset (h : Splits done left n) {i : Nat} (hi : i ≤ n) : left i ⊆ left 0 :=
  fun _ hx => (h.perm i hi).subset (List.mem_append_right _ hx)

theorem Splits.shrinks (h : Splits done left n) (hn : (left 0).Nodup) {i : Nat} (hi : i < n)
    (hd : done i ≠ []) : left (i + 1) ⊆ left i ∧ ∃ x ∈ left i, x ∉ left (i + 1) := by
  obtain ⟨x, hx⟩ := List.exists_mem_of_ne_nil _ hd
  constructor
  · intro y hy
    exact (h i hi).subset (List.mem_append_right _ hy)
  · refine ⟨x, (h i hi).subset (List.mem_append_left _ hx), ?_⟩
    apply h.disjoint hn (i + 1) hi
    rw [doneBefore_succ]
    exact List.mem_append_right _ hx

/-- Where something is done in each round, the rounds are no more than there is to do. -/
theorem Splits.add_length_le (h : Splits done left n) (hd : ∀ i < n, done i ≠ []) :
    ∀ i ≤ n, i + (left i).length ≤ (left 0).length := by
  intro i hi
  induction i with
  | zero => omega
  | succ i ih =>
    have hlength := (h i hi).length_eq
    have hpos := List.length_pos_iff.2 (hd i hi)
    have hle := ih (by omega)
    rw [List.length_append] at hlength
    omega

/-- Without repetitions, what is left is all that was not done. -/
theorem perm_filter_of_append [DecidableEq α] {as bs cs : List α} (h : (as ++ bs).Perm cs)
    (hn : cs.Nodup) : bs.Perm (cs.filter (· ∉ as)) := by
  have hab := h.nodup_iff.2 hn
  rw [List.perm_ext_iff_of_nodup hab.of_append_right (hn.filter _)]
  intro x
  rw [List.mem_filter, decide_eq_true_eq, ← h.mem_iff, List.mem_append]
  constructor
  · intro hx
    exact ⟨.inr hx, fun ha => List.disjoint_of_nodup_append hab ha hx⟩
  · rintro ⟨ha | hb, hx⟩
    · exact absurd ha hx
    · exact hb

end

section

variable {α : Type} {R : List α → Answer → List α → List α → Prop} {done left : Nat → List α}
  {answers : List Answer} {m : Nat}

/-- The answers tell of what is left before each round how much is done in it, and how much is left
for the next. -/
def Accounts (R : List α → Answer → List α → List α → Prop) (done left : Nat → List α)
    (answers : List Answer) (m : Nat) : Prop :=
  ∀ i < m, ∃ a, answers[i]? = some a ∧ R (left i) a (done i) (left (i + 1))

namespace Accounts

theorem splits (h : Accounts R done left answers m)
    (hR : ∀ {asked a now later}, R asked a now later → (now ++ later).Perm asked) :
    Splits done left m := by
  intro i hi
  obtain ⟨a, -, ha⟩ := h i hi
  exact hR ha

theorem fits (h : Accounts R done left answers m) {Fit : Answer → Prop}
    (hR : ∀ {asked a now later}, R asked a now later → Fit a) : ∀ a ∈ answers.take m, Fit a := by
  intro a ha
  obtain ⟨i, hi⟩ := List.mem_iff_getElem?.1 ha
  rw [List.getElem?_take] at hi
  split at hi
  · next hlt =>
    obtain ⟨b, hb, hfit⟩ := h i hlt
    cases hb.symm.trans hi
    exact hR hfit
  · cases hi

theorem last (h : Accounts R done left answers m) (hm : 0 < m) :
    ∃ a, answers[m - 1]? = some a ∧ R (left (m - 1)) a (done (m - 1)) (left m) := by
  have hlast := h (m - 1) (by omega)
  rwa [Nat.sub_add_cancel hm] at hlast

variable {ρ β : Type} {next : Answer → Option ρ} {limit : Nat}

theorem map_asked (h : Accounts R done left answers (requestCount next limit answers)) {q : ρ}
    (shows : ρ → β) (f : List α → β) (hq : shows q = f (left 0))
    (hR : ∀ {asked a now later q'}, R asked a now later → next a = some q' → shows q' = f later) :
    (asked next q limit answers).map shows =
      (List.range (requestCount next limit answers)).map fun i => f (left i) := by
  apply Batch.map_asked hq
  intro i hi q' hq'
  obtain ⟨a, ha, hsplit⟩ := h i hi
  rw [ha] at hq'
  exact hR hsplit hq'

theorem ne_nil (h : Accounts R done left answers (requestCount next limit answers))
    (h₀ : left 0 ≠ [])
    (hR : ∀ {asked a now later q}, R asked a now later → next a = some q → later ≠ []) :
    ∀ i < requestCount next limit answers, left i ≠ [] := by
  intro i hi
  cases i with
  | zero => exact h₀
  | succ i =>
    obtain ⟨a, ha, hsplit⟩ := h i (by omega)
    obtain ⟨q, hq⟩ := exists_next hi
    rw [ha] at hq
    exact hR hsplit hq

end Accounts

end

/- Batch reads. -/

section

/-- A response to a request for keys: some of them are served, and the others are left over. The
items of those that are served come in any order, each once. -/
inductive ServesKeys (table attributeName : String) (items : Items) (asked : List String) :
    Answer → List String → List String → Prop
  | response {served left : List String} {found : List Fields} {response : Fields}
    {part rest : Option Document} (hs : (served ++ left).Perm asked)
    (hf : found.Perm (items.found served)) (hp : Says table response "Responses" part)
    (hl : Lists (found.map .object) part) (hu : Says table response "UnprocessedKeys" rest)
    (hr : LeftOver rest) (ha : (rest.bind Document.fields?).elim [] addresses =
      left.map (Item.address attributeName)) :
    ServesKeys table attributeName items asked (.ok (.object response)) served left

variable {table attributeName : String} {items : Items}

namespace ServesKeys

variable {asked served left : List String} {a : Answer}

theorem perm (h : ServesKeys table attributeName items asked a served left) :
    (served ++ left).Perm asked := by
  cases h with
  | response hs => exact hs

theorem fits (h : ServesKeys table attributeName items asked a served left) :
    ReadAnswer table a := by
  cases h with
  | response hs hf hp hl hu hr ha => exact .response hp hl hu hr

theorem exists_ok (h : ServesKeys table attributeName items asked a served left) :
    ∃ d, a = .ok d := by
  cases h
  exact ⟨_, rfl⟩

theorem given (h : ServesKeys table attributeName items asked a served left) :
    (givenItems table a).Perm ((items.found served).map .object) := by
  cases h with
  | response hs hf hp hl hu hr ha =>
    rw [givenItems_eq hp hl]
    exact hf.map _

theorem leftRequest_cases (h : ServesKeys table attributeName items asked a served left) :
    (left = [] ∧ leftRequest table a = none) ∨
      (left ≠ [] ∧ ∃ request, leftRequest table a = some request ∧
        addresses request = left.map (Item.address attributeName)) := by
  cases h with
  | @response _ _ _ _ _ rest hs hf hp hl hu hr ha =>
    rw [leftRequest, part?_eq hu]
    cases hrest : rest.bind Document.fields? with
    | none =>
      rw [hrest] at ha
      exact .inl ⟨List.map_eq_nil_iff.1 ha.symm, rfl⟩
    | some request =>
      rw [hrest, Option.elim_some] at ha
      rw [Option.filter_some, ha]
      cases left with
      | nil => exact .inl ⟨rfl, rfl⟩
      | cons key keys => exact .inr ⟨List.cons_ne_nil _ _, request, rfl, ha⟩

theorem addresses_eq {request : Fields}
    (h : ServesKeys table attributeName items asked a served left)
    (hr : leftRequest table a = some request) :
    addresses request = left.map (Item.address attributeName) := by
  obtain ⟨-, hnone⟩ | ⟨-, request', hsome, haddresses⟩ := h.leftRequest_cases
  · rw [hnone] at hr
    cases hr
  · cases hr.symm.trans hsome
    exact haddresses

theorem ne_nil {request : Fields} (h : ServesKeys table attributeName items asked a served left)
    (hr : leftRequest table a = some request) : left ≠ [] := by
  rintro rfl
  exact addresses_ne_nil hr (h.addresses_eq hr)

end ServesKeys

/-- The items that come in the first rounds are those of the keys that are served in them. -/
theorem given_perm {served left : Nat → List String} {answers : List Answer} {m : Nat}
    (h : Accounts (ServesKeys table attributeName items) served left answers m) :
    ∀ i ≤ m, ((answers.take i).flatMap (givenItems table)).Perm
      ((items.found (doneBefore served i)).map .object) := by
  intro i hi
  induction i with
  | zero => exact .refl _
  | succ i ih =>
    obtain ⟨a, ha, hserves⟩ := h i hi
    rw [List.take_add_one, ha, Option.toList_some, List.flatMap_append, List.flatMap_singleton,
      doneBefore_succ, Items.found_append, List.map_append]
    exact (ih (by omega)).append hserves.given

variable {T : Type} [TimeScale T] (c : Client) (table attributeName : String)
  (consistent : Document) (items : Items)

variable {table attributeName items} in
theorem read_served {keys : List String} {rounds : Int} (hv : Valid keys readLimit rounds)
    {w : World T} {answers : List Answer} (hw : w.script.map Outcome.answer = answers) {m : Nat}
    (hm : requestCount (leftRequest table) rounds.toNat answers = m)
    {served left : Nat → List String}
    (h : Accounts (ServesKeys table attributeName items) served left answers m) :
    ∃ w', w.Exchanged (exchanges c.dataTarget (reading table consistent)
        (asked (leftRequest table) (readRequest attributeName keys) rounds.toNat answers)
        answers) w' ∧
      ((left m = [] ∧ read c table attributeName keys consistent rounds w =
          .ok (((answers.take m).flatMap (givenItems table)).map Document.render) w') ∨
        (left m ≠ [] ∧ m = rounds.toNat ∧
          read c table attributeName keys consistent rounds w = .error (.reported
            (.throttled (.text (toString (left m).length ++ " keys still unprocessed after " ++
              toString rounds.toNat ++ " BatchGetItem rounds"))) false) w')) := by
  have hfits := h.fits ServesKeys.fits
  rw [← hm] at hfits
  obtain ⟨w', hx, hread⟩ := read_apply c table consistent attributeName hv hw hfits
  refine ⟨w', hx, ?_⟩
  have hpos := requestCount_pos (leftRequest table) answers hv.toNat_pos
  rw [hm] at hpos
  obtain ⟨a, ha, hserves⟩ := h.last hpos
  obtain ⟨d, rfl⟩ := hserves.exists_ok
  rw [ending_eq hv.toNat_pos, hm, ha] at hread
  dsimp only at hread
  obtain ⟨hnil, hnone⟩ | ⟨hne, request, hsome, haddresses⟩ := hserves.leftRequest_cases
  · rw [hnone] at hread
    exact .inl ⟨hnil, hread⟩
  · rw [hsome] at hread
    rw [← hm] at ha
    refine .inr ⟨hne, hm.symm.trans (requestCount_eq_limit ha hsome), ?_⟩
    rw [hread, ← List.length_map (Item.address attributeName), ← haddresses]
    rfl

/-- A batch read drains its keys. After each round the keys that were served and those that are
left over are the ones that it began with, whatever is left over in which round. -/
theorem read_loses_nothing {keys : List String} {rounds : Int}
    (hv : Valid keys readLimit rounds) {w : World T} {answers : List Answer}
    (hw : w.script.map Outcome.answer = answers) {m : Nat}
    (hm : m = requestCount (leftRequest table) rounds.toNat answers)
    {served left : Nat → List String} (hleft : left 0 = keys)
    (h : Accounts (ServesKeys table attributeName items) served left answers m) :
    ∃ requests w',
      w.Exchanged (exchanges c.dataTarget (reading table consistent) requests answers) w' ∧
      requests.map addresses =
        (List.range m).map (fun i => (left i).map (Item.address attributeName)) ∧
      (∀ i < m, left i ≠ []) ∧
      (∀ i ≤ m, (doneBefore served i ++ left i).Perm keys ∧
        (doneBefore served i).Disjoint (left i)) ∧
      (left m = [] → ∃ texts,
        read c table attributeName keys consistent rounds w = .ok texts w' ∧
        texts.Perm ((items.found keys).map fun fs => (Document.object fs).render)) ∧
      (left m ≠ [] → m = rounds.toNat ∧
        (left m).Perm (keys.filter (· ∉ doneBefore served m)) ∧
        read c table attributeName keys consistent rounds w = .error (.reported
          (.throttled (.text (toString (left m).length ++ " keys still unprocessed after " ++
            toString rounds.toNat ++ " BatchGetItem rounds"))) false) w') ∧
      ((∀ i < m, served i ≠ []) →
        (∀ i < m, left (i + 1) ⊆ left i ∧ ∃ key ∈ left i, key ∉ left (i + 1)) ∧
        m ≤ keys.length ∧ (keys.length ≤ rounds.toNat → left m = [])) := by
  subst hleft hm
  have hfirst : addresses (readRequest attributeName (left 0)) =
      (left 0).map (Item.address attributeName) := rfl
  have hrequests := h.map_asked addresses (List.map (Item.address attributeName)) hfirst
    ServesKeys.addresses_eq
  have hne := h.ne_nil hv.ne_nil ServesKeys.ne_nil
  have hsplits := h.splits ServesKeys.perm
  have hperm := hsplits.perm
  have hgiven := given_perm h
  obtain ⟨w', hx, hend⟩ := read_served c consistent hv hw rfl h
  generalize requestCount (leftRequest table) rounds.toNat answers = m at *
  refine ⟨_, w', hx, hrequests, hne,
    fun i hi => ⟨hperm i hi, hsplits.disjoint hv.nodup i hi⟩, ?_, ?_, ?_⟩
  · intro hnil
    obtain ⟨-, hread⟩ | ⟨hne, -⟩ := hend
    · refine ⟨_, hread, ?_⟩
      have hserved := hperm m (Nat.le_refl m)
      rw [hnil, List.append_nil] at hserved
      have hitems := (hgiven m (Nat.le_refl m)).trans
        ((items.found_perm hserved).map Document.object)
      have htexts := hitems.map Document.render
      rwa [List.map_map] at htexts
    · exact absurd hnil hne
  · intro hne
    obtain ⟨hnil, -⟩ | ⟨-, hlimit, hread⟩ := hend
    · exact absurd hnil hne
    · exact ⟨hlimit, perm_filter_of_append (hperm m (Nat.le_refl m)) hv.nodup, hread⟩
  · intro hserved
    have hlength := hsplits.add_length_le hserved m (Nat.le_refl m)
    refine ⟨fun i hi => hsplits.shrinks hv.nodup hi (hserved i hi), by omega, ?_⟩
    intro hle
    obtain ⟨hnil, -⟩ | ⟨hne, hlimit, -⟩ := hend
    · exact hnil
    · have hpos := List.length_pos_iff.2 hne
      omega

def halfItem (key payload : String) : String × Fields :=
  (key, [("id", .string key), ("value", .string payload)])

theorem read_loses_nothing_half_read :
    ∃ texts w', read .direct "bench" "id" ["a", "b"] (.bool true) 2 halfReading = .ok texts w' ∧
      texts.Perm [(Item.make "id" "a" "x").render, (Item.make "id" "b" "y").render] := by
  let served : Nat → List String
    | 0 => ["a"]
    | _ => ["b"]
  let left : Nat → List String
    | 0 => ["a", "b"]
    | 1 => ["b"]
    | _ => []
  let items : Items := Items.putAll (fun _ => none) [halfItem "a" "x", halfItem "b" "y"]
  have hserves : Accounts (ServesKeys "bench" "id" items) served left
      [.ok halfRead, .ok otherHalf] 2 := by
    intro i hi
    match i with
    | 0 => exact ⟨_, rfl, .response (.refl _) (.refl _) (.part _ rfl) (.there _) (.part _ rfl)
        (.request (.there _)) rfl⟩
    | 1 => exact ⟨_, rfl, .response (.refl _) (.refl _) (.part _ rfl) (.there _) (.nothing rfl)
        .missing rfl⟩
  have hv : Valid ["a", "b"] readLimit 2 := ⟨by decide, by decide, by decide, by decide⟩
  have hw : halfReading.script.map Outcome.answer = [.ok halfRead, .ok otherHalf] := rfl
  have hm : 2 = requestCount (leftRequest "bench") 2 [.ok halfRead, .ok otherHalf] := by
    with_unfolding_all rfl
  have hleft : left 0 = ["a", "b"] := rfl
  obtain ⟨_, w', -, -, -, -, hread, -, -⟩ :=
    read_loses_nothing .direct "bench" "id" (.bool true) items hv hw hm hleft hserves
  obtain ⟨texts, htexts, hperm⟩ := hread rfl
  exact ⟨texts, w', htexts, hperm⟩

end

/- Batch writes. -/

section

/-- An answer to a request to store entries: a response, where some of them are stored and the
others are left over in any order, or a fault that stores nothing. -/
inductive StoresEntries (table : String) (asked : List (String × Fields)) :
    Answer → List (String × Fields) → List (String × Fields) → Prop
  | fault (f : Fault) : StoresEntries table asked (.error f) [] asked
  | response {stored left : List (String × Fields)} {response : Fields} {rest : Option Document}
    (hs : (stored ++ left).Perm asked) (hu : Says table response "UnprocessedItems" rest)
    (hr : Listing rest) (he : rest.elim [] Document.members = left.map entry) :
    StoresEntries table asked (.ok (.object response)) stored left

variable {table : String}

namespace StoresEntries

variable {asked stored left : List (String × Fields)} {a : Answer}

theorem perm (h : StoresEntries table asked a stored left) : (stored ++ left).Perm asked := by
  cases h with
  | fault => exact .refl _
  | response hs => exact hs

theorem fits (h : StoresEntries table asked a stored left) : WriteAnswer table a := by
  cases h with
  | fault f => exact .fault f
  | response hs hu hr he => exact .response hu hr

theorem leftEntries_cases {d : Document} (h : StoresEntries table asked (.ok d) stored left) :
    (left = [] ∧ leftEntries table (.ok d) = none) ∨
      (left ≠ [] ∧ leftEntries table (.ok d) = some (left.map entry)) := by
  cases h with
  | @response _ _ _ rest hs hu hr he =>
    rw [leftEntries, part?_eq hu]
    cases rest with
    | none => exact .inl ⟨List.map_eq_nil_iff.1 he.symm, rfl⟩
    | some rest =>
      rw [Option.elim_some] at he
      rw [Option.map_some, he, Option.filter_some]
      cases left with
      | nil => exact .inl ⟨rfl, rfl⟩
      | cons p ps => exact .inr ⟨List.cons_ne_nil _ _, rfl⟩

theorem entries_eq {entries : List Document} (h : StoresEntries table asked a stored left)
    (he : leftEntries table a = some entries) : entries = left.map entry := by
  cases a with
  | error f => cases he
  | ok d =>
    obtain ⟨-, hnone⟩ | ⟨-, hsome⟩ := h.leftEntries_cases
    · rw [hnone] at he
      cases he
    · exact Option.some.inj (he.symm.trans hsome)

end StoresEntries

variable {T : Type} [TimeScale T] (c : Client) (table attributeName : String)

variable {table attributeName} in
theorem write_stored (ha : attributeName ≠ Item.valueAttribute) {keys : List String} {rounds : Int}
    (hv : Valid keys writeLimit rounds) {w : World T} {answers : List Answer}
    (hw : w.script.map Outcome.answer = answers) {m : Nat}
    (hm : requestCount (leftEntries table) rounds.toNat answers = m)
    {ps : List (String × Fields)}
    (hps : ps = fresh attributeName w.source.value w.source.drawn keys)
    {stored left : Nat → List (String × Fields)}
    (h : Accounts (StoresEntries table) stored left answers m) :
    ∃ w', (w.drew keys.length).Exchanged (exchanges c.dataTarget (writing table)
        (asked (leftEntries table) (ps.map entry) rounds.toNat answers) answers) w' ∧
      ((∃ f, answers[m - 1]? = some (.error f) ∧
          write c table attributeName keys rounds w = .error f.failure w') ∨
        ∃ d, answers[m - 1]? = some (.ok d) ∧
          ((left m = [] ∧ write c table attributeName keys rounds w =
              .ok (ps.map fun p => (Document.object [("Item", .object p.2)]).render) w') ∨
            (left m ≠ [] ∧ m = rounds.toNat ∧
              write c table attributeName keys rounds w = .error (.reported
                (.throttled (.text (toString (left m).length ++ " items still unprocessed after " ++
                  toString rounds.toNat ++ " BatchWriteItem rounds"))) false) w'))) := by
  have hputs := putRequests_eq_fresh ha keys w
  rw [← hps] at hputs
  have hfits := h.fits StoresEntries.fits
  rw [← hm] at hfits
  obtain ⟨w', hx, hwrite⟩ := write_apply c table hv hputs hw hfits
  rw [List.map_map] at hx
  rw [List.map_map, List.map_map] at hwrite
  refine ⟨w', hx, ?_⟩
  have hpos := requestCount_pos (leftEntries table) answers hv.toNat_pos
  rw [hm] at hpos
  obtain ⟨a, ha, hstores⟩ := h.last hpos
  rw [ending_eq hv.toNat_pos, hm, ha] at hwrite
  cases a with
  | error f => exact .inl ⟨f, ha, hwrite⟩
  | ok d =>
    refine .inr ⟨d, ha, ?_⟩
    dsimp only at hwrite
    obtain ⟨hnil, hnone⟩ | ⟨hne, hsome⟩ := hstores.leftEntries_cases
    · rw [hnone] at hwrite
      exact .inl ⟨hnil, hwrite⟩
    · rw [hsome] at hwrite
      rw [← hm] at ha
      refine .inr ⟨hne, hm.symm.trans (requestCount_eq_limit ha hsome), ?_⟩
      rw [hwrite, ← List.length_map entry]
      rfl

/-- A batch write stores each entry once, with the payload that it drew before the first round. -/
theorem write_stores_once (ha : attributeName ≠ Item.valueAttribute) {keys : List String}
    {rounds : Int} (hv : Valid keys writeLimit rounds) {w : World T} {answers : List Answer}
    (hw : w.script.map Outcome.answer = answers) {m : Nat}
    (hm : m = requestCount (leftEntries table) rounds.toNat answers)
    {ps : List (String × Fields)}
    (hps : ps = fresh attributeName w.source.value w.source.drawn keys)
    {stored left : Nat → List (String × Fields)} (hleft : left 0 = ps)
    (h : Accounts (StoresEntries table) stored left answers m) :
    ∃ w', (w.drew keys.length).Exchanged (exchanges c.dataTarget (writing table)
        ((List.range m).map fun i => (left i).map entry) answers) w' ∧
      (∀ i < m, left i ⊆ ps) ∧
      (∀ i ≤ m, (doneBefore stored i ++ left i).Perm ps ∧
        (doneBefore stored i).Disjoint (left i)) ∧
      (∀ f, answers[m - 1]? = some (.error f) →
        write c table attributeName keys rounds w = .error f.failure w') ∧
      (∀ d, answers[m - 1]? = some (.ok d) →
        (left m = [] → (doneBefore stored m).Perm ps ∧
          write c table attributeName keys rounds w =
            .ok (ps.map fun p => (Document.object [("Item", .object p.2)]).render) w') ∧
        (left m ≠ [] → m = rounds.toNat ∧
          ((left m).map Prod.fst).Perm
            (keys.filter (· ∉ (doneBefore stored m).map Prod.fst)) ∧
          write c table attributeName keys rounds w = .error (.reported
            (.throttled (.text (toString (left m).length ++ " items still unprocessed after " ++
              toString rounds.toNat ++ " BatchWriteItem rounds"))) false) w')) := by
  subst hm hleft
  have hkeys : (left 0).map Prod.fst = keys := by rw [hps, map_fst_fresh]
  have hn : (left 0).Nodup := by
    apply List.Nodup.of_map Prod.fst
    rw [hkeys]
    exact hv.nodup
  have hfirst : id ((left 0).map entry) = (left 0).map entry := rfl
  have hrequests := h.map_asked id (List.map entry) hfirst StoresEntries.entries_eq
  have hsplits := h.splits StoresEntries.perm
  have hperm := hsplits.perm
  obtain ⟨w', hx, hend⟩ := write_stored c ha hv hw rfl hps h
  rw [List.map_id] at hrequests
  rw [hrequests] at hx
  generalize requestCount (leftEntries table) rounds.toNat answers = m at *
  refine ⟨w', hx, fun i hi => hsplits.subset (Nat.le_of_lt hi),
    fun i hi => ⟨hperm i hi, hsplits.disjoint hn i hi⟩, ?_, ?_⟩
  · intro f hf
    obtain ⟨f', hf', hwrite⟩ | ⟨d, hd, -⟩ := hend
    · cases hf.symm.trans hf'
      exact hwrite
    · cases hf.symm.trans hd
  · intro d hd
    have hlast := hperm m (Nat.le_refl m)
    obtain ⟨f, hf, -⟩ | ⟨_, -, ⟨hnil, hwrite⟩ | ⟨hne, hlimit, hwrite⟩⟩ := hend
    · cases hd.symm.trans hf
    · rw [hnil, List.append_nil] at hlast
      exact ⟨fun _ => ⟨hlast, hwrite⟩, fun hne => absurd hnil hne⟩
    · refine ⟨fun hnil => absurd hnil hne, fun _ => ⟨hlimit, ?_, hwrite⟩⟩
      apply perm_filter_of_append _ hv.nodup
      rw [← List.map_append, ← hkeys]
      exact hlast.map Prod.fst

def halfWritten : Document := .object [
  ("UnprocessedItems", .object [("bench", .list [entry (halfItem "a" "x")])])]

def halfWriting : World Float where
  clock := 0
  source := { value := fun i => if i = 0 then "x" else "y" }
  script := [⟨.ok halfWritten, 0⟩, ⟨.ok (.object []), 0⟩]

theorem write_stores_once_half_written :
    ∃ w', w'.source = (halfWriting.drew 2).source ∧ w'.events = [
        .call .store (.batchWriteItem (.object [("bench",
          .list [entry (halfItem "a" "x"), entry (halfItem "b" "y")])])) (some (.ok halfWritten)),
        .call .store (.batchWriteItem (.object [("bench",
          .list [entry (halfItem "a" "x")])])) (some (.ok (.object [])))] ∧
      write .direct "bench" "id" ["a", "b"] 2 halfWriting =
        .ok [(putRequest "id" "a" "x").render, (putRequest "id" "b" "y").render] w' := by
  let a := halfItem "a" "x"
  let b := halfItem "b" "y"
  let stored : Nat → List (String × Fields)
    | 0 => [b]
    | _ => [a]
  let left : Nat → List (String × Fields)
    | 0 => [a, b]
    | 1 => [a]
    | _ => []
  have hstores : Accounts (StoresEntries "bench") stored left
      [.ok halfWritten, .ok (.object [])] 2 := by
    intro i hi
    match i with
    | 0 => exact ⟨_, rfl, .response (List.Perm.swap a b []) (.part _ rfl) (.there _) rfl⟩
    | 1 => exact ⟨_, rfl, .response (.refl _) (.nothing rfl) .missing rfl⟩
  have hv : Valid ["a", "b"] writeLimit 2 := ⟨by decide, by decide, by decide, by decide⟩
  have hw : halfWriting.script.map Outcome.answer = [.ok halfWritten, .ok (.object [])] := rfl
  have hm : 2 = requestCount (leftEntries "bench") 2 [.ok halfWritten, .ok (.object [])] := by
    with_unfolding_all rfl
  have hps : [a, b] =
      fresh "id" halfWriting.source.value halfWriting.source.drawn ["a", "b"] := by
    with_unfolding_all rfl
  have hleft : left 0 = [a, b] := rfl
  obtain ⟨w', hx, -, -, -, hwrite⟩ :=
    write_stores_once .direct "bench" "id" (by decide) hv hw hm hps hleft hstores
  exact ⟨w', hx.source, hx.events, ((hwrite _ rfl).1 rfl).2⟩

end

end Batch

end TableBench
