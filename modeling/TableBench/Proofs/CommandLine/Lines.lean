import TableBench.Proofs.CommandLine.Keys
import TableBench.Proofs.Document.Ascii
import TableBench.Proofs.Session.Configured

namespace TableBench

open Run Text

/-- The items of the table that a batch read gets with the event. -/
def Event.brings (table : String) : Event → List Document
  | call _ (.batchGetItem _) (some (.ok d)) => (Batch.found d table).toOption.getD []
  | _ => []

def retrieved (table : String) (es : List Event) : List Document := es.flatMap (·.brings table)

theorem retrieved_append (table : String) (es es' : List Event) :
    retrieved table (es ++ es') = retrieved table es ++ retrieved table es' :=
  List.flatMap_append

theorem retrieved_of_itemCalls {es : List Event} (h : itemCalls es = []) (table : String) :
    retrieved table es = [] := by
  rw [retrieved, List.flatMap_eq_nil_iff]
  intro e he
  have hitems := List.filter_eq_nil_iff.1 h e he
  cases e with
  | call target request answer =>
    cases request with
    | batchGetItem items => exact absurd rfl hitems
    | _ => rfl
  | _ => rfl

namespace Batch

variable {T : Type} [TimeScale T] {c : Client} {table attributeName : String}
  {consistent : Document} {w w' : World T}

theorem readRounds_retrieves {rounds n : Nat} {left : Fields} {items ds : List Document}
    (h : readRounds c table consistent rounds n left items w = .ok ds w') :
    w.Since w' fun es => ds = items ++ retrieved table es := by
  induction n generalizing left items w with
  | zero =>
    rw [readRounds] at h
    obtain ⟨count, w₁, -, h⟩ := of_bind_ok h
    cases h
  | succ n ih =>
    rw [readRounds] at h
    obtain ⟨count, w₁, hcount, hround⟩ := of_bind_ok h
    obtain ⟨-, rfl⟩ := of_ofExcept_ok hcount
    obtain ⟨_, w₂, hlog, hasked⟩ := of_bind_ok hround
    cases hlog
    obtain ⟨d, w₃, hcall, hanswered⟩ := of_bind_ok hasked
    obtain ⟨request, hevents⟩ : ∃ request, w₃.events =
        w₁.events ++ [.call c.dataTarget (.batchGetItem request) (some (.ok d))] := by
      obtain ⟨o, script, -, ho, rfl⟩ := of_call_ok hcall
      rw [World.answered_events, ho]
      exact ⟨_, rfl⟩
    obtain ⟨gained, w₄, hgained, hgot⟩ := of_bind_ok hanswered
    obtain ⟨hfound, rfl⟩ := of_ofExcept_ok hgained
    obtain ⟨next, w₅, hnext, hrest⟩ := of_bind_ok hgot
    obtain ⟨-, rfl⟩ := of_ofExcept_ok hnext
    -- one round brings what its answer holds, and the rounds after it bring the rest
    have hbrings : retrieved table
        [.call c.dataTarget (.batchGetItem request) (some (.ok d))] = gained := by
      rw [retrieved, List.flatMap_singleton]
      simp only [Event.brings, hfound]
      rfl
    cases next with
    | none =>
      cases hrest
      exact ⟨_, hevents, congrArg (items ++ ·) hbrings.symm⟩
    | some left =>
      obtain ⟨es, hes, hds⟩ := ih hrest
      refine ⟨.call c.dataTarget (.batchGetItem request) (some (.ok d)) :: es, ?_, ?_⟩
      · rw [hes, hevents, List.append_assoc]
        rfl
      · rw [hds, ← hbrings, List.append_assoc, ← retrieved_append]
        rfl

theorem read_retrieves {keys : List String} {rounds : Int} {texts : List String}
    (h : read c table attributeName keys consistent rounds w = .ok texts w') :
    w.Since w' fun es => texts = (retrieved table es).map Document.render := by
  rw [read] at h
  obtain ⟨_, w₁, hcheck, h⟩ := of_bind_ok h
  obtain ⟨ds, w₂, hrounds, h⟩ := of_bind_ok h
  cases h
  obtain ⟨es, hes, rfl⟩ := readRounds_retrieves hrounds
  have hsilent := Emits.silent (check keys readLimit rounds) w
  rw [final_of_ok hcheck] at hsilent
  obtain ⟨_, hbefore, rfl⟩ := hsilent
  rw [List.append_nil] at hbefore
  exact ⟨es, by rw [hes]; exact congrArg (· ++ es) hbefore, rfl⟩

end Batch

namespace Session

variable {T : Type} [TimeScale T] {l l' : Live T}

def DataReply.strings : DataReply → List String
  | .item text => text.toList
  | .written text => [text]
  | .items texts | .allWritten texts => texts

/-- Whatever a session gives back to its user was rendered. -/
theorem strings_rendered {request : DataCall} {reply : DataReply}
    (h : request.run l = .ok reply l') : ∃ ds : List Document,
      reply.strings = ds.map Document.render := by
  obtain ⟨e, he⟩ | ⟨c, -, hrun⟩ := run_cases request l
  · rw [he] at h
    cases h
  rw [hrun] at h
  obtain ⟨h, -⟩ := of_lift_ok h
  cases request with
  | read key =>
    obtain ⟨text, w₁, hread, h⟩ := of_bind_ok h
    obtain ⟨item, w₂, -, hread⟩ := of_bind_ok hread
    cases hread
    cases h
    exact ⟨item.toList, by cases item <;> rfl⟩
  | write key =>
    obtain ⟨text, w₁, hwrite, h⟩ := of_bind_ok h
    obtain ⟨payload, w₂, -, hwrite⟩ := of_bind_ok hwrite
    obtain ⟨response, w₃, -, hwrite⟩ := of_bind_ok hwrite
    cases hwrite
    cases h
    exact ⟨[response], rfl⟩
  | readAll keys =>
    obtain ⟨texts, w₁, hread, h⟩ := of_bind_ok h
    obtain ⟨es, -, htexts⟩ := Batch.read_retrieves hread
    cases h
    exact ⟨_, htexts⟩
  | writeAll keys =>
    obtain ⟨texts, w₁, hwrite, h⟩ := of_bind_ok h
    obtain ⟨_, w₂, -, hwrite⟩ := of_bind_ok hwrite
    obtain ⟨puts, w₃, -, hwrite⟩ := of_bind_ok hwrite
    obtain ⟨_, w₄, -, hwrite⟩ := of_bind_ok hwrite
    cases hwrite
    cases h
    exact ⟨puts, rfl⟩

theorem readAll_retrieves {keys : List String} {texts : List String}
    (h : readAll keys l = .ok texts l') :
    l.world.Since l'.world fun es =>
      texts = (retrieved l.session.tableName es).map Document.render := by
  cases hc : l.session.client with
  | none =>
    rw [readAll, bind_of_error (requireClient_of_none hc)] at h
    cases h
  | some c =>
    rw [readAll_apply hc] at h
    obtain ⟨hread, -⟩ := of_lift_ok h
    exact Batch.read_retrieves hread

theorem tableName_of_start_ok {values : Nat → String} (h : start values l = .ok () l')
    (hl : Follows l.session.config l.session) :
    l'.session.tableName = l.session.config.tableName := by
  have hkeeps := (Follows.keeps (.start values)).keeps l hl
  rw [Use.run, final_of_ok h] at hkeeps
  exact hkeeps.tableName

end Session

theorem intercalate_newline (ls : List (List Char)) :
    ['\n'].intercalate (ls ++ [[]]) = ls.flatMap (· ++ ['\n']) := by
  induction ls with
  | nil => rfl
  | cons l ls ih =>
    rw [List.flatMap_cons, ← ih, List.cons_append]
    cases ls <;> exact List.intercalate_cons_cons

/-- What is printed line by line falls apart into these lines. -/
theorem Reply.splitOn_lines {ls : List String} (h : ∀ s ∈ ls, OneLine s) :
    (Reply.lines ls).out.toList.splitOn '\n' = ls.map String.toList ++ [[]] := by
  have hlines : (Reply.lines ls).out.toList =
      ['\n'].intercalate (ls.map String.toList ++ [[]]) := by
    rw [intercalate_newline, Reply.lines, String.toList_join, List.flatMap_map, List.flatMap_map]
    simp only [String.toList_append]
    rfl
  rw [hlines]
  refine List.splitOn_intercalate _ ?_ (List.append_ne_nil_of_right_ne_nil _ (List.cons_ne_nil _ _))
  intro l hl
  rcases List.mem_append.1 hl with hl | hl
  · obtain ⟨s, hs, rfl⟩ := List.mem_map.1 hl
    exact (h s hs).newline_not_mem
  · rw [List.mem_singleton.1 hl]
    exact List.not_mem_nil

namespace CommandLine

variable {payloads : Payloads} {w w' : World Float}

namespace Command

theorem withSession_retrieves {config : Config Float} {keys texts : List String}
    (h : withSession config payloads (Session.readAll keys) w = .ok texts w') :
    w.Since w' fun es => texts = (retrieved config.tableName es).map Document.render := by
  obtain ⟨values, l, l', l'', hstart, hread, hstop, rfl⟩ := of_withSession_ok_stop h
  -- neither the start nor the stop asks for items
  obtain ⟨⟨before, hbefore, hidle⟩, -⟩ := Session.start_since values ⟨.ofConfig config, w⟩
  obtain ⟨after, hafter, hidle'⟩ := Session.stop_itemCalls l'
  rw [final_of_ok hstart] at hbefore
  rw [final_of_ok hstop] at hafter
  obtain ⟨es, hes, htexts⟩ := Session.readAll_retrieves hread
  rw [Session.tableName_of_start_ok hstart (.ofConfig config)] at htexts
  refine ⟨before ++ (es ++ after), ?_, ?_⟩
  · rw [hafter, hes, hbefore, List.append_assoc, List.append_assoc]
  · dsimp only
    rw [retrieved_append, retrieved_append, retrieved_of_itemCalls hidle,
      retrieved_of_itemCalls hidle', List.append_nil, List.nil_append]
    exact htexts

def summary (i : Invocation) (items : List Document) : String :=
  "Retrieved " ++ toString items.length ++ " of " ++ toString i.keys.length ++ " keys"

theorem oneLine_summary (i : Invocation) (items : List Document) :
    OneLine (summary i items) := by
  have hnumber (n : Nat) : AsciiLine (toString n).toList := by
    rw [show toString n = n.repr from rfl, Nat.repr_eq_ofList_toDigits, String.toList_ofList]
    exact ascii_toDigits n
  rw [OneLine, summary]
  simp only [String.toList_append]
  refine ((((?_ : AsciiLine _).append (hnumber _)).append ?_).append (hnumber _)).append ?_
  iterate 3 decide

theorem readBulk_of_ok {i : Invocation} {r : Reply} (hp : i.plain = true)
    (h : readBulk.body i payloads w = .ok r w') :
    w.Since w' fun es => r =
      .lines (summary i (retrieved i.config.tableName es) ::
        (retrieved i.config.tableName es).map Document.render) := by
  obtain ⟨_, w₁, hlog, h₁⟩ := of_bind_ok h
  cases hlog
  obtain ⟨texts, w₂, hsession, h₂⟩ := of_bind_ok h₁
  obtain ⟨es, hes, rfl⟩ := withSession_retrieves hsession
  simp only [hp, if_true, List.length_map] at h₂
  cases h₂
  exact ⟨es, hes, rfl⟩

end Command

variable (w payloads) in
/-- Whatever is rendered stands in one line of plain ASCII, and so does all that a session gives
back. A batch read in running text prints its summary and then a line for each item it got. -/
theorem rendered_data_prints_as_lines :
    (∀ d : Document, ∀ c ∈ d.render.toList, 0x20 ≤ c.toNat ∧ c.toNat < 0x7f) ∧
    (∀ (l l' : Live Float) (request : Session.DataCall) (reply : Session.DataReply),
      request.run l = .ok reply l' → ∀ s ∈ reply.strings, OneLine s) ∧
    ∀ time words i es, Accepts w.environment words .readBulk i → i.plain = true →
      (run w payloads time words).exitCode = 0 →
      (run w payloads time words).world.events = w.events ++ es →
      let items := retrieved i.config.tableName es
      let printed := Command.summary i items :: items.map Document.render
      (run w payloads time words).out.toList.splitOn '\n' = printed.map String.toList ++ [[]] ∧
        ∀ s ∈ printed, OneLine s := by
  refine ⟨Document.oneLine_render, fun l l' request reply h => ?_, ?_⟩
  · obtain ⟨ds, hds⟩ := Session.strings_rendered h
    rw [hds, List.forall_mem_map]
    exact fun d _ => Document.oneLine_render d
  · intro time words i es ha hp hz hes items printed
    have hlines : ∀ s ∈ printed, OneLine s :=
      List.forall_mem_cons.2 ⟨Command.oneLine_summary i items,
        List.forall_mem_map.2 fun d _ => Document.oneLine_render d⟩
    refine ⟨?_, hlines⟩
    obtain ⟨r, w', hb⟩ := body_of_exitCode_zero ha hz
    obtain ⟨es', hes', hr⟩ := Command.readBulk_of_ok hp hb
    rw [world_run ha, final_of_ok hb, hes'] at hes
    rw [List.append_cancel_left hes] at hr
    rw [run_of_ok ha hb, hr]
    exact Reply.splitOn_lines hlines

/-- An item with a line feed in its key, and bytes that are no text. -/
def unruly : Document :=
  .object [("value", .object [("B", .bytes [0, 10, 255])]), ("id", .string "a\n\u2028")]

def withUnruly : World Float where
  clock := 0
  source := { value := fun _ => "" }
  script :=
    [⟨.ok (.object [("Table", .object
      [("TableName", .text "ndbench-table"), ("TableStatus", .text "ACTIVE")])]), 0⟩,
     ⟨.ok (.object [("Responses", .object [("ndbench-table", .list [unruly])])]), 0⟩]

theorem accepts_readBulk_plain :
    Accepts withUnruly.environment ["kvbench", "read-bulk", "a", "--text"] .readBulk
      { keys := ["a"], plain := true } :=
  ⟨["read-bulk", "a", "--text"], ["a", "--text"], by cbv, by cbv, by with_unfolding_all rfl⟩

theorem rendered_data_prints_as_lines_unruly :
    let r := run withUnruly (fun _ _ => "") "" ["kvbench", "read-bulk", "a", "--text"]
    r.exitCode = 0 ∧ r.out.toList.splitOn '\n' =
      ["Retrieved 1 of 1 keys".toList, unruly.render.toList, []] := by
  intro r
  have hends : ∃ reply w' settings table request found,
      Command.readBulk.body { keys := ["a"], plain := true } (fun _ _ => "") withUnruly =
          .ok reply w' ∧
        reply.code = 0 ∧ w'.events = [.resolve none none, .openStore none settings,
          .call .store (.describeTable (.text "ndbench-table")) (some (.ok table)),
          .call .store (.batchGetItem request) (some (.ok found)), .close .store] ∧
        (Batch.found found "ndbench-table").toOption = some [unruly] := by
    simp only [Command.body, Command.runReadBulk, Session.readAll, Batch.read, Batch.check_eq,
      Batch.problem?_one]
    exact ⟨_, _, _, _, _, _, rfl, rfl, rfl, rfl⟩
  obtain ⟨reply, w', settings, table, request, found, hb, hcode, hevents, hfound⟩ := hends
  have hzero : r.exitCode = 0 := by
    rw [show r = _ from run_of_ok accepts_readBulk_plain hb]
    exact hcode
  have hworld : r.world.events = [] ++ w'.events := by
    rw [show r.world = _ from world_run accepts_readBulk_plain, final_of_ok hb]
    rfl
  obtain ⟨-, -, hprints⟩ := rendered_data_prints_as_lines (fun _ _ => "") withUnruly
  obtain ⟨hout, -⟩ := hprints "" _ _ _ accepts_readBulk_plain rfl hzero hworld
  refine ⟨hzero, hout.trans ?_⟩
  have hitems : retrieved "ndbench-table" w'.events = [unruly] := by
    rw [hevents]
    simp only [retrieved, List.flatMap_cons, List.flatMap_nil, Event.brings, hfound]
    rfl
  rw [show ({ keys := ["a"], plain := true } : Invocation).config.tableName = "ndbench-table" from
    rfl, hitems]
  rfl

end CommandLine

end TableBench
