import TableBench.Proofs.CommandLine.Visit
import TableBench.Proofs.KeyValue.Keys

namespace TableBench

open Run

theorem sent_within {T : Type} {w w₁ w₂ w₃ : World T} (h : w.Leads w₁)
    (hsent : w₁.Since w₂ (itemCalls · ≠ [])) (h' : w₂.Leads w₃) :
    w.Since w₃ (itemCalls · ≠ []) := by
  obtain ⟨before, hbefore⟩ := h.events
  obtain ⟨es, hes, hne⟩ := hsent
  obtain ⟨after, hafter⟩ := h'.events
  refine ⟨before ++ (es ++ after), ?_, ?_⟩
  · rw [← hafter, hes, ← hbefore, List.append_assoc, List.append_assoc]
  · dsimp only
    rw [itemCalls_append, itemCalls_append]
    intro hnil
    exact hne (List.append_eq_nil_iff.1 (List.append_eq_nil_iff.1 hnil).2).1

namespace Session

variable {T : Type} [TimeScale T] {values : Nat → String} {l : Live T}

theorem attributeName_of_start_ok {l' : Live T} (h : start values l = .ok () l') :
    l'.session.attributeName = l.session.config.attributeName := by
  have hconfig := (keeps_start l.session.config values).keeps l rfl
  rw [final_of_ok h] at hconfig
  rw [start_eq] at h
  obtain ⟨_, l₁, -, h⟩ := of_bind_ok h
  obtain ⟨_, l₂, -, h⟩ := of_bind_ok h
  rw [settle_apply] at h
  cases h
  exact congrArg Config.attributeName hconfig

end Session

namespace CommandLine

namespace Command

variable {α : Type} {config : Config Float} {payloads : Payloads} {w : World Float}
  (request : Session.DataCall) {x : SessionRun Float α} {g : α → Session.DataReply}

/-- The requests about items of a session that is used for one data request. -/
theorem withSession_rounds (hp : config.programmableTables = false)
    (ha : config.attributeName ≠ Item.valueAttribute) [∀ s, Session.Keeps (· = s) x]
    (hx : request.run = (do let a ← x; return g a)) :
    w.Since (final (withSession config payloads x) w)
      fun es => Rounds config.attributeName request.keys (itemCalls es) := by
  apply withSession_since_of hp x (.done _)
  intro values
  obtain ⟨⟨es, hes, hnone⟩, hsource⟩ := Session.start_since values ⟨.ofConfig config, w⟩
  cases hr : Session.start values ⟨.ofConfig config, w⟩ with
  | error e l =>
    rw [final_of_error hr] at hes
    rw [final_of_error (bind_of_error hr _)]
    refine ⟨es, hes, ?_⟩
    dsimp only
    rw [itemCalls_append, hnone, Session.itemCalls_closing]
    exact .done _
  | ok _ l =>
    rw [final_of_ok hr] at hes hsource
    rw [final_bind_of_ok hr]
    have hname : l.session.attributeName = config.attributeName :=
      Session.attributeName_of_start_ok hr
    rw [← hname] at ha
    obtain ⟨es', hes', hrounds⟩ := Session.run_rounds request hsource ha
    rw [hx, final_bind_of_still x fun _ _ => rfl] at hes'
    refine ⟨es ++ es', by rw [hes', hes, List.append_assoc], ?_⟩
    dsimp only
    rw [itemCalls_append, itemCalls_append, hnone, hrounds.itemCalls_eq,
      Session.itemCalls_closing, List.append_nil, ← hname]
    exact hrounds

theorem withSession_sends (ha : config.attributeName ≠ Item.valueAttribute)
    (hx : request.run = (do let a ← x; return g a)) {a : α} {w' : World Float}
    (h : withSession config payloads x w = .ok a w') : w.Since w' (itemCalls · ≠ []) := by
  obtain ⟨values, l, l', hstart, hrun, hleads⟩ := of_withSession_ok h
  obtain ⟨-, hsource⟩ := Session.start_since values ⟨.ofConfig config, w⟩
  rw [final_of_ok hstart] at hsource
  have hreply : request.run l = .ok (g a) l' := by
    rw [hx]
    exact bind_of_ok hrun _
  have hsent := Session.run_sends hsource
    (by rw [Session.attributeName_of_start_ok hstart]; exact ha) hreply
  exact sent_within (Grows.leads_of_ok hstart) hsent hleads

variable (c : Command) (i : Invocation)

def asked : List String :=
  match c.takes with
  | .nothing => []
  | .key => [i.keys.headD ""]
  | .keys => i.keys

variable {c i}

theorem dataCall?_of_usesSession (hc : c.usesSession = true) :
    ∃ request, c.dataCall? i = some request ∧ request.keys = c.asked i := by
  cases c with
  | read => exact ⟨_, rfl, rfl⟩
  | write => exact ⟨_, rfl, rfl⟩
  | readBulk => exact ⟨_, rfl, rfl⟩
  | writeBulk => exact ⟨_, rfl, rfl⟩
  | _ => cases hc

variable (payloads w) in
theorem body_rounds (hc : c.usesSession = true)
    (ha : i.config.attributeName ≠ Item.valueAttribute) :
    w.Since (final (c.body i payloads) w)
      fun es => Rounds i.config.attributeName (c.asked i) (itemCalls es) := by
  have hp : i.config.programmableTables = false := Config.programmableTables_ofOptions i.settings
  obtain ⟨request, hd, hkeys⟩ := dataCall?_of_usesSession (i := i) hc
  rw [← hkeys]
  apply body_since hd (.done _)
  intro w β x g hx _ _
  exact withSession_rounds request hp ha hx

instance grows_checkKey (key : String) : Grows (checkKey key) := by
  rw [checkKey]
  split <;> infer_instance

theorem body_sends (hc : c.usesSession = true)
    (ha : i.config.attributeName ≠ Item.valueAttribute) {r : Reply} {w' : World Float}
    (h : c.body i payloads w = .ok r w') : w.Since w' (itemCalls · ≠ []) := by
  cases c with
  | read =>
    obtain ⟨_, w₁, hcheck, h⟩ := of_bind_ok h
    obtain ⟨_, w₂, hlog, h⟩ := of_bind_ok h
    obtain ⟨a, w₃, hsession, h⟩ := of_bind_ok h
    have hsent := withSession_sends (.read (i.keys.headD "")) ha rfl hsession
    exact sent_within ((Grows.leads_of_ok hcheck).trans (Grows.leads_of_ok hlog)) hsent
      (Grows.leads_of_ok h)
  | write =>
    obtain ⟨_, w₁, hcheck, h⟩ := of_bind_ok h
    obtain ⟨_, w₂, hlog, h⟩ := of_bind_ok h
    obtain ⟨a, w₃, hsession, h⟩ := of_bind_ok h
    have hsent := withSession_sends (.write (i.keys.headD "")) ha rfl hsession
    exact sent_within ((Grows.leads_of_ok hcheck).trans (Grows.leads_of_ok hlog)) hsent
      (Grows.leads_of_ok h)
  | readBulk =>
    obtain ⟨_, w₁, hlog, h⟩ := of_bind_ok h
    obtain ⟨a, w₂, hsession, h⟩ := of_bind_ok h
    have hsent := withSession_sends (.readAll i.keys) ha rfl hsession
    exact sent_within (Grows.leads_of_ok hlog) hsent (Grows.leads_of_ok h)
  | writeBulk =>
    obtain ⟨_, w₁, hlog, h⟩ := of_bind_ok h
    obtain ⟨a, w₂, hsession, h⟩ := of_bind_ok h
    have hsent := withSession_sends (.writeAll i.keys) ha rfl hsession
    exact sent_within (Grows.leads_of_ok hlog) hsent (Grows.leads_of_ok h)
  | _ => cases hc

theorem argumentProblem?_of_bad_key (hk : c.takes = .key) {p : Key.Problem}
    (hp : Key.problem? (i.keys.headD "") = some p) : c.argumentProblem? i = some p.error := by
  cases c with
  | read => exact congrArg (Option.map Key.Problem.error) hp
  | write => exact congrArg (Option.map Key.Problem.error) hp
  | _ => cases hk

end Command

variable {w : World Float} {payloads : Payloads} {time : String} {words : List String}
  {c : Command} {i : Invocation} {es : List Event}

/-- As long as the store names as left over only what it was sent, a command asks for no other keys
than those it was given, and asks for all of them at first; when it succeeds it has done so. The
commands with one key check it before that. Those with many check none of theirs. -/
theorem run_checks_single_keys_only (ha : Accepts w.environment words c i)
    (hc : c.usesSession = true) (hn : i.config.attributeName ≠ Item.valueAttribute)
    (hes : (run w payloads time words).world.events = w.events ++ es)
    (hs : ∀ e ∈ itemCalls es, e.Sincere i.config.attributeName) :
    let r := run w payloads time words
    let keys := Event.keys i.config.attributeName
    (∀ e ∈ itemCalls es, keys e ⊆ c.asked i) ∧
      (∀ e, (itemCalls es).head? = some e → keys e = c.asked i) ∧
      (r.exitCode = 0 → itemCalls es ≠ []) ∧
      (c.takes = .key → (∀ e ∈ itemCalls es, ∀ k ∈ keys e, Key.problem? k = none) ∧
        ∀ p, Key.problem? (i.keys.headD "") = some p →
          es = [] ∧ r.failure = none ∧ r.Reports i time (some p.error)) := by
  intro r keys
  obtain ⟨es', hes', hrounds⟩ := Command.body_rounds payloads w hc hn
  have he : es = es' := by
    rw [world_run ha, hes'] at hes
    exact (List.append_cancel_left hes).symm
  rw [← he] at hrounds
  have hsubset := hrounds.keys_subset hs
  refine ⟨hsubset, fun e => hrounds.head_keys, ?_, ?_⟩
  · intro hz
    obtain ⟨reply, w', hb⟩ := body_of_exitCode_zero ha hz
    obtain ⟨es₁, hes₁, hsent⟩ := Command.body_sends hc hn hb
    rw [world_run ha, final_of_ok hb, hes₁] at hes
    rwa [← List.append_cancel_left hes]
  · intro hk
    have hbad : ∀ p, Key.problem? (i.keys.headD "") = some p →
        es = [] ∧ r.failure = none ∧ r.Reports i time (some p.error) := by
      intro p hp
      have hb := Command.body_of_argumentProblem? (Command.argumentProblem?_of_bad_key hk hp)
        payloads w
      rw [world_run ha, final_of_error hb] at hes
      exact ⟨List.self_eq_append_right.1 hes, reports_of_reported time ha hb⟩
    refine ⟨?_, hbad⟩
    intro e he k hkey
    cases hp : Key.problem? (i.keys.headD "") with
    | some p =>
      obtain ⟨hnil, -⟩ := hbad p hp
      rw [hnil] at he
      cases he
    | none =>
      have hasked : c.asked i = [i.keys.headD ""] := by rw [Command.asked, hk]
      have hmem := hsubset e he hkey
      rw [hasked, List.mem_singleton] at hmem
      rw [hmem, hp]

def nothingFound : Document := .object [("Responses", .object [])]

def withEmptyTable : World Float where
  clock := 0
  source := { value := fun _ => "" }
  script :=
    [⟨.ok (.object [("Table", .object
      [("TableName", .text "ndbench-table"), ("TableStatus", .text "ACTIVE")])]), 0⟩,
     ⟨.ok nothingFound, 0⟩]

theorem accepts_readBulk_empty :
    Accepts withEmptyTable.environment ["kvbench", "read-bulk", ""] .readBulk { keys := [""] } :=
  ⟨["read-bulk", ""], [""], by cbv, by cbv, by cbv⟩

theorem run_checks_single_keys_only_bulk :
    let r := run withEmptyTable (fun _ _ => "") "" ["kvbench", "read-bulk", ""]
    Key.problem? "" = some .empty ∧ r.exitCode = 0 ∧
      ∃ e ∈ r.world.events, e.aboutItems = true ∧ e.keys "id" = [""] := by
  intro r
  have hends : ∃ reply w' settings table request,
      Command.readBulk.body { keys := [""] } (fun _ _ => "") withEmptyTable = .ok reply w' ∧
        reply.code = 0 ∧ w'.events = [.resolve none none, .openStore none settings,
          .call .store (.describeTable (.text "ndbench-table")) (some (.ok table)),
          .call .store (.batchGetItem request) (some (.ok nothingFound)), .close .store] := by
    simp only [Command.body, Command.runReadBulk, Session.readAll, Batch.read, Batch.check_eq,
      Batch.problem?_one]
    exact ⟨_, _, _, _, _, rfl, rfl, rfl⟩
  obtain ⟨reply, w', settings, table, request, hb, hcode, hevents⟩ := hends
  have hzero : r.exitCode = 0 := by
    rw [show r = _ from run_of_ok accepts_readBulk_empty hb]
    exact hcode
  have hworld : r.world.events = [] ++ w'.events := by
    rw [show r.world = _ from world_run accepts_readBulk_empty, final_of_ok hb]
    rfl
  have hsincere : ∀ e ∈ itemCalls w'.events, e.Sincere "id" := by
    rw [hevents]
    exact List.forall_mem_singleton.2 (List.nil_subset _)
  have hsent := run_checks_single_keys_only accepts_readBulk_empty rfl (by decide) hworld hsincere
  obtain ⟨-, hhead, hne, -⟩ := hsent
  obtain ⟨e, es, he⟩ := List.exists_cons_of_ne_nil (hne hzero)
  have hmem : e ∈ itemCalls w'.events := by
    rw [he]
    exact List.mem_cons_self
  obtain ⟨hmem, hitems⟩ := List.mem_filter.1 hmem
  refine ⟨rfl, hzero, e, ?_, hitems, hhead e (by rw [he]; rfl)⟩
  rw [hworld]
  exact hmem

end CommandLine

end TableBench
