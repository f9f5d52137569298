import Mathlib
import TableBench.CommandLine.Program
import TableBench.Proofs.CommandLine.Parsing
import TableBench.Proofs.CommandLine.Sessions

namespace TableBench

open Run Service

inductive BenchError.Reads : BenchError → String → Prop
  | service (text : Document) (d : FaultDetail) :
    Reads (.service text d) (text.shown ++ " (Status Code: " ++ d.status.shown ++
      "; Error Code: " ++ d.code.shown ++ "; Request ID: " ++ d.requestId.shown ++ ")")
  | plain {error : BenchError} (h : ∀ text d, error ≠ .service text d) :
    Reads error error.text.shown

/-- What a user is told to try against an error, and the exit code. A table that is not there is the
caller's affair. -/
inductive BenchError.Advice : BenchError → String → Nat → Prop
  | missing {text : Document} {d : FaultDetail}
    (h : d.code.text? = some "ResourceNotFoundException") : Advice (.service text d)
      "Create the table with 'dynamodb-bench-tool kvbench create-table'" 1
  | rejected {text : Document} {d : FaultDetail}
    (h : d.code.text? ≠ some "ResourceNotFoundException") :
    Advice (.service text d) "Check table exists and AWS permissions" 3
  | transport (text : Document) :
    Advice (.transport text) "Check network connectivity, endpoint and AWS credentials" 3
  | credentials (text : Document) :
    Advice (.credentials text) "Check network connectivity, endpoint and AWS credentials" 3
  | general (text : Document) : Advice (.general text) "Check AWS credentials and permissions" 3
  | invalidArgument (text : Document) :
    Advice (.invalidArgument text) "Check the command arguments" 1
  | throttled (text : Document) :
    Advice (.throttled text) "Retry with backoff or raise the table's provisioned capacity" 4
  | provisioning (text : Document) :
    Advice (.provisioning text) "Check the table status in the AWS console and retry" 5

theorem BenchError.reads_message (error : BenchError) : error.Reads error.message := by
  cases error with
  | service text d => exact .service text d
  | _ => exact .plain nofun

theorem BenchError.Advice.code_ne_zero {error : BenchError} {advice : String} {code : Nat}
    (h : error.Advice advice code) : code ≠ 0 := by
  cases h <;> decide

theorem Report.ofError_advises (error : BenchError) (plain : Bool) :
    ∃ advice, error.Advice advice (ofError error plain).code ∧ (ofError error plain).err =
      (if plain then
        Text.unstyled ("❌ Error: " ++ error.message ++ "\n\n💡 Solution: " ++ advice)
      else (Document.object [("error", .text error.message), ("solution", .text advice),
        ("exit_code", .int (ofError error plain).code)]).write) ++ "\n" := by
  cases error with
  | service text d =>
    by_cases h : d.code.text? = some notFoundCode
    · refine ⟨"Create the table with 'dynamodb-bench-tool kvbench create-table'", ?_, ?_⟩
      · simp only [ofError, BenchError.code?, h, beq_self_eq_true, if_true]
        exact .missing h
      · simp only [ofError, BenchError.code?, h, beq_self_eq_true, if_true]
        rfl
    · refine ⟨"Check table exists and AWS permissions", ?_, ?_⟩
      · simp only [ofError, BenchError.code?, beq_iff_eq, h, if_false]
        exact .rejected h
      · simp only [ofError, BenchError.code?, beq_iff_eq, h, if_false]
        rfl
  | transport text => exact ⟨_, .transport text, rfl⟩
  | credentials text => exact ⟨_, .credentials text, rfl⟩
  | general text => exact ⟨_, .general text, rfl⟩
  | invalidArgument text => exact ⟨_, .invalidArgument text, rfl⟩
  | throttled text => exact ⟨_, .throttled text, rfl⟩
  | provisioning text => exact ⟨_, .provisioning text, rfl⟩

namespace Config

variable {T : Type}

theorem programmableTables_setAll {settings : List (Setting T)}
    (h : ∀ s ∈ settings, s.isOption = true) (c : Config T) :
    (c.setAll settings).programmableTables = c.programmableTables := by
  induction settings generalizing c with
  | nil => rfl
  | cons s settings ih =>
    rw [List.forall_mem_cons] at h
    obtain ⟨hs, hsettings⟩ := h
    have hset : (c.set s).programmableTables = c.programmableTables := by
      cases s with
      | programmableTables b => cases hs
      | _ => rfl
    exact (ih hsettings (c.set s)).trans hset

theorem programmableTables_ofOptions [TimeScale T] (options : List (Setting T)) :
    (ofOptions options []).programmableTables = false :=
  programmableTables_setAll (fun _ hs => (List.mem_filter.1 hs).2) standard

theorem maxRounds_setAll (settings : List (Setting T)) (c : Config T) :
    (c.setAll settings).maxRounds = c.maxRounds ∨
      .maxRounds (c.setAll settings).maxRounds ∈ settings := by
  induction settings generalizing c with
  | nil => exact .inl rfl
  | cons s settings ih =>
    rcases ih (c.set s) with h | h
    · by_cases hs : ∃ n, s = .maxRounds n
      · obtain ⟨n, rfl⟩ := hs
        refine .inr ?_
        rw [show (c.setAll (.maxRounds n :: settings)).maxRounds = n from h]
        exact List.mem_cons_self
      · refine .inl (Eq.trans (b := (c.set s).maxRounds) h ?_)
        cases s with
        | maxRounds n => exact absurd ⟨n, rfl⟩ hs
        | _ => rfl
    · exact .inr (List.mem_cons_of_mem s h)

theorem maxRounds_ofOptions [TimeScale T] (options : List (Setting T)) :
    (ofOptions options []).maxRounds = 10 ∨
      .maxRounds (ofOptions options []).maxRounds ∈ options :=
  (maxRounds_setAll (options.filter Setting.isOption) standard).imp_right fun h =>
    (List.mem_filter.1 h).1

end Config

def Reply.Clean (r : Reply) : Prop := r.err = "" ∧ r.code = 0

theorem Reply.clean_ite (plain : Bool) (ls : List String) (d : Document) :
    (if plain then lines ls else document d).Clean := by
  split <;> exact ⟨rfl, rfl⟩

namespace CommandLine

theorem Reply.out_ite (plain : Bool) (s : String) (d : Document) :
    (if plain then Reply.lines [s] else .document d).out =
      (if plain then s else d.write) ++ "\n" := by
  cases plain with
  | true =>
    simp only [if_true, Reply.lines, List.map_cons, List.map_nil, String.join_cons,
      String.join_nil, String.append_empty]
  | false => rfl

namespace Command

variable (c : Command) (i : Invocation) (e : Environment) (start : World Float)

/-- What is wrong with the arguments of a command that is checked before it connects. -/
def argumentProblem? : Option BenchError :=
  match c with
  | read | write => (Key.problem? (i.keys.headD "")).map Key.Problem.error
  | createTable => (Table.nameProblem? i.config.tableName).map Table.NameProblem.error
  | _ => none

def refusal? : Option BenchError :=
  (c.argumentProblem? i).or ((i.config.connectionProblem? e).map ConnectionProblem.error)

def usesSession : Bool :=
  match c with
  | read | write | readBulk | writeBulk => true
  | _ => false

def batchProblem? : Option Batch.Problem :=
  match c with
  | readBulk => Batch.problem? i.keys Batch.readLimit i.config.maxRounds
  | writeBulk => Batch.problem? i.keys Batch.writeLimit i.config.maxRounds
  | _ => none

/-- Why a command ends after its session described the table. -/
def objection? : Option BenchError :=
  if c.usesSession && i.config.lacksAccelerator e then
    some ConnectionProblem.acceleratorMissing.error
  else (c.batchProblem? i).map Batch.Problem.error

/-- What the rounds of a batch command are about, and their operation. -/
def batchWords? : Option (String × String) :=
  match c with
  | readBulk => some ("keys", "BatchGetItem")
  | writeBulk => some ("items", "BatchWriteItem")
  | _ => none

/-- What a command complains of when none of its requests failed. -/
inductive Complains : List Event → BenchError → Prop
  | refusal {error : BenchError} (h : c.refusal? i e = some error) : Complains [] error
  | objection {es : List Event} {error : BenchError} (hr : c.refusal? i e = none)
    (hd : Session.Described i.config es) (h : c.objection? i e = some error) : Complains es error
  | givenUp {es : List Event} {what operation : String} {n : Nat} (hr : c.refusal? i e = none)
    (ho : c.objection? i e = none) (hc : c.batchWords? = some (what, operation))
    (hm : es.countP Batch.isRound = i.config.maxRounds.toNat)
    (hl : Batch.unfinished i.config.tableName es = some n) :
    Complains es (.throttled (.text (toString n ++ " " ++ what ++ " still unprocessed after " ++
      toString i.config.maxRounds.toNat ++ " " ++ operation ++ " rounds")))

/-- A command breaks off while it waits for a table that it did not see active. The wait began with
the answer to its first request. -/
structure BreaksOff (w : World Float) (es : List Event) (f : Failure) : Prop where
  creates : c = createTable
  accepted : c.refusal? i start.environment = none
  unseen : ¬ Table.Shown es
  expired : ∃ o, start.script.head? = some o ∧
    Table.Expired (start.clock + o.elapsed + i.config.maxWait) i.config.maxWait
      ("Table '" ++ i.config.tableName ++ "' did not become ACTIVE") f w

/-- How a command deals with trouble: creation alone forgives faults. -/
def manner : Manner Float where
  forgives es request error := c = createTable ∧ Table.ForgivenInCreation es request error
  complains := c.Complains i start.environment
  breaksOff := c.BreaksOff i start

/-- After these requests a command is done, and has nothing to complain of. -/
structure Settled (es : List Event) : Prop where
  accepted : c.refusal? i e = none
  unopposed : c.objection? i e = none
  whole : c.batchWords?.isSome = true → Batch.unfinished i.config.tableName es = none
  active : c = createTable → Table.Shown es

/-- What a command has to report after these requests: the first trouble, if there was any. -/
def Verdict (es : List Event) : Option BenchError → Prop
  | none => (c.manner i start).Smooth es ∧ c.Settled i start.environment es
  | some error => (c.manner i start).Struck error es

variable {c i e start}

theorem strict_manner (h : c ≠ createTable) : (c.manner i start).Strict where
  forgives _ _ _ hx := h hx.1
  breaksOff _ _ _ hb := h hb.creates

theorem BreaksOff.congr {w w' : World Float} {es : List Event} {f : Failure}
    (h : c.BreaksOff i start w es f) (hw : w'.unrecorded = w.unrecorded) :
    c.BreaksOff i start w' es f := by
  obtain ⟨o, ho, hx⟩ := h.expired
  exact ⟨h.creates, h.accepted, h.unseen, o, ho, hx.congr hw⟩

theorem forgives_createTable :
    (createTable.manner i start).forgives = Table.ForgivenInCreation := by
  funext es request error
  exact propext (and_iff_right rfl)

theorem refusal?_eq (h : c.argumentProblem? i = none) :
    c.refusal? i e = (i.config.connectionProblem? e).map ConnectionProblem.error := by
  rw [refusal?, h, Option.none_or]

theorem complains_of_connectionProblem? (ha : c.argumentProblem? i = none) {p : ConnectionProblem}
    (hp : i.config.connectionProblem? e = some p) : c.Complains i e [] p.error := by
  apply Complains.refusal
  rw [refusal?_eq ha, hp]
  rfl

theorem complains_of_argumentProblem? {error : BenchError}
    (h : c.argumentProblem? i = some error) {es : List Event} (hes : es = []) :
    c.Complains i e es error := by
  rw [hes]
  exact .refusal (by rw [refusal?, h, Option.some_or])

theorem refusal?_eq_none (ha : c.argumentProblem? i = none)
    (hp : i.config.connectionProblem? e = none) : c.refusal? i e = none := by
  rw [refusal?_eq ha, hp]
  rfl

theorem objection?_eq (hl : i.config.lacksAccelerator e = false) :
    c.objection? i e = (c.batchProblem? i).map Batch.Problem.error := by
  rw [objection?, hl, Bool.and_false, if_neg Bool.false_ne_true]

section

variable {α : Type} {b : List Event} {w : World Float} {payloads : Payloads}

/-- A command that goes through a session, once its arguments are checked. -/
theorem withSession_ends_settled (hw : w.unrecorded = start.unrecorded) (hc : c.usesSession = true)
    (ha : c.argumentProblem? i = none) (hv : 1 ≤ i.config.valueSize)
    (hs : ∃ settings, ClientSettings.ofConfig i.config = .ok settings)
    (h : (c.manner i start).Calm b (· = []) w) {body : SessionRun Float α} [Grows body]
    [Session.Keeps (fun s => s.config = i.config) body] {reply : α → Reply}
    (hreply : ∀ a, (reply a).Clean)
    (hbody : c.refusal? i start.environment = none →
      c.objection? i start.environment = (c.batchProblem? i).map Batch.Problem.error →
      ∀ l : Live Float, l.session.Serving i.config →
      (c.manner i start).Calm b (Session.Described i.config) l.world →
      (c.manner i start).Ends b l body fun _ _ es => c.batchProblem? i = none ∧
        (c.batchWords?.isSome = true → Batch.unfinished i.config.tableName es = none)) :
    (c.manner i start).Ends b w (do
      let a ← withSession i.config payloads body
      return reply a) fun r _ es => r.Clean ∧ c.Settled i start.environment es := by
  have hcreate : c ≠ createTable := by
    rintro rfl
    cases hc
  have hM : (c.manner i start).Strict := strict_manner hcreate
  have hp : i.config.programmableTables = false := Config.programmableTables_ofOptions i.settings
  have he : w.environment = start.environment := (congrArg World.environment hw :)
  have hlacks (hnone : i.config.connectionProblem? w.environment = none)
      (hl : i.config.lacksAccelerator w.environment = true) (es : List Event)
      (hd : Session.Described i.config es) :
      c.Complains i start.environment es ConnectionProblem.acceleratorMissing.error := by
    rw [he] at hnone hl
    apply Complains.objection (refusal?_eq_none ha hnone) hd
    rw [objection?, hc, hl]
    rfl
  have hconnect (p : ConnectionProblem)
      (hp : i.config.connectionProblem? w.environment = some p) :
      c.Complains i start.environment [] p.error := by
    rw [he] at hp
    exact complains_of_connectionProblem? ha hp
  apply Manner.Ends.bind (withSession_ends payloads hM hv hs hp hconnect hlacks
    (fun hnone hl l hserving h' => by
      rw [he] at hnone hl
      exact hbody (refusal?_eq_none ha hnone) (objection?_eq hl) l hserving h') h)
  intro a w' h'
  refine .pure (h'.mono fun es hes => ⟨hreply a, ?_⟩)
  obtain ⟨⟨hnone, hl⟩, hbatch, hwhole⟩ := hes
  rw [he] at hnone hl
  refine ⟨refusal?_eq_none ha hnone, ?_, hwhole, fun h => absurd h hcreate⟩
  rw [objection?_eq hl, hbatch]
  rfl

theorem check_ends {x : Run Float Unit} {f : Unit → Run Float α}
    {Q : α → World Float → List Event → Prop} (h : (c.manner i start).Calm b (· = []) w)
    (hx : x = (c.argumentProblem? i).elim (return ()) Run.fail)
    (hf : c.argumentProblem? i = none → (c.manner i start).Ends b w (f ()) Q) :
    (c.manner i start).Ends b w (x >>= f) Q := by
  rw [hx]
  cases hc : c.argumentProblem? i with
  | some error => exact .complain h fun es hes => complains_of_argumentProblem? hc hes
  | none => exact hf hc

theorem checkKey_eq (key : String) :
    checkKey key = ((Key.problem? key).map Key.Problem.error).elim (return ()) Run.fail := by
  rw [checkKey]
  cases Key.problem? key <;> rfl

theorem checkTableName_eq (s : String) :
    checkTableName s =
      ((Table.nameProblem? s).map Table.NameProblem.error).elim (return ()) Run.fail := by
  rw [checkTableName]
  cases Table.nameProblem? s <;> rfl

theorem body_of_argumentProblem? {error : BenchError} (h : c.argumentProblem? i = some error)
    (payloads : Payloads) (w : World Float) :
    c.body i payloads w = .error (.reported error false) w := by
  have hfail {x : Run Float Unit} (hx : x = (c.argumentProblem? i).elim (return ()) Run.fail) :
      x w = .error (.reported error false) w := by
    rw [hx, h]
    rfl
  cases c with
  | createTable => exact bind_of_error (hfail (checkTableName_eq _)) _
  | read => exact bind_of_error (hfail (checkKey_eq _)) _
  | write => exact bind_of_error (hfail (checkKey_eq _)) _
  | _ => cases h

variable (hs : ∃ settings, ClientSettings.ofConfig i.config = .ok settings)

include hs

section

variable (hv : 1 ≤ i.config.valueSize)

include hv

theorem runRead_ends (hw : w.unrecorded = start.unrecorded)
    (h : (read.manner i start).Calm b (· = []) w) :
    (read.manner i start).Ends b w (runRead i payloads (i.keys.headD ""))
      fun r _ es => r.Clean ∧ read.Settled i start.environment es := by
  have hM : (read.manner i start).Strict := strict_manner nofun
  apply check_ends h (checkKey_eq _)
  intro ha
  apply Manner.Ends.log h
  intro w₁ hw₁ h₁
  apply withSession_ends_settled (hw₁.trans hw) rfl ha hv hs h₁ fun _ => Reply.clean_ite _ _ _
  intro _ _ l hserving h'
  obtain ⟨client, hclient⟩ := hserving.client
  have hread := Manner.Ends.lift (Item.read_ends client l.session.tableName
    l.session.attributeName (i.keys.headD "") hM h' (.bool l.session.config.consistentRead))
  exact .congr (Session.read_apply hclient _) (hread.mono fun _ _ _ _ => ⟨rfl, nofun⟩)

theorem runWrite_ends (hw : w.unrecorded = start.unrecorded)
    (h : (write.manner i start).Calm b (· = []) w) :
    (write.manner i start).Ends b w (runWrite i payloads (i.keys.headD ""))
      fun r _ es => r.Clean ∧ write.Settled i start.environment es := by
  have hM : (write.manner i start).Strict := strict_manner nofun
  apply check_ends h (checkKey_eq _)
  intro ha
  apply Manner.Ends.log h
  intro w₁ hw₁ h₁
  apply withSession_ends_settled (hw₁.trans hw) rfl ha hv hs h₁ fun _ => Reply.clean_ite _ _ _
  intro _ _ l hserving h'
  obtain ⟨client, hclient⟩ := hserving.client
  have hwrite := Manner.Ends.lift (Item.write_ends client l.session.tableName
    l.session.attributeName (i.keys.headD "") hM h')
  exact .congr (Session.write_apply hclient hserving.source _)
    (hwrite.mono fun _ _ _ _ => ⟨rfl, nofun⟩)

theorem runReadBulk_ends (hfits : Number.fits Number.maxDigits i.config.maxRounds = true)
    (hw : w.unrecorded = start.unrecorded)
    (h : (readBulk.manner i start).Calm b (· = []) w) :
    (readBulk.manner i start).Ends b w (runReadBulk i payloads)
      fun r _ es => r.Clean ∧ readBulk.Settled i start.environment es := by
  have hM : (readBulk.manner i start).Strict := strict_manner nofun
  apply Manner.Ends.log h
  intro w₁ hw₁ h₁
  apply withSession_ends_settled (hw₁.trans hw) rfl rfl hv hs h₁ fun _ => Reply.clean_ite _ _ _
  intro hr ho l hserving h'
  obtain ⟨client, hclient⟩ := hserving.client
  have hread := Manner.Ends.lift (Batch.read_ends client i.config.tableName
    l.session.attributeName i.keys i.config.maxRounds hM (.bool i.config.consistentRead) hfits
    (fun p hp es hd => .objection hr hd (by rw [ho, batchProblem?, hp]; rfl))
    (fun hp es left hm hl => .givenUp hr (by rw [ho, batchProblem?, hp]; rfl) rfl hm hl)
    (fun es hd => hd.countP_isRound) h')
  have happly := Session.readAll_apply hclient i.keys
  rw [hserving.tableName, hserving.config] at happly
  exact .congr happly (hread.mono fun _ _ _ hes => ⟨hes.2.1, fun _ => hes.2.2⟩)

theorem runWriteBulk_ends (hfits : Number.fits Number.maxDigits i.config.maxRounds = true)
    (hw : w.unrecorded = start.unrecorded)
    (h : (writeBulk.manner i start).Calm b (· = []) w) :
    (writeBulk.manner i start).Ends b w (runWriteBulk i payloads)
      fun r _ es => r.Clean ∧ writeBulk.Settled i start.environment es := by
  have hM : (writeBulk.manner i start).Strict := strict_manner nofun
  apply Manner.Ends.log h
  intro w₁ hw₁ h₁
  apply withSession_ends_settled (hw₁.trans hw) rfl rfl hv hs h₁ fun _ => Reply.clean_ite _ _ _
  intro hr ho l hserving h'
  obtain ⟨client, hclient⟩ := hserving.client
  have hwrite := Manner.Ends.lift (Batch.write_ends client i.config.tableName
    l.session.attributeName i.keys i.config.maxRounds hM hfits
    (fun p hp es hd => .objection hr hd (by rw [ho, batchProblem?, hp]; rfl))
    (fun hp es left hm hl => .givenUp hr (by rw [ho, batchProblem?, hp]; rfl) rfl hm hl)
    (fun es hd => hd.countP_isRound) h')
  have happly := Session.writeAll_apply hclient hserving.source i.keys
  rw [hserving.tableName, hserving.config] at happly
  exact .congr happly (hwrite.mono fun _ _ _ hes => ⟨hes.2.1, fun _ => hes.2.2⟩)

end

theorem runDescribeTable_ends (hw : w.unrecorded = start.unrecorded)
    (h : (describeTable.manner i start).Calm b (· = []) w) :
    (describeTable.manner i start).Ends b w (runDescribeTable i)
      fun r _ es => r.Clean ∧ describeTable.Settled i start.environment es := by
  have hM : (describeTable.manner i start).Strict := strict_manner nofun
  have he : w.environment = start.environment := (congrArg World.environment hw :)
  apply Manner.Ends.bind (withLifecycle_ends hs
    (fun p hp => complains_of_connectionProblem? rfl (he ▸ hp))
    (fun w es f hb => absurd hb (hM.breaksOff w es f)) (fun _ w' _ h' =>
      Table.Lifecycle.describe_ends _ _ h' fun es error _ => hM.forgives es _ error) h)
  intro table w' h'
  exact .pure (h'.mono fun es hes =>
    ⟨Reply.clean_ite _ _ _, refusal?_eq_none rfl (he ▸ hes.1), rfl, nofun, nofun⟩)

theorem runCreateTable_ends (hw : w.unrecorded = start.unrecorded)
    (h : (createTable.manner i start).Calm b (· = []) w) :
    (createTable.manner i start).Ends b w (runCreateTable i)
      fun r _ es => r.Clean ∧ createTable.Settled i start.environment es := by
  have hM : (createTable.manner i start).forgives = Table.ForgivenInCreation := forgives_createTable
  apply check_ends h (checkTableName_eq _)
  intro ha
  apply Manner.Ends.log h
  intro w₁ hw₁ h₁
  apply Manner.Ends.log h₁
  intro w₂ hw₂ h₂
  replace hw : w₂.unrecorded = start.unrecorded := hw₂.trans (hw₁.trans hw)
  have he : w₂.environment = start.environment := (congrArg World.environment hw :)
  refine .bind (withLifecycle_ends (Q := fun _ es => Table.Shown es) hs
    (fun p hp => complains_of_connectionProblem? ha (he ▸ hp))
    (fun w es f hb => (hb.congr rfl : BreaksOff _ i start (w.noted (.close .store)) es f)) ?_ h₂) ?_
  · intro hnone w' hw' h'
    replace hw' : w'.unrecorded = start.unrecorded := hw'.trans hw
    have hscript : w'.script = start.script := (congrArg World.script hw' :)
    have hclock : w'.clock = start.clock := (congrArg World.clock hw' :)
    have hunseen : (createTable.manner i start).Calm b (¬ Table.Shown ·) w' := by
      apply h'.mono
      rintro _ rfl ⟨_, hmem, -⟩
      cases hmem
    apply Table.Lifecycle.setUp_ends _ hM hunseen
    intro o f w₃ es ho hes hx
    rw [hscript] at ho
    rw [hclock] at hx
    exact ⟨rfl, refusal?_eq_none ha (he ▸ hnone), hes, o, ho, hx⟩
  · intro result w' h'
    exact .pure (h'.mono fun es hes =>
      ⟨Reply.clean_ite _ _ _, refusal?_eq_none ha (he ▸ hes.1), rfl, nofun, fun _ => hes.2⟩)

theorem body_ends (payloads : Payloads) (hv : 1 ≤ i.config.valueSize)
    (hfits : Number.fits Number.maxDigits i.config.maxRounds = true) (hd : c ≠ dropTable)
    (hc : c ≠ connectionInfo) (hw : w.unrecorded = start.unrecorded)
    (h : (c.manner i start).Calm b (· = []) w) :
    (c.manner i start).Ends b w (c.body i payloads)
      fun r _ es => r.Clean ∧ c.Settled i start.environment es := by
  cases c with
  | createTable => exact runCreateTable_ends hs hw h
  | dropTable => exact absurd rfl hd
  | describeTable => exact runDescribeTable_ends hs hw h
  | read => exact runRead_ends hs hv hw h
  | write => exact runWrite_ends hs hv hw h
  | readBulk => exact runReadBulk_ends hs hv hfits hw h
  | writeBulk => exact runWriteBulk_ends hs hv hfits hw h
  | connectionInfo => exact absurd rfl hc

end

end Command

/-- The words name the command, and it takes the rest of them. -/
def Accepts (e : Environment) (words : List String) (c : Command) (i : Invocation) : Prop :=
  ∃ rest args,
    splitCommand [Options.version] (fun word => if word = groupName then some () else none) words =
      .ok (some ((), rest)) ∧
    splitCommand [] Command.ofName? rest = .ok (some (c, args)) ∧ c.invocation e args = .ok i

theorem Accepts.fits {e : Environment} {words : List String} {c : Command} {i : Invocation}
    (h : Accepts e words c i) : Number.fits Number.maxDigits i.config.maxRounds = true := by
  obtain ⟨rest, args, -, -, hinvocation⟩ := h
  rcases Config.maxRounds_ofOptions i.settings with hm | hm
  · rw [Invocation.config, hm]
    exact Number.fits_mono (by decide : Number.fits 2 10 = true) (by decide)
  · exact invocation_roundsFit hinvocation _ hm

/-- The ending reports the error and nothing else, or that there was none. -/
def Ending.Reports (r : Ending) (i : Invocation) (time : String) : Option BenchError → Prop
  | none => r.exitCode = 0 ∧ r.err = logLines i.verbosity time r.world.logs
  | some error => r.out = "" ∧ ∃ message advice,
    error.Reads message ∧ error.Advice advice r.exitCode ∧
    r.err = logLines i.verbosity time r.world.logs ++
      ((if i.plain then Text.unstyled ("❌ Error: " ++ message ++ "\n\n💡 Solution: " ++ advice)
      else (Document.object [("error", .text message), ("solution", .text advice),
        ("exit_code", .int r.exitCode)]).write) ++ "\n")

/-- The ending reports the failure, or shows it as a defect if it is no error of this package. -/
inductive Ending.Shows (r : Ending) (i : Invocation) (time : String) : Failure → Prop
  | reported {error : BenchError} {chained : Bool} (hf : r.failure = none)
    (hr : r.Reports i time (some error)) : Shows r i time (.reported error chained)
  | defect {f : Failure} (hn : ∀ error chained, f ≠ .reported error chained)
    (hf : r.failure = some f) (hc : r.exitCode = 1) (ho : r.out = "")
    (he : r.err = logLines i.verbosity time r.world.logs) : Shows r i time f

theorem Ending.Shows.out_eq {r : Ending} {i : Invocation} {time : String} {f : Failure}
    (h : r.Shows i time f) : r.out = "" := by
  cases h with
  | reported _ hr => exact hr.1
  | defect _ _ _ ho => exact ho

theorem Ending.Shows.exitCode_ne_zero {r : Ending} {i : Invocation} {time : String} {f : Failure}
    (h : r.Shows i time f) : r.exitCode ≠ 0 := by
  cases h with
  | reported _ hr =>
    obtain ⟨-, message, advice, -, hadvice, -⟩ := hr
    exact hadvice.code_ne_zero
  | defect _ _ hc =>
    rw [hc]
    exact Nat.one_ne_zero

variable {w : World Float} {payloads : Payloads} {time : String} {words : List String}
  {c : Command} {i : Invocation}

theorem run_of_reply (h : Accepts w.environment words c i) {r : Reply} {w' : World Float}
    (hr : c.run i payloads w = .ok r w') :
    run w payloads time words =
      .early w' r.code r.out (logLines i.verbosity time w'.logs ++ r.err) := by
  obtain ⟨rest, args, hgroup, hcommand, hinvocation⟩ := h
  simp only [run, hgroup, runGroup, hcommand, runCommand, hinvocation, hr]

theorem run_of_failure (h : Accepts w.environment words c i) {f : Failure} {w' : World Float}
    (hr : c.run i payloads w = .error f w') :
    run w payloads time words =
      { exitCode := 1, out := "", err := logLines i.verbosity time w'.logs
        failure := some f, world := w' } := by
  obtain ⟨rest, args, hgroup, hcommand, hinvocation⟩ := h
  simp only [run, hgroup, runGroup, hcommand, runCommand, hinvocation, hr]

theorem world_run_of_failure (h : Accepts w.environment words c i) {f : Failure}
    {w' : World Float} (hr : c.run i payloads w = .error f w') :
    (run w payloads time words).world = w' := by
  rw [run_of_failure h hr]

theorem run_of_ok (h : Accepts w.environment words c i) {r : Reply} {w' : World Float}
    (hb : c.body i payloads w = .ok r w') :
    run w payloads time words =
      .early w' r.code r.out (logLines i.verbosity time w'.logs ++ r.err) :=
  run_of_reply h (bind_of_ok (attempt_of_ok hb) _)

theorem run_of_reported (h : Accepts w.environment words c i) {error : BenchError} {chained : Bool}
    {w' : World Float} (hb : c.body i payloads w = .error (.reported error chained) w') :
    run w payloads time words = .early w' (Report.ofError error i.plain).code ""
      (logLines i.verbosity time w'.logs ++ (Report.ofError error i.plain).err) := by
  have hrun : c.run i payloads w = .ok (Report.ofError error i.plain) w' :=
    bind_of_ok (attempt_of_error hb) _
  rw [run_of_reply h hrun]
  rfl

theorem reports_of_reported (time : String) (h : Accepts w.environment words c i)
    {error : BenchError} {chained : Bool} {w' : World Float}
    (hb : c.body i payloads w = .error (.reported error chained) w') :
    (run w payloads time words).failure = none ∧
      (run w payloads time words).Reports i time (some error) := by
  obtain ⟨advice, hadvice, herr⟩ := Report.ofError_advises error i.plain
  rw [run_of_reported h hb]
  refine ⟨rfl, rfl, error.message, advice, error.reads_message, hadvice, ?_⟩
  rw [Ending.early, herr]

theorem run_of_unreported (h : Accepts w.environment words c i) {f : Failure} {w' : World Float}
    (hf : ∀ error chained, f ≠ .reported error chained)
    (hb : c.body i payloads w = .error f w') :
    run w payloads time words =
      { exitCode := 1, out := "", err := logLines i.verbosity time w'.logs
        failure := some f, world := w' } := by
  apply run_of_failure h
  rw [Command.run, bind_of_ok (attempt_of_error hb)]
  cases f with
  | reported error chained => exact absurd rfl (hf error chained)
  | _ => rfl

theorem world_run (h : Accepts w.environment words c i) :
    (run w payloads time words).world = final (c.body i payloads) w := by
  cases hb : c.body i payloads w with
  | ok r w' =>
    rw [run_of_ok h hb, final_of_ok hb]
    rfl
  | error f w' =>
    rw [final_of_error hb]
    cases f with
    | reported error chained =>
      rw [run_of_reported h hb]
      rfl
    | _ => exact world_run_of_failure h (bind_of_ok (attempt_of_error hb) _)

theorem shows_of_error (h : Accepts w.environment words c i) {f : Failure} {w' : World Float}
    (hb : c.body i payloads w = .error f w') : (run w payloads time words).Shows i time f := by
  by_cases hf : ∃ error chained, f = .reported error chained
  · obtain ⟨error, chained, rfl⟩ := hf
    obtain ⟨hfailure, hreports⟩ := reports_of_reported time h hb
    exact .reported hfailure hreports
  · have hn (error : BenchError) (chained : Bool) : f ≠ .reported error chained :=
      fun he => hf ⟨error, chained, he⟩
    rw [run_of_unreported h hn hb]
    exact .defect hn rfl rfl rfl rfl

theorem body_of_exitCode_zero (h : Accepts w.environment words c i)
    (hz : (run w payloads time words).exitCode = 0) :
    ∃ r w', c.body i payloads w = .ok r w' := by
  cases hb : c.body i payloads w with
  | ok r w' => exact ⟨r, w', rfl⟩
  | error f w' => exact absurd hz (shows_of_error h hb).exitCode_ne_zero

theorem verdict_of_calm (time : String) (h : Accepts w.environment words c i) {r : Reply}
    {w' : World Float} {es : List Event} (hb : c.body i payloads w = .ok r w')
    (hcalm : (c.manner i w).Calm w.events
      (fun es => r.Clean ∧ c.Settled i w.environment es) w')
    (hes : w'.events = w.events ++ es) :
    (run w payloads time words).failure = none ∧ c.Verdict i w (calls es) none ∧
      (run w payloads time words).Reports i time none := by
  obtain ⟨hsmooth, ⟨herr, hcode⟩, hsettled⟩ := hcalm.of_events hes
  rw [run_of_ok h hb, herr, String.append_empty]
  exact ⟨rfl, ⟨hsmooth, hsettled⟩, hcode, rfl⟩

theorem verdict_of_troubled (time : String) (h : Accepts w.environment words c i)
    {error : BenchError} {chained : Bool} {w' : World Float} {es : List Event}
    (hb : c.body i payloads w = .error (.reported error chained) w')
    (htroubled : (c.manner i w).Troubled w.events error w') (hes : w'.events = w.events ++ es) :
    (run w payloads time words).failure = none ∧ c.Verdict i w (calls es) (some error) ∧
      (run w payloads time words).Reports i time (some error) := by
  obtain ⟨hfailure, hreports⟩ := reports_of_reported time h hb
  exact ⟨hfailure, htroubled.of_events hes, hreports⟩

/-- As long as the store's answers are regular, a command that reaches it exits with zero and writes
no error if there was no trouble. Else the first trouble, be it a fault or a complaint of its own,
is all that it reports, with the message and the exit code of that error. Creation may break off its
wait for the table besides: it reports that the time was up or the wait was interrupted, but a wait
that is too long ends in a defect. -/
theorem run_reports_first_trouble {es : List Event} (ha : Accepts w.environment words c i)
    (hd : c ≠ .dropTable) (hc : c ≠ .connectionInfo) (hv : 1 ≤ i.config.valueSize)
    (hs : ∃ settings, ClientSettings.ofConfig i.config = .ok settings)
    (hes : (run w payloads time words).world.events = w.events ++ es)
    (hr : regular.Serves () es ()) :
    let r := run w payloads time words
    (r.failure = none ∧ ∃ verdict, c.Verdict i w (calls es) verdict ∧ r.Reports i time verdict) ∨
      ∃ f, (c.manner i w).Smooth (calls es) ∧ c.BreaksOff i w r.world (calls es) f ∧
        r.Shows i time f := by
  intro r
  rw [world_run ha] at hes
  have hends := Command.body_ends hs payloads hv ha.fits hd hc rfl .start es () hes hr
  cases hb : c.body i payloads w with
  | ok reply w' =>
    rw [hb] at hends
    rw [final_of_ok hb] at hes
    obtain ⟨hfailure, hverdict, hreports⟩ := verdict_of_calm time ha hb hends hes
    exact .inl ⟨hfailure, none, hverdict, hreports⟩
  | error f w' =>
    rw [hb] at hends
    rw [final_of_error hb] at hes
    cases hends with
    | @troubled error _ chained htroubled =>
      obtain ⟨hfailure, hverdict, hreports⟩ := verdict_of_troubled time ha hb htroubled hes
      exact .inl ⟨hfailure, some error, hverdict, hreports⟩
    | brokenOff hbroken =>
      obtain ⟨hsmooth, hbreaks⟩ := hbroken.of_events hes
      rw [show r.world = w' from (world_run ha).trans (final_of_error hb)]
      exact .inr ⟨f, hsmooth, hbreaks, shows_of_error ha hb⟩

def notFound : Fault :=
  .rejected ⟨"DescribeTable", some (.text notFoundCode), none, .int 400, .null, none⟩

def withoutTable : World Float where
  clock := 0
  source := { value := fun _ => "" }
  script := [⟨.error notFound, 0⟩]

def missed : Event :=
  .call .store (.describeTable (.text "ndbench-table")) (some (.error notFound))

theorem accepts_read :
    Accepts withoutTable.environment ["kvbench", "read", "k1"] .read { keys := ["k1"] } :=
  ⟨["read", "k1"], ["k1"], by cbv, by cbv, by cbv⟩

theorem run_reports_first_trouble_withoutTable :
    let r := run withoutTable (fun _ _ => "") "" ["kvbench", "read", "k1"]
    r.failure = none ∧ ∃ error,
      Command.Verdict .read { keys := ["k1"] } withoutTable [missed] (some error) ∧
        r.Reports { keys := ["k1"] } "" (some error) := by
  intro r
  have hevents : ∃ settings, (final (Command.read.body { keys := ["k1"] } fun _ _ => "")
      withoutTable).events =
        [.resolve none none, .openStore none settings, missed, .close .store] := ⟨_, rfl⟩
  obtain ⟨settings, hevents⟩ := hevents
  have hfault : notFound.Orderly := ⟨.inr ⟨_, rfl⟩, .inr ⟨400, rfl⟩⟩
  have hserves : regular.Serves ()
      [.resolve none none, .openStore none settings, missed, .close .store] () :=
    .aside rfl (.aside rfl (.call (.fault hfault) (.aside rfl (.nil ()))))
  have hreports : (r.failure = none ∧ ∃ verdict,
      Command.Verdict .read { keys := ["k1"] } withoutTable [missed] verdict ∧
        r.Reports { keys := ["k1"] } "" verdict) ∨ _ :=
    run_reports_first_trouble accepts_read nofun nofun (by decide) ⟨_, rfl⟩
      (by rw [world_run accepts_read, hevents]; rfl) hserves
  obtain ⟨hfailure, verdict, hverdict, hreports⟩ | ⟨f, -, hbreaks, -⟩ := hreports
  · cases verdict with
    | some error => exact ⟨hfailure, error, hverdict, hreports⟩
    | none =>
      -- reading forgives no fault, so that this one is trouble
      obtain ⟨error, chained, hf⟩ := hfault.failure
      have hsmooth : (Command.read.manner { keys := ["k1"] } withoutTable).Smooth
          ([] ++ [missed]) := hverdict.1
      cases (hsmooth.forgives hf).1
  · cases hbreaks.creates

end CommandLine

end TableBench
