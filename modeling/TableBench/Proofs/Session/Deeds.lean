import TableBench.Proofs.Run.Faults
import TableBench.Proofs.Session.History

namespace TableBench

open Run Table World

/-- What a client, a batch, the life of a table or a session is asked to do. -/
inductive Deed (T : Type) where
  | openStore (config : Config T)
  | openAccelerator (config : Config T)
  | send (c : Client) (request : Request)
  | close (c : Client)
  | readItem (c : Client) (table attributeName key : String) (consistent : Document)
  | writeItem (c : Client) (table attributeName key : String)
  | readBatch (c : Client) (table attributeName : String) (keys : List String)
    (consistent : Document) (rounds : Int)
  | writeBatch (c : Client) (table attributeName : String) (keys : List String) (rounds : Int)
  | describe (l : Lifecycle T) (tableName : String)
  | create (l : Lifecycle T) (d : Definition)
  | await (l : Lifecycle T) (goal : Goal) (tableName : String)
  | ensure (l : Lifecycle T) (d : Definition)
  | drop (l : Lifecycle T) (tableName : String)
  | cleanUp (l : Lifecycle T) (tableName : String)
  | adopt (s : Session T)
  | use (u : Session.Use)

variable {T : Type} [TimeScale T]

def Deed.run : Deed T → SessionRun T Unit
  | openStore config => SessionRun.lift (Run.openStore config)
  | openAccelerator config => SessionRun.lift (Run.openAccelerator config)
  | send c request => do
    let _ ← SessionRun.lift (c.send request)
  | close c => SessionRun.lift c.close
  | readItem c table attributeName key consistent => do
    let _ ← SessionRun.lift (Item.read c table attributeName key consistent)
  | writeItem c table attributeName key => do
    let _ ← SessionRun.lift (Item.write c table attributeName key)
  | readBatch c table attributeName keys consistent rounds => do
    let _ ← SessionRun.lift (Batch.read c table attributeName keys consistent rounds)
  | writeBatch c table attributeName keys rounds => do
    let _ ← SessionRun.lift (Batch.write c table attributeName keys rounds)
  | describe l tableName => do
    let _ ← SessionRun.lift (l.describe tableName)
  | create l d => do
    let _ ← SessionRun.lift (l.create d)
  | await l goal tableName => do
    let _ ← SessionRun.lift (l.await goal tableName)
  | ensure l d => do
    let _ ← SessionRun.lift (l.ensure d)
  | drop l tableName => do
    let _ ← SessionRun.lift (l.drop tableName)
  | cleanUp l tableName => do
    let _ ← SessionRun.lift (l.cleanUp tableName)
  | adopt s => Session.change fun _ => s
  | use u => u.run

/-- Deeds one after the other; a failure does not keep the next from being done. -/
def carryOut : List (Deed T) → SessionRun T Unit
  | [] => return ()
  | deed :: deeds => do
    let _ ← attempt deed.run
    carryOut deeds

namespace Run.Obeys

variable {R : World T → World T → Prop}

instance send [Stepwise R] (c : Client) (request : Request) :
    Obeys R (c.send request : Run T _) := by
  cases request <;> unfold Client.send <;> infer_instance

variable [Heedless R]

instance use (u : Session.Use) : Obeys R (u.run : SessionRun T Unit) := by
  cases u <;> unfold Session.Use.run <;> infer_instance

instance deed (d : Deed T) : Obeys R d.run := by
  cases d <;> unfold Deed.run <;> infer_instance

instance carryOut (deeds : List (Deed T)) : Obeys R (TableBench.carryOut deeds) := by
  induction deeds with
  | nil => exact Obeys.pure _
  | cons deed deeds ih =>
    unfold TableBench.carryOut
    infer_instance

end Run.Obeys

theorem told_records {fs : List Fault} (h : ∀ f ∈ fs, f.Proper) :
    ∃ blocks, List.Forall₂ Fault.Told fs blocks ∧
      fs.flatMap Fault.records = blocks.flatten.map faultRecord := by
  induction fs with
  | nil => exact ⟨[], .nil, rfl⟩
  | cons f fs ih =>
    obtain ⟨hf, hfs⟩ := List.forall_mem_cons.1 h
    obtain ⟨lines, hlines, hrecords⟩ := hf.told
    obtain ⟨blocks, hblocks, hrest⟩ := ih hfs
    refine ⟨lines :: blocks, .cons hlines hblocks, ?_⟩
    rw [List.flatMap_cons, hrecords, hrest, List.flatten_cons, List.map_append]

/-- Whatever is done with clients, items, batches, tables and sessions, and whatever comes of it:
the part that reports faults writes one report on each fault in the order of the requests, be the
fault passed on or absorbed, and nothing else. The faults are those of the answers used up. -/
theorem faults_reported_once (deeds : List (Deed T)) (l : Live T)
    (hproper : ∀ o ∈ l.world.script, ∀ f, o.answer = .error f → f.Proper) :
    ∃ used es rs blocks,
      let l' := final (carryOut deeds) l
      l.world.script = used ++ l'.world.script ∧
      l'.world.events = l.world.events ++ es ∧
      l'.world.logs = l.world.logs ++ rs ∧
      es.filterMap Event.fault? = used.filterMap Outcome.fault? ∧
      List.Forall₂ Fault.Told (es.filterMap Event.fault?) blocks ∧
      faultReports rs = blocks.flatten.map faultRecord := by
  obtain ⟨used, es, rs, h⟩ := (Obeys.carryOut (R := Reports) deeds).obeys l
  have hfaults : ∀ f ∈ es.filterMap Event.fault?, f.Proper := by
    intro f hf
    rw [h.faults, List.mem_filterMap] at hf
    obtain ⟨o, ho, hf⟩ := hf
    have hmem : o ∈ l.world.script := by
      rw [show l.world.script = _ from h.script]
      exact List.mem_append_left _ ho
    refine hproper o hmem f ?_
    rw [Outcome.fault?] at hf
    split at hf
    · cases hf
    · next ha => rw [ha, Option.some.inj hf]
  obtain ⟨blocks, htold, hrecords⟩ := told_records hfaults
  exact ⟨used, es, rs, blocks, h.script, h.events, h.logs, h.faults, htold,
    h.reports.trans hrecords⟩

def refusal (code : String) : Fields :=
  [("Error", .object [("Code", .text code), ("Message", .text "no")]),
   ("ResponseMetadata", .object [("HTTPStatusCode", .int 400)])]

theorem refuses_refusal (code : String) : (refusal code).Refuses :=
  ⟨.there _, .there _, .there code, .there "no", .there 400⟩

/-- A session in surroundings where a table is there already, is too busy to be deleted and then out
of reach, and is gone in the end. -/
def beset : Live Float where
  session := .ofConfig .standard
  world :=
    { clock := 0
      source := { value := fun _ => "" }
      script := [
        ⟨.error (.rejected (.ofResponse "CreateTable" (.object (refusal inUseCode)))), 0⟩,
        ⟨.error (.rejected (.ofResponse "DeleteTable"
          (.object (refusal "ThrottlingException")))), 0⟩,
        ⟨.error (.transport "out of reach"), 0⟩,
        ⟨.error (.rejected (.ofResponse "DescribeTable" (.object (refusal notFoundCode)))), 0⟩] }

theorem faults_reported_once_beset :
    let l : Lifecycle Float := ⟨.direct, 1, 60⟩
    let deeds := [.create l beset.session.config.table, .cleanUp l "bench",
      .await l .deleted "bench", .use (.call (.read "k"))]
    let l' := final (carryOut deeds) beset
    (∀ o ∈ beset.world.script, ∀ f, o.answer = .error f → f.Proper) ∧
      ∃ blocks, blocks.length = 4 ∧
        List.Forall₂ Fault.Told (l'.world.events.filterMap Event.fault?) blocks ∧
        faultReports l'.world.logs = blocks.flatten.map faultRecord := by
  intro l deeds l'
  have hproper : ∀ o ∈ beset.world.script, ∀ f, o.answer = .error f → f.Proper := by
    simp only [beset, List.forall_mem_cons, Except.error.injEq, forall_eq']
    exact ⟨.rejected _ (refuses_refusal _), .rejected _ (refuses_refusal _), .transport _,
      .rejected _ (refuses_refusal _), List.forall_mem_nil _⟩
  refine ⟨hproper, ?_⟩
  obtain ⟨used, es, rs, blocks, -, he, hl, -, htold, hreports⟩ :=
    faults_reported_once deeds beset hproper
  obtain rfl : l'.world.events = es := he
  obtain rfl : l'.world.logs = rs := hl
  refine ⟨blocks, ?_, htold, hreports⟩
  rw [← htold.length_eq]
  with_unfolding_all rfl

end TableBench
