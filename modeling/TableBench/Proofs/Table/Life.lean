import TableBench.Proofs.Table.Countdown
import TableBench.Proofs.Table.Orderly

namespace TableBench.Table

theorem Definition.request_inj {d d' : Definition} (h : d.request = d'.request) : d = d' := by
  cases d
  cases d'
  simp only [Definition.request, List.cons.injEq, Prod.mk.injEq, Document.text.injEq,
    Document.list.injEq, Document.object.injEq, Document.int.injEq, true_and, and_true] at h
  obtain ⟨rfl, -, ⟨rfl, rfl⟩, rfl, rfl⟩ := h
  rfl

theorem Status.ofService_eq_active_iff (status : Option Document) :
    Status.ofService (.orNull status) = .active ↔ status = some (.text "ACTIVE") := by
  constructor
  · intro h
    cases status with
    | none => cases h
    | some d =>
      cases d with
      | text s =>
        simp only [Document.orNull, Option.getD_some, Status.ofService] at h
        generalize hf : Status.all.find? (fun t => t.name = s) = found at h
        cases found with
        | none => cases h
        | some t =>
          rw [Option.getD_some] at h
          subst h
          have hs := List.find?_some hf
          rw [decide_eq_true_eq] at hs
          rw [← hs]
          rfl
      | _ => cases h
  · rintro rfl
    exact Status.ofService_name .active

/-- A description that reports what the table was created with. -/
structure Describes (d : Definition) (status : Option Document) (fs : Fields) : Prop where
  name : fs.lookup "TableName" = some (.text d.tableName)
  keys : fs.lookup "KeySchema" = d.request.lookup "KeySchema"
  definitions : fs.lookup "AttributeDefinitions" = d.request.lookup "AttributeDefinitions"
  capacities : ∃ throughput, fs.lookup "ProvisionedThroughput" = some (.object throughput) ∧
    throughput.lookup "ReadCapacityUnits" = some (.int d.readCapacity) ∧
    throughput.lookup "WriteCapacityUnits" = some (.int d.writeCapacity)
  status : fs.lookup "TableStatus" = status

theorem Descriptor.hashKey_of_single (a : Document) :
    Descriptor.hashKey [.object [("AttributeName", a), ("KeyType", .text "HASH")]] = .ok a := by
  simp [Descriptor.hashKey, Document.requireFields, bind, Except.bind, Descriptor.holds,
    Fields.lookup_cons, Document.orNull, Document.same, Document.require]

theorem Descriptor.typeOf_of_single (s : String) (t : Document) :
    Descriptor.typeOf (.text s) [.object [("AttributeName", .text s), ("AttributeType", t)]] =
      .ok t := by
  simp [Descriptor.typeOf, Document.requireFields, bind, Except.bind, Descriptor.holds,
    Fields.lookup_cons, Document.orNull, Document.same, Document.require]

theorem Describes.ofDescription {d : Definition} {status : Option Document} {fs : Fields}
    (h : Describes d status fs) : Descriptor.ofDescription (.object fs) =
      .ok (d.described (.ofService (.orNull status))) := by
  obtain ⟨throughput, hthroughput, hread, hwrite⟩ := h.capacities
  have hkeys : Descriptor.optionalParts (fs.lookup "KeySchema") = .ok [.object
      [("AttributeName", .text d.attributeName), ("KeyType", .text "HASH")]] := by
    rw [h.keys]
    rfl
  have hdefinitions : Descriptor.optionalParts (fs.lookup "AttributeDefinitions") = .ok [.object
      [("AttributeName", .text d.attributeName), ("AttributeType", .text d.attributeType)]] := by
    rw [h.definitions]
    rfl
  simp only [Descriptor.ofDescription, show (Document.object fs).requireFields = .ok fs from rfl,
    bind, Except.bind, hkeys, Descriptor.hashKey_of_single, hdefinitions,
    Descriptor.typeOf_of_single, Descriptor.require_object h.name, hthroughput, Option.getD_some,
    show (Document.object throughput).requireFields = .ok throughput from rfl, hread, hwrite,
    Descriptor.capacity, h.status]
  rfl

/-- Where a table stands, as its store sees it; on the way it is looked at a number of times more
than the one given before it gets there. -/
inductive Life where
  | absent
  | creating (d : Definition) (looks : Nat)
  | active (d : Definition)
  | deleting (d : Definition) (looks : Nat)

namespace Life

def untilActive (d : Definition) : Nat → Life
  | 0 => active d
  | looks + 1 => creating d looks

def untilAbsent (d : Definition) : Nat → Life
  | 0 => absent
  | looks + 1 => deleting d looks

def isCreating : Life → Bool
  | creating _ _ => true
  | absent | active _ | deleting _ _ => false

/-- The requests that a store with this table knows what to do with. -/
inductive Expects (tableName : String) : Life → Target → Request → Prop
  | create {d : Definition} (h : d.tableName = tableName) (life : Life) :
    Expects tableName life .store (.createTable d.request)
  | describe (life : Life) : Expects tableName life .store (.describeTable (.text tableName))
  | delete {life : Life} (h : life.isCreating = false) :
    Expects tableName life .store (.deleteTable (.text tableName))

/-- What a store answers whose tables get active after `n` looks and are gone after `m`. Nothing is
known of what it does with other requests. -/
inductive Answers (tableName : String) (n m : Nat) : Life → Target → Request → Answer → Life → Prop
  | created {d : Definition} {fs response : Fields} {part : Document} (hd : d.tableName = tableName)
    (hfs : fs = d.request) (h : response.lookup "TableDescription" = some part) :
    Answers tableName n m .absent .store (.createTable fs) (.ok (.object response))
      (untilActive d n)
  | taken {life : Life} {d : Definition} {fs : Fields} {f : Fault} (hd : d.tableName = tableName)
    (hfs : fs = d.request) (hl : life ≠ .absent) (hf : f.Rejects inUseCode) :
    Answers tableName n m life .store (.createTable fs) (.error f) life
  | unseen {d : Definition} {looks : Nat} {f : Fault} (hf : f.Rejects notFoundCode) :
    Answers tableName n m (.creating d looks) .store (.describeTable (.text tableName)) (.error f)
      (untilActive d looks)
  | underWay {d : Definition} {looks : Nat} {response fs : Fields} {status : Option Document}
    (h : response.lookup "Table" = some (.object fs)) (hfs : Describes d status fs)
    (hs : status ≠ some (.text "ACTIVE")) :
    Answers tableName n m (.creating d looks) .store (.describeTable (.text tableName))
      (.ok (.object response)) (untilActive d looks)
  | shown {d : Definition} {response fs : Fields}
    (h : response.lookup "Table" = some (.object fs))
    (hfs : Describes d (some (.text "ACTIVE")) fs) :
    Answers tableName n m (.active d) .store (.describeTable (.text tableName))
      (.ok (.object response)) (.active d)
  | going {d : Definition} {looks : Nat} {response fs : Fields}
    (h : response.lookup "Table" = some (.object fs))
    (hfs : Describes d (some (.text "DELETING")) fs) :
    Answers tableName n m (.deleting d looks) .store (.describeTable (.text tableName))
      (.ok (.object response)) (untilAbsent d looks)
  | gone {f : Fault} (hf : f.Rejects notFoundCode) :
    Answers tableName n m .absent .store (.describeTable (.text tableName)) (.error f) .absent
  | deleted {d : Definition} {response : Fields} {part : Document}
    (h : response.lookup "TableDescription" = some part) :
    Answers tableName n m (.active d) .store (.deleteTable (.text tableName))
      (.ok (.object response)) (untilAbsent d m)
  | busy {d : Definition} {looks : Nat} {f : Fault} (hf : f.Rejects inUseCode) :
    Answers tableName n m (.deleting d looks) .store (.deleteTable (.text tableName)) (.error f)
      (.deleting d looks)
  | missing {f : Fault} (hf : f.Rejects notFoundCode) :
    Answers tableName n m .absent .store (.deleteTable (.text tableName)) (.error f) .absent
  | unknown {life life' : Life} {target : Target} {request : Request} {answer : Answer}
    (h : ¬ Expects tableName life target request) :
    Answers tableName n m life target request answer life'

def store (tableName : String) (n m : Nat) : Service Life := ⟨Answers tableName n m⟩

def definition? : Life → Option Definition
  | absent => none
  | creating d _ | active d | deleting d _ => some d

def created (n : Nat) (d : Definition) : Life → Life
  | absent => untilActive d n
  | life => life

theorem created_of_ne_absent (n : Nat) (d : Definition) {life : Life} (h : life ≠ .absent) :
    false = life.definition?.isNone ∧ life = life.created n d := by
  cases life with
  | absent => exact absurd rfl h
  | _ => exact ⟨rfl, rfl⟩

def looked : Life → Life
  | creating d looks => untilActive d looks
  | deleting d looks => untilAbsent d looks
  | life => life

/-- What a look finds of the table. -/
inductive Shows : Life → Sighting → Prop
  | absent : Shows absent .missing
  | unseen (d : Definition) (looks : Nat) : Shows (creating d looks) .missing
  | underWay (d : Definition) (looks : Nat) {status : Status} (h : status ≠ .active) :
    Shows (creating d looks) (.present status)
  | active (d : Definition) : Shows (active d) (.present .active)
  | going (d : Definition) (looks : Nat) : Shows (deleting d looks) (.present .deleting)

end Life

namespace Lifecycle

open Life Service

section

variable {T : Type} [TimeScale T] (l : Lifecycle T) {tableName : String} {n m : Nat}
  {d : Definition} {life : Life} {w : World T}

theorem look_serves : (store tableName n m).Ensures life w (l.look tableName)
    (fun sighting w' life' => (∃ o script rs, w.script = o :: script ∧
        w' = (w.answered .store (.describeTable (.text tableName)) o script).logged rs) ∧
      life.Shows sighting ∧ life' = life.looked)
    (fun _ _ _ => False) := by
  apply Ensures.look
  · intro o script response life' hs ho ha
    have hw := World.logged_nil (w.answered .store (.describeTable (.text tableName)) o script)
    cases ha with
    | underWay h hfs hstatus =>
      have hne := mt (Status.ofService_eq_active_iff _).1 hstatus
      exact ⟨_, _, Descriptor.require_object h, hfs.ofDescription, ⟨o, script, [], hs, hw.symm⟩,
        .underWay _ _ hne, rfl⟩
    | shown h hfs =>
      exact ⟨_, _, Descriptor.require_object h, hfs.ofDescription, ⟨o, script, [], hs, hw.symm⟩,
        .active _, rfl⟩
    | going h hfs =>
      exact ⟨_, _, Descriptor.require_object h, hfs.ofDescription, ⟨o, script, [], hs, hw.symm⟩,
        .going _ _, rfl⟩
    | unknown h => exact absurd (.describe _) h
  · intro o script f life' hs ho ha
    cases ha with
    | unseen hf =>
      obtain ⟨e, chained, he, hcode⟩ := hf.failure (by decide)
      exact ⟨e, chained, he, fun _ => ⟨⟨o, script, _, hs, rfl⟩, .unseen _ _, rfl⟩, absurd hcode⟩
    | gone hf =>
      obtain ⟨e, chained, he, hcode⟩ := hf.failure (by decide)
      exact ⟨e, chained, he, fun _ => ⟨⟨o, script, _, hs, rfl⟩, .absent, rfl⟩, absurd hcode⟩
    | unknown h => exact absurd (.describe _) h

/-- A table is created exactly if there is none. -/
theorem create_serves (hd : d.tableName = tableName) :
    (store tableName n m).Ensures life w (l.create d)
      (fun made w' life' => made = life.definition?.isNone ∧ life' = life.created n d ∧
        w'.asked = w.asked ++ [(.store, .createTable d.request)])
      (fun _ _ _ => False) := by
  apply Ensures.create
  · intro rs o script response life' hs ho ha
    cases ha with
    | created hd' hfs h =>
      rw [Definition.request_inj hfs]
      exact ⟨_, Descriptor.require_object h, rfl, rfl, World.asked_answered _ _ _ _ _⟩
    | unknown h => exact absurd (.create hd _) h
  · intro rs o script f life' hs ho ha
    cases ha with
    | taken _ _ hl hf =>
      obtain ⟨e, chained, he, hcode⟩ := hf.failure (by decide)
      obtain ⟨hmade, hcreated⟩ := created_of_ne_absent n d hl
      refine ⟨e, chained, he, fun _ rs => ⟨hmade, hcreated, ?_⟩, fun h => absurd hcode h⟩
      exact World.asked_answered _ .store (.createTable d.request) o script
    | unknown h => exact absurd (.create hd _) h

end

variable (l : Lifecycle Rat) {tableName : String} {n m : Nat} {d : Definition} {life : Life}
  {w : World Rat}

theorem look_saw (hw : w.Quiet) : (store tableName n m).Ensures life w (l.look tableName)
    (fun sighting w' life' => Saw tableName w w' ∧ life.Shows sighting ∧ life' = life.looked)
    (fun _ _ _ => False) := by
  refine l.look_serves.mono ?_ fun _ _ _ => False.elim
  intro sighting w' life' h
  obtain ⟨⟨o, script, rs, hs, rfl⟩, h⟩ := h
  exact ⟨(saw_answered hw hs).logged rs, h⟩

theorem look_creating (hw : w.Quiet) (looks : Nat) :
    (store tableName n m).Ensures (.creating d looks) w (l.look tableName)
      (fun sighting w' life => Saw tableName w w' ∧ Goal.active.reached? sighting = none ∧
        life = untilActive d looks)
      (fun _ _ _ => False) := by
  refine (l.look_saw hw).mono ?_ fun _ _ _ => False.elim
  intro sighting w' life h
  obtain ⟨hsaw, hshows, hlife⟩ := h
  refine ⟨hsaw, ?_, hlife⟩
  cases hshows with
  | unseen => rfl
  | @underWay _ _ status h =>
    cases status with
    | active => exact absurd rfl h
    | _ => rfl

theorem look_active (hw : w.Quiet) :
    (store tableName n m).Ensures (.active d) w (l.look tableName)
      (fun sighting w' life => Saw tableName w w' ∧
        Goal.active.reached? sighting = some .active ∧ life = .active d)
      (fun _ _ _ => False) := by
  refine (l.look_saw hw).mono ?_ fun _ _ _ => False.elim
  intro sighting w' life h
  obtain ⟨hsaw, ⟨⟩, hlife⟩ := h
  exact ⟨hsaw, rfl, hlife⟩

theorem look_deleting (hw : w.Quiet) (looks : Nat) :
    (store tableName n m).Ensures (.deleting d looks) w (l.look tableName)
      (fun sighting w' life => Saw tableName w w' ∧ Goal.deleted.reached? sighting = none ∧
        life = untilAbsent d looks)
      (fun _ _ _ => False) := by
  refine (l.look_saw hw).mono ?_ fun _ _ _ => False.elim
  intro sighting w' life h
  obtain ⟨hsaw, ⟨⟩, hlife⟩ := h
  exact ⟨hsaw, rfl, hlife⟩

theorem look_absent (hw : w.Quiet) :
    (store tableName n m).Ensures .absent w (l.look tableName)
      (fun sighting w' life => Saw tableName w w' ∧
        Goal.deleted.reached? sighting = some .absent ∧ life = .absent)
      (fun _ _ _ => False) := by
  refine (l.look_saw hw).mono ?_ fun _ _ _ => False.elim
  intro sighting w' life h
  obtain ⟨hsaw, ⟨⟩, hlife⟩ := h
  exact ⟨hsaw, rfl, hlife⟩

theorem create_absent (hd : d.tableName = tableName) :
    (store tableName n m).Ensures .absent w (l.create d)
      (fun made w' life => made = true ∧ life = untilActive d n ∧
        w'.asked = w.asked ++ [(.store, .createTable d.request)])
      (fun _ _ _ => False) :=
  l.create_serves hd

/-- A table that is not there gets created and is waited for, and looked at once more often than it
is not ready. -/
theorem ensure_absent (hw : w.Quiet) (hp : 0 < l.pollInterval)
    (hn : InTime n l.pollInterval l.maxWait) :
    (store d.tableName n m).Ensures .absent w (l.ensure d)
      (fun status w' life => status = .active ∧ life = .active d ∧
        w'.asked = w.asked ++ (.store, .createTable d.request) ::
          List.replicate (n + 1) (.store, .describeTable (.text d.tableName)))
      (fun _ _ _ => False) := by
  rw [ensure]
  apply Ensures.bind
  refine (l.create_absent rfl).leads.mono ?_ fun _ _ _ h => h.2
  intro made w₁ life h
  obtain ⟨hleads, -, rfl, hasked⟩ := h
  apply Ensures.step (Run.log_apply _ _ _ w₁) rfl
  have hq : w₁.Quiet := hw.of_leads hleads
  refine (l.await_countdown (hq.logged _) hp hn (fun j w hw => l.look_creating hw j)
    (fun w hw => l.look_active hw)).mono ?_ fun _ _ _ => False.elim
  intro status w₂ life h
  obtain ⟨rfl, rfl, hasked'⟩ := h
  refine ⟨rfl, rfl, ?_⟩
  rw [hasked', World.asked_logged, hasked, List.append_assoc]
  rfl

theorem describe_active :
    (store tableName n m).Ensures (.active d) w (l.describe tableName)
      (fun t w' life => t = d.described .active ∧ life = .active d ∧
        w'.asked = w.asked ++ [(.store, .describeTable (.text tableName))])
      (fun _ _ _ => False) := by
  apply Ensures.describe
  · intro o script response life hs ho ha
    cases ha with
    | shown h hfs =>
      exact ⟨_, _, Descriptor.require_object h, hfs.ofDescription, rfl, rfl,
        World.asked_answered _ _ _ _ _⟩
    | unknown h => exact absurd (.describe _) h
  · intro o script f life hs ho ha
    cases ha with
    | unknown h => exact absurd (.describe _) h

theorem deleteTable_active :
    (store tableName n m).Ensures (.active d) w (l.client.deleteTable (.text tableName))
      (fun _ w' life => life = untilAbsent d m ∧
        w'.asked = w.asked ++ [(.store, .deleteTable (.text tableName))])
      (fun _ _ _ => False) := by
  apply Ensures.require
  · intro o script response life hs ho ha
    cases ha with
    | deleted h =>
      exact ⟨_, Descriptor.require_object h, rfl, World.asked_answered _ _ _ _ _⟩
    | unknown h => exact absurd (.delete rfl) h
  · intro o script f life hs ho ha
    cases ha with
    | unknown h => exact absurd (.delete rfl) h

/-- An active table gets deleted and is waited for, and looked at once more often than it is still
there. -/
theorem drop_active (hw : w.Quiet) (hp : 0 < l.pollInterval)
    (hm : InTime m l.pollInterval l.maxWait) :
    (store tableName n m).Ensures (.active d) w (l.drop tableName)
      (fun status w' life => status = .absent ∧ life = .absent ∧
        w'.asked = w.asked ++ (.store, .deleteTable (.text tableName)) ::
          List.replicate (m + 1) (.store, .describeTable (.text tableName)))
      (fun _ _ _ => False) := by
  rw [drop]
  apply Ensures.step (Run.log_apply _ _ _ w) rfl
  apply Ensures.bind
  refine l.deleteTable_active.leads.mono ?_ fun _ _ _ h => h.2
  intro _ w₁ life h
  obtain ⟨hleads, rfl, hasked⟩ := h
  apply Ensures.step (Run.log_apply _ _ _ w₁) rfl
  have hq : w₁.Quiet := (hw.logged _).of_leads hleads
  refine (l.await_countdown (hq.logged _) hp hm (fun j w hw => l.look_deleting hw j)
    (fun w hw => l.look_absent hw)).mono ?_ fun _ _ _ => False.elim
  intro status w₂ life h
  obtain ⟨rfl, rfl, hasked'⟩ := h
  refine ⟨rfl, rfl, ?_⟩
  rw [hasked', World.asked_logged, hasked, World.asked_logged, List.append_assoc]
  rfl

theorem tryDrop_active (hw : w.Quiet) (hp : 0 < l.pollInterval)
    (hm : InTime m l.pollInterval l.maxWait) :
    (store tableName n m).Ensures (.active d) w (l.tryDrop tableName)
      (fun deleted w' life => deleted = true ∧ life = .absent ∧
        w'.asked = w.asked ++ (.store, .deleteTable (.text tableName)) ::
          List.replicate (m + 1) (.store, .describeTable (.text tableName)))
      (fun _ _ _ => False) := by
  rw [tryDrop]
  refine Ensures.seq (fun r => ?_) ?_
  · split <;> infer_instance
  apply Ensures.attempt
  refine (l.drop_active hw hp hm).mono ?_ fun _ _ _ => False.elim
  intro status w' life h
  obtain ⟨rfl, rfl, hasked⟩ := h
  exact .pure ⟨rfl, rfl, hasked⟩

theorem sweep_absent :
    (store tableName n m).Ensures .absent w (l.sweep tableName)
      (fun _ w' life => life = .absent ∧
        w'.asked = w.asked ++ [(.store, .deleteTable (.text tableName))])
      (fun _ _ _ => False) := by
  rw [sweep]
  refine Ensures.seq (fun r => ?_) ?_
  · split <;> infer_instance
  apply Ensures.attempt
  apply Ensures.require
  · intro o script response life hs ho ha
    cases ha with
    | unknown h => exact absurd (.delete rfl) h
  · intro o script f life hs ho ha
    cases ha with
    | missing hf =>
      obtain ⟨e, chained, he, -⟩ := hf.failure (by decide)
      rw [he]
      exact .of_ok (Run.log_apply _ _ _ _) rfl
        ⟨rfl, w.asked_answered .store (.deleteTable (.text tableName)) o script⟩
    | unknown h => exact absurd (.delete rfl) h

/-- An active table is gone after a clean-up; its second request for the deletion finds nothing. -/
theorem cleanUp_active (hw : w.Quiet) (hp : 0 < l.pollInterval)
    (hm : InTime m l.pollInterval l.maxWait) :
    (store tableName n m).Ensures (.active d) w (l.cleanUp tableName)
      (fun deleted w' life => deleted = true ∧ life = .absent ∧
        w'.asked = w.asked ++ (.store, .deleteTable (.text tableName)) ::
          List.replicate (m + 1) (.store, .describeTable (.text tableName)) ++
          [(.store, .deleteTable (.text tableName))])
      (fun _ _ _ => False) := by
  rw [cleanUp]
  apply Ensures.bind
  refine (l.tryDrop_active hw hp hm).mono ?_ fun _ _ _ => False.elim
  intro deleted w₁ life h
  obtain ⟨rfl, rfl, hasked⟩ := h
  apply Ensures.bind
  refine l.sweep_absent.mono ?_ fun _ _ _ => False.elim
  intro _ w₂ life h
  obtain ⟨rfl, hasked'⟩ := h
  exact .pure ⟨rfl, rfl, by rw [hasked', hasked]⟩

end Lifecycle

end TableBench.Table
