import TableBench.Proofs.Number.Numeral
import TableBench.Proofs.Session.Emission
import TableBench.Proofs.Session.LifeCycle
import TableBench.Proofs.Table.Ensure

namespace TableBench

open Run Service

theorem Document.same_text_iff (d : Document) (s : String) :
    d.same (.text s) = true ↔ d = .text s := by
  cases d <;> simp [same, whole?]

namespace Table

theorem Descriptor.holds_text_iff (fs : Fields) (k s : String) :
    holds fs k (.text s) = true ↔ fs.lookup k = some (.text s) := by
  rw [holds, Document.same_text_iff]
  cases fs.lookup k with
  | none => exact iff_of_false Document.noConfusion (Option.some_ne_none _).symm
  | some d => exact Option.some_inj.symm

/-- Objects with another value under the name, or with none, were inserted into the list. -/
inductive Inserted (k value : String) : List Document → List Document → Prop
  | nil : Inserted k value [] []
  | kept {ds es : List Document} (d : Document) (h : Inserted k value ds es) :
    Inserted k value (d :: ds) (d :: es)
  | more {ds es : List Document} {fs : Fields} (hk : fs.lookup k ≠ some (.text value))
    (h : Inserted k value ds es) : Inserted k value ds (.object fs :: es)

namespace Inserted

variable {ds es : List Document}

theorem hashKey (h : Inserted "KeyType" "HASH" ds es) :
    Descriptor.hashKey es = Descriptor.hashKey ds := by
  induction h with
  | nil => rfl
  | kept d h ih => simp only [Descriptor.hashKey, ih]
  | @more ds es fs hk h ih =>
    have hother := mt (Descriptor.holds_text_iff fs "KeyType" "HASH").1 hk
    rw [← ih, Descriptor.hashKey]
    exact if_neg hother

theorem typeOf {a : String} (h : Inserted "AttributeName" a ds es) :
    Descriptor.typeOf (.text a) es = Descriptor.typeOf (.text a) ds := by
  induction h with
  | nil => rfl
  | kept d h ih => simp only [Descriptor.typeOf, ih]
  | @more ds es fs hk h ih =>
    have hother := mt (Descriptor.holds_text_iff fs "AttributeName" a).1 hk
    rw [← ih, Descriptor.typeOf]
    exact if_neg hother

end Inserted

namespace Definition

variable (t : Definition)

/-- A description that repeats the request to create the table and adds a status; the service may
have inserted keys that are no hash keys, and definitions of other attributes. -/
structure Reported (s : String) (fs : Fields) : Prop where
  name : fs.lookup "TableName" = t.request.lookup "TableName"
  keys : ∃ ds es, t.request.lookup "KeySchema" = some (.list ds) ∧
    fs.lookup "KeySchema" = some (.list es) ∧ Inserted "KeyType" "HASH" ds es
  definitions : ∃ ds es, t.request.lookup "AttributeDefinitions" = some (.list ds) ∧
    fs.lookup "AttributeDefinitions" = some (.list es) ∧
    Inserted "AttributeName" t.attributeName ds es
  capacities : fs.lookup "ProvisionedThroughput" = t.request.lookup "ProvisionedThroughput"
  status : fs.lookup "TableStatus" = some (.text s)

/-- Reading such a description gives back what the table was to be created with. -/
theorem Reported.ofDescription {t : Definition} {s : String} {fs : Fields}
    (h : t.Reported s fs) :
    Descriptor.ofDescription (.object fs) = .ok (t.described (.ofService (.text s))) := by
  obtain ⟨_, keys, ⟨⟩, hkeys, hinserted⟩ := h.keys
  have hkey := hinserted.hashKey.trans (Descriptor.hashKey_of_single (.text t.attributeName))
  obtain ⟨_, definitions, ⟨⟩, hdefinitions, hinserted⟩ := h.definitions
  have htype := hinserted.typeOf.trans
    (Descriptor.typeOf_of_single t.attributeName (.text t.attributeType))
  have hname : (Document.object fs).require "TableName" = .ok (.text t.tableName) :=
    Descriptor.require_object h.name
  simp only [Descriptor.ofDescription, show (Document.object fs).requireFields = .ok fs from rfl,
    bind, Except.bind, hkeys, hdefinitions, Descriptor.optionalParts, Document.requireParts, hkey,
    htype, hname, h.capacities, h.status]
  rfl

/-- The requests that a store which keeps the table knows what to do with. -/
inductive Expects : Target → Request → Prop
  | create : Expects .store (.createTable t.request)
  | describe : Expects .store (.describeTable (.text t.tableName))

/-- What a store answers that describes the table as it was created, after the status that it gave
last. Nothing is known of what it does with other requests. -/
inductive Answers : String → Target → Request → Answer → String → Prop
  | created {s : String} {response : Fields} {part : Document}
    (h : response.lookup "TableDescription" = some part) :
    Answers s .store (.createTable t.request) (.ok (.object response)) s
  | taken {s : String} {f : Fault} (hf : f.Rejects inUseCode) :
    Answers s .store (.createTable t.request) (.error f) s
  | described {s s' : String} {response fs : Fields}
    (h : response.lookup "Table" = some (.object fs)) (hfs : t.Reported s' fs) :
    Answers s .store (.describeTable (.text t.tableName)) (.ok (.object response)) s'
  | unknown {s s' : String} {target : Target} {request : Request} {answer : Answer}
    (h : ¬ t.Expects target request) : Answers s target request answer s'

def store : Service String := ⟨t.Answers⟩

end Definition

namespace Lifecycle

variable {T : Type} [TimeScale T] (l : Lifecycle T) (t : Definition) {s : String} {w : World T}

theorem describe_reported : t.store.Ensures s w (l.describe t.tableName)
    (fun d _ s' => d = t.described (.ofService (.text s'))) (fun _ _ _ => False) := by
  apply Ensures.describe
  · intro o script response s' hs ho ha
    cases ha with
    | described h hfs => exact ⟨_, _, Descriptor.require_object h, hfs.ofDescription, rfl⟩
    | unknown h => exact absurd .describe h
  · intro o script f s' hs ho ha
    cases ha with
    | unknown h => exact absurd .describe h

theorem create_accepted : t.store.Ensures s w (l.create t)
    (fun _ _ _ => True) (fun _ _ _ => False) := by
  apply Ensures.create
  · intro rs o script response s' hs ho ha
    cases ha with
    | created h => exact ⟨_, Descriptor.require_object h, trivial⟩
    | unknown h => exact absurd .create h
  · intro rs o script f s' hs ho ha
    cases ha with
    | taken hf =>
      obtain ⟨e, chained, he, hcode⟩ := hf.failure (by decide)
      exact ⟨e, chained, he, fun _ _ => trivial, fun h => absurd hcode h⟩
    | unknown h => exact absurd .create h

theorem await_reported : t.store.Ensures s w (l.await .active t.tableName)
    (fun _ _ _ => True) (fun _ _ s' => s' ≠ "ACTIVE") := by
  apply Ensures.await (I := fun _ _ => True)
  · intro w₁ s₁ _
    apply Ensures.look
    · intro o script response s' hs ho ha
      cases ha with
      | described h hfs =>
        refine ⟨_, _, Descriptor.require_object h, hfs.ofDescription,
          World.length_lt_of_script hs, ?_⟩
        cases hr : Goal.active.reached?
          (.present (t.described (.ofService (.text s'))).status) with
        | some status => trivial
        | none =>
          have hother : s' ≠ "ACTIVE" := by
            rintro rfl
            cases hr
          apply (l.pause_expires t.tableName _ .active).mono
          · intro _ _ _ _
            trivial
          · intro _ _ s₂ h
            rwa [h.1]
      | unknown h => exact absurd .describe h
    · intro o script f s' hs ho ha
      cases ha with
      | unknown h => exact absurd .describe h
  · trivial

theorem ensure_reported : t.store.Ensures s w (l.ensure t)
    (fun _ _ _ => True) (fun _ _ s' => s' ≠ "ACTIVE") := by
  rw [ensure]
  apply Ensures.bind
  refine (l.create_accepted t).mono ?_ fun _ _ _ => False.elim
  intro _ w₁ _ _
  exact Ensures.step (log_apply _ _ _ w₁) rfl (l.await_reported t)

end Lifecycle

end Table

namespace Session

open Table

variable {T : Type} [TimeScale T] {l : Live T} {t : Definition} {s : String}

theorem survey_reported (t : Definition) {c : Client} (hc : l.session.client = some c) :
    t.store.Ensures s l (survey t.tableName)
      (fun _ l' s' => l'.session =
        { l.session with table := some (t.described (.ofService (.text s'))) })
      (fun _ _ _ => False) := by
  rw [survey]
  apply Ensures.step (lifecycle_apply hc) rfl
  apply Ensures.bind
  apply Ensures.lift
  refine (Lifecycle.describe_reported _ t).mono ?_ fun _ _ _ => False.elim
  rintro _ w s' rfl
  exact .of_ok rfl rfl rfl

theorem provision_reported (ht : l.session.config.table = t) {c : Client}
    (hc : l.session.client = some c) :
    t.store.Ensures s l provision
      (fun _ l' s' => l'.session =
        { l.session with table := some (t.described (.ofService (.text s'))) })
      (fun _ _ s' => s' ≠ "ACTIVE") := by
  subst ht
  -- with or without the creation before it, the survey comes last
  have hsurvey (w : World T) (s₁ : String) :
      l.session.config.table.store.Ensures s₁ ⟨l.session, w⟩ (survey l.session.config.tableName)
        (fun _ l' s' => l'.session = { l.session with
          table := some (l.session.config.table.described (.ofService (.text s'))) })
        (fun _ _ s' => s' ≠ "ACTIVE") :=
    (survey_reported (l := ⟨l.session, w⟩) l.session.config.table hc).mono
      (fun _ _ _ h => h) fun _ _ _ => False.elim
  rw [provision]
  apply Ensures.get
  cases hp : l.session.config.programmableTables with
  | false =>
    simp only [hp, Bool.false_eq_true, if_false]
    exact hsurvey l.world s
  | true =>
    simp only [hp, if_true]
    apply Ensures.step (log_apply _ _ l) rfl
    apply Ensures.step (lifecycle_apply (l := ⟨l.session, l.world.logged _⟩) hc) rfl
    apply Ensures.bind
    apply Ensures.lift
    refine (Lifecycle.ensure_reported _ l.session.config.table).mono ?_ fun _ _ _ h => h
    intro _ w₁ s₁ _
    exact hsurvey w₁ s₁

/-- A start that the store last answered with an active table returns, and records it as it was
configured. -/
theorem start_reported (ht : l.session.config.table = t)
    (hconnects : l.session.config.Connects l.world.environment) (values : Nat → String) :
    t.store.Ensures s l (start values)
      (fun _ l' s' => l'.session.table = some (t.described (.ofService (.text s'))))
      (fun _ _ s' => s' ≠ "ACTIVE") := by
  rw [start]
  apply Ensures.step (log_apply _ _ l) rfl
  apply Ensures.step (supply_apply _ _) rfl
  generalize hl₁ : Live.mk _ _ = l₁
  obtain ⟨hs₁, he₁⟩ : l₁.session = { l.session with source := true } ∧
      l₁.world.environment = l.world.environment := by
    subst hl₁
    exact ⟨rfl, rfl⟩
  have hconnects₁ : l₁.session.config.Connects l₁.world.environment := by
    rw [hs₁, he₁]
    exact hconnects
  apply Ensures.bind
  refine (connect_ensures hconnects₁).leads.mono ?_ fun _ _ _ h => h.2.elim
  intro _ l₂ s₂ h
  obtain ⟨hleads₂, -, -, hs₂⟩ := h
  have he₂ : l₂.world.environment = l₁.world.environment := hleads₂.environment
  apply Ensures.bind
  refine (provision_reported (c := .direct) ?_ ?_).leads.mono ?_ fun _ _ _ h => h.2
  · rw [hs₂, hs₁]
    exact ht
  · rw [hs₂]
  intro _ l₃ s₃ h
  obtain ⟨hleads₃, hs₃⟩ := h
  have he₃ : l₃.world.environment = l₂.world.environment := hleads₃.environment
  apply Ensures.bind
  refine (accelerate_ensures ?_).mono ?_ fun _ _ _ => False.elim
  · rw [hs₃, hs₂, he₃, he₂]
    exact hconnects₁
  intro _ l₄ s₄ h
  obtain ⟨rfl, -, hs₄⟩ := h
  refine .of_ok rfl rfl ?_
  have htable : l₄.session.table = l₃.session.table := by
    rw [hs₄, accelerated]
    split <;> rfl
  exact htable.trans (by rw [hs₃])

/-- A table that is described by the request that created it, with a status and with other keys and
definitions among its own, is read as it was defined. Its description says so, and what a session
has recorded after its start: it has recorded it where the last description showed the table active.
The start tells of what it recorded, so that it is said to return only for capacities that can be
written out. -/
theorem table_described_as_created (t : Definition) (s : String) :
    (∀ fs, t.Reported s fs →
      Descriptor.ofDescription (.object fs) = .ok (t.described (.ofService (.text s)))) ∧
    (∀ (l : Lifecycle T) (w : World T), ∃ answer, (final (l.create t) w).events =
      w.events ++ [.call .store (.createTable t.request) answer]) ∧
    (∀ (l : Lifecycle T) (w : World T) (s₀ : String) (es : List Event),
      (final (l.describe t.tableName) w).events = w.events ++ es → t.store.Serves s₀ es s →
      ∃ w', l.describe t.tableName w = .ok (t.described (.ofService (.text s))) w') ∧
    ∀ (values : Nat → String) (l : Live T) (s₀ : String) (es : List Event),
      l.session.config.table = t → l.session.config.Connects l.world.environment →
      (final (start values) l).world.events = l.world.events ++ es → t.store.Serves s₀ es s →
      (s = "ACTIVE" → (final (start values) l).session.table =
        some (t.described (.ofService (.text s)))) ∧
      (s = "ACTIVE" → Number.fits Number.maxDigits t.readCapacity = true →
        Number.fits Number.maxDigits t.writeCapacity = true → ∃ l', start values l = .ok () l') ∧
      ∀ l', start values l = .ok () l' →
        l'.session.table = some (t.described (.ofService (.text s))) := by
  refine ⟨fun fs h => h.ofDescription, ?_, ?_, ?_⟩
  · intro l w
    obtain ⟨answer, r, w', hcreate, he, -⟩ := l.create_sends t w
    cases r with
    | ok made => exact ⟨answer, by rw [final_of_ok hcreate, he]⟩
    | error e => exact ⟨answer, by rw [final_of_error hcreate, he]⟩
  · intro l w s₀ es hes hs
    obtain ⟨_, w', hdescribe, rfl⟩ := (l.describe_reported t).succeeds hes hs
    exact ⟨w', hdescribe⟩
  · intro values l s₀ es ht hconnects hes hs
    have hstart := start_reported ht hconnects values es s hes hs
    cases hr : start values l with
    | ok a l' =>
      rw [hr] at hstart
      refine ⟨fun _ => ?_, fun _ _ _ => ⟨l', rfl⟩, ?_⟩
      · rw [final_of_ok hr]
        exact hstart
      · rintro _ ⟨⟩
        exact hstart
    | error e l' =>
      rw [hr] at hstart
      refine ⟨fun hactive => absurd hactive hstart, fun hactive => absurd hactive hstart, ?_⟩
      rintro _ ⟨⟩

def sortedDescription (status : String) : Fields :=
  [("TableStatus", .text status),
   ("TableName", .text "ndbench-table"),
   ("AttributeDefinitions", .list
     [.object [("AttributeName", .text "time"), ("AttributeType", .text "N")],
      .object [("AttributeName", .text "id"), ("AttributeType", .text "S")]]),
   ("KeySchema", .list
     [.object [("AttributeName", .text "time"), ("KeyType", .text "RANGE")],
      .object [("AttributeName", .text "id"), ("KeyType", .text "HASH")]]),
   ("ProvisionedThroughput", .object
     [("ReadCapacityUnits", .int 5), ("WriteCapacityUnits", .int 5)])]

def underWay : Live Rat where
  session := ofConfig privileged
  world := prompt [accepted, .ok (.object [("Table", .object (sortedDescription "CREATING"))]),
    .ok (.object [("Table", .object (sortedDescription "ACTIVE"))]),
    .ok (.object [("Table", .object (sortedDescription "ACTIVE"))])]

theorem table_described_as_created_underWay :
    privileged.table.Reported "CREATING" (sortedDescription "CREATING") ∧
      Descriptor.ofDescription (.object (sortedDescription "CREATING")) =
        .ok (privileged.table.described .creating) ∧
      ∃ l', start (fun _ => "") underWay = .ok () l' ∧
        l'.session.table = some (privileged.table.described .active) := by
  have hother {s s' : String} (h : s ≠ s') : some (Document.text s) ≠ some (.text s') := by
    rintro ⟨⟩
    exact h rfl
  have hreported (status : String) :
      privileged.table.Reported status (sortedDescription status) :=
    ⟨rfl, ⟨_, _, rfl, rfl, .more (hother (by decide)) (.kept _ .nil)⟩,
      ⟨_, _, rfl, rfl, .more (hother (by decide)) (.kept _ .nil)⟩, rfl, rfl⟩
  obtain ⟨settings, hes⟩ : ∃ settings, (final (start fun _ => "") underWay).world.events = [
      .resolve none none,
      .openStore none settings,
      .call .store (.createTable privileged.table.request) (some accepted),
      .call .store (.describeTable (.text "ndbench-table"))
        (some (.ok (.object [("Table", .object (sortedDescription "CREATING"))]))),
      .call .store (.describeTable (.text "ndbench-table"))
        (some (.ok (.object [("Table", .object (sortedDescription "ACTIVE"))]))),
      .call .store (.describeTable (.text "ndbench-table"))
        (some (.ok (.object [("Table", .object (sortedDescription "ACTIVE"))]))),
      .resolve none none,
      .openAccelerator none (some "dax")] := ⟨_, by with_unfolding_all rfl⟩
  obtain ⟨hread, -⟩ := table_described_as_created (T := Rat) privileged.table "CREATING"
  obtain ⟨-, -, -, hstart⟩ := table_described_as_created (T := Rat) privileged.table "ACTIVE"
  obtain ⟨-, hreturns, hrecords⟩ := hstart (fun _ => "") underWay "" _ rfl
    ⟨nofun, .inl rfl, ⟨_, rfl⟩, fun _ => rfl⟩ hes <|
      .aside rfl <| .aside rfl <| .call (.created rfl) <| .call (.described rfl (hreported _)) <|
      .call (.described rfl (hreported _)) <| .call (.described rfl (hreported _)) <|
      .aside rfl <| .aside rfl <| .nil _
  have hfits : Number.fits Number.maxDigits 5 = true :=
    Number.fits_mono (by decide : Number.fits 1 5 = true) (by decide)
  obtain ⟨l', hl'⟩ := hreturns rfl hfits hfits
  exact ⟨hreported _, hread _ (hreported _), l', hl', hrecords l' hl'⟩

end Session

end TableBench
