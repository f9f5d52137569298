import TableBench.Proofs.Run.Stepwise

namespace TableBench.Run.Obeys

open World

variable {T : Type}

section

variable [TimeScale T] {R : World T → World T → Prop} [Stepwise R]

/- The requests of a client. -/

variable (c : Client)

instance getItem (table key consistent : Document) :
    Obeys R (c.getItem table key consistent : Run T _) := by
  unfold Client.getItem
  refine .seq fun response => .seq fun fs => ?_
  split <;> infer_instance

instance putItem (table item : Document) : Obeys R (c.putItem table item : Run T _) := call _ _

instance batchGetItem (items : Document) : Obeys R (c.batchGetItem items : Run T _) := call _ _

instance batchWriteItem (items : Document) : Obeys R (c.batchWriteItem items : Run T _) := call _ _

instance describeTable (table : Document) : Obeys R (c.describeTable table : Run T _) := by
  unfold Client.describeTable
  infer_instance

instance createTable (definition : Fields) : Obeys R (c.createTable definition : Run T _) := by
  unfold Client.createTable
  infer_instance

instance deleteTable (table : Document) : Obeys R (c.deleteTable table : Run T _) := by
  unfold Client.deleteTable
  infer_instance

omit [TimeScale T] in
instance close : Obeys R (c.close : Run T Unit) := note rfl

/- Items, one and many. -/

instance itemRead (table attributeName key : String) (consistent : Document) :
    Obeys R (Item.read c table attributeName key consistent : Run T _) := by
  unfold Item.read
  infer_instance

instance readRounds (table : String) (consistent : Document) (rounds n : Nat) (left : Fields)
    (items : List Document) :
    Obeys R (Batch.readRounds c table consistent rounds n left items : Run T _) := by
  induction n generalizing left items with
  | zero =>
    unfold Batch.readRounds
    infer_instance
  | succ n ih =>
    unfold Batch.readRounds
    refine .seq fun _ => .seq fun _ => .seq fun _ => .seq fun _ => .seq fun left => ?_
    cases left <;> infer_instance

instance writeRounds (table : String) (rounds n : Nat) (left : Document) :
    Obeys R (Batch.writeRounds c table rounds n left : Run T Unit) := by
  induction n generalizing left with
  | zero =>
    unfold Batch.writeRounds
    infer_instance
  | succ n ih =>
    unfold Batch.writeRounds
    refine .seq fun _ => .seq fun _ => .seq fun _ => .seq fun left => ?_
    cases left <;> infer_instance

instance batchRead (table attributeName : String) (keys : List String) (consistent : Document)
    (rounds : Int) :
    Obeys R (Batch.read c table attributeName keys consistent rounds : Run T _) := by
  unfold Batch.read
  infer_instance

end

section

variable [TimeScale T] {R : World T → World T → Prop} [Heedless R] (c : Client)

omit [TimeScale T] in
instance putRequests (attributeName : String) (keys : List String) :
    Obeys R (Batch.putRequests attributeName keys : Run T _) := by
  induction keys with
  | nil => exact Obeys.pure _
  | cons key keys ih =>
    unfold Batch.putRequests
    infer_instance

instance itemWrite (table attributeName key : String) :
    Obeys R (Item.write c table attributeName key : Run T _) := by
  unfold Item.write
  infer_instance

instance batchWrite (table attributeName : String) (keys : List String) (rounds : Int) :
    Obeys R (Batch.write c table attributeName keys rounds : Run T _) := by
  unfold Batch.write
  infer_instance

end

/- The life of a table. -/

section

open Table

variable [TimeScale T] {R : World T → World T → Prop} [Stepwise R] (l : Lifecycle T)
  (tableName : String)

instance describe : Obeys R (l.describe tableName) := by
  unfold Lifecycle.describe
  infer_instance

instance look : Obeys R (l.look tableName) := by
  unfold Lifecycle.look
  refine .seq fun r => ?_
  split <;> infer_instance

instance create (d : Definition) : Obeys R (l.create d) := by
  unfold Lifecycle.create
  refine .seq fun _ => .seq fun r => ?_
  split <;> infer_instance

instance pause (deadline : T) (goal : Goal) : Obeys R (l.pause deadline goal tableName) := by
  unfold Lifecycle.pause
  infer_instance

instance watch (deadline : T) (goal : Goal) (looks : Nat) :
    Obeys R (l.watch deadline goal tableName looks) := by
  induction looks with
  | zero => exact Obeys.throw _
  | succ looks ih =>
    unfold Lifecycle.watch
    have hrest (sighting : Sighting) : Obeys R (match goal.reached? sighting with
      | some status => Pure.pure status
      | none => do
        l.pause deadline goal tableName
        l.watch deadline goal tableName looks) := by
      split <;> infer_instance
    refine .seq fun sighting => ?_
    infer_instance

instance await (goal : Goal) : Obeys R (l.await goal tableName) := by
  unfold Lifecycle.await
  infer_instance

instance ensure (d : Definition) : Obeys R (l.ensure d) := by
  unfold Lifecycle.ensure
  infer_instance

instance drop : Obeys R (l.drop tableName) := by
  unfold Lifecycle.drop
  infer_instance

instance tryDrop : Obeys R (l.tryDrop tableName) := by
  unfold Lifecycle.tryDrop
  refine .seq fun r => ?_
  split <;> infer_instance

instance sweep : Obeys R (l.sweep tableName) := by
  unfold Lifecycle.sweep
  refine .seq fun r => ?_
  split <;> infer_instance

instance cleanUp : Obeys R (l.cleanUp tableName) := by
  unfold Lifecycle.cleanUp
  infer_instance

end

/- Connections. -/

section

variable {R : World T → World T → Prop} [Stepwise R]

instance resolveCredentials (c : Config T) : Obeys R (Run.resolveCredentials c) := by
  have hresolve (profile : Option String) :
      Obeys R (Run.note (.resolve profile c.region) : Run T Unit) := note rfl
  unfold Run.resolveCredentials
  refine .seq fun _ => .seq fun _ => ?_
  split
  · infer_instance
  · refine .seq fun _ => .seq fun _ => ?_
    split <;> infer_instance

instance openStore (c : Config T) : Obeys R (Run.openStore c) := by
  have hopen (settings : ClientSettings) :
      Obeys R (Run.note (.openStore c.endpoint settings) : Run T Unit) := note rfl
  unfold Run.openStore
  dsimp only
  split
  · infer_instance
  · refine .seq fun _ => ?_
    infer_instance

instance openAccelerator (c : Config T) : Obeys R (Run.openAccelerator c) := by
  have hopen : Obeys R
      (Run.note (.openAccelerator c.region c.acceleratorEndpoint) : Run T Unit) := note rfl
  unfold Run.openAccelerator
  infer_instance

end

/- Sessions. -/

section

variable {R : World T → World T → Prop} [Stepwise R]

instance sessionLog (level : Level) (message : String) :
    Obeys R (Session.log level message : SessionRun T Unit) := lift _

instance release : Obeys R (Session.release : SessionRun T Unit) := by
  unfold Session.release
  refine .seq fun _ => ?_
  dsimp only
  infer_instance

instance connect : Obeys R (Session.connect : SessionRun T Unit) := by
  unfold Session.connect
  infer_instance

instance accelerate : Obeys R (Session.accelerate : SessionRun T Unit) := by
  unfold Session.accelerate
  infer_instance

variable [TimeScale T]

instance provision : Obeys R (Session.provision : SessionRun T Unit) := by
  unfold Session.provision
  refine .seq fun _ => ?_
  dsimp only
  split
  · refine .seq fun _ => .seq fun _ => .seq fun _ => ?_
    infer_instance
  · infer_instance

instance stop : Obeys R (Session.stop : SessionRun T Unit) := by
  unfold Session.stop
  refine .seq fun _ => ?_
  dsimp only
  infer_instance

instance read (key : String) : Obeys R (Session.read key : SessionRun T _) := by
  unfold Session.read
  infer_instance

instance readAll (keys : List String) : Obeys R (Session.readAll keys : SessionRun T _) := by
  unfold Session.readAll
  infer_instance

end

section

variable {R : World T → World T → Prop} [hR : Heedless R]

instance supply (values : Nat → String) : Obeys R (Session.supply values : SessionRun T Unit) :=
  ⟨fun l => hR.sourced l.world _⟩

variable [TimeScale T]

instance start (values : Nat → String) : Obeys R (Session.start values : SessionRun T Unit) := by
  unfold Session.start
  -- the search for instances gives up on this many steps at once
  refine .seq fun _ => .seq fun _ => .seq fun _ => .seq fun _ => .seq fun _ => ?_
  infer_instance

instance write (key : String) : Obeys R (Session.write key : SessionRun T _) := by
  unfold Session.write
  infer_instance

instance writeAll (keys : List String) : Obeys R (Session.writeAll keys : SessionRun T _) := by
  unfold Session.writeAll
  infer_instance

end

end TableBench.Run.Obeys
