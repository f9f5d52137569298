import TableBench.Proofs.Run.Redirection
import TableBench.Proofs.Session.Start

namespace TableBench

open Run

@[simps] def Live.map {T : Type} (f : Session T → Session T) (g : World T → World T)
    (l : Live T) : Live T :=
  ⟨f l.session, g l.world⟩

@[simps] def Config.fronted {T : Type} (endpoint : Option String) (c : Config T) : Config T :=
  { c with acceleratorEndpoint := endpoint }

@[simps] def Session.fronted {T : Type} (endpoint : Option String) (s : Session T) : Session T :=
  { s with config := s.config.fronted endpoint }

namespace Run.Tracks

variable {T α : Type} {f : Session T → Session T} {g : World T → World T}

instance lift (x y : Run T α) [h : Tracks g x y] :
    Tracks (Live.map f g) (SessionRun.lift x) (SessionRun.lift y) where
  apply_eq l := by
    have he := h.apply_eq l.world
    cases hr : x l.world with
    | ok a w =>
      rw [hr] at he
      rw [lift_of_ok hr, lift_of_ok (l := l.map f g) he]
      rfl
    | error e w =>
      rw [hr] at he
      rw [lift_of_error hr, lift_of_error (l := l.map f g) he]
      rfl

theorem change {h : Session T → Session T} (hh : ∀ s, h (f s) = f (h s)) :
    Tracks (Live.map f g) (Session.change h) (Session.change h) :=
  ⟨fun l => congrArg (fun s => EStateM.Result.ok () (Live.mk s (g l.world))) (hh l.session)⟩

variable {endpoint : Option String} {c : Client} {es : List Event} {rs : List LogRecord}

instance sessionLog (level : Level) (message : String) :
    Tracks (Live.map f (World.behind c es rs)) (Session.log level message)
      (Session.log level message) :=
  lift _ _

instance supply (values : Nat → String) :
    Tracks (Live.map (Session.fronted endpoint) (World.behind c es rs))
      (Session.supply values : SessionRun T Unit) (Session.supply values) := ⟨fun _ => rfl⟩

instance requireClient :
    Tracks (Live.map (Session.fronted endpoint) (World.behind c es rs))
      (Session.requireClient : SessionRun T Client) Session.requireClient := by
  unfold Session.requireClient
  refine .get fun l => ?_
  simp only [Live.map_session, Session.fronted_client]
  cases l.session.client <;> infer_instance

instance connect :
    Tracks (Live.map (Session.fronted endpoint) (World.behind c es rs))
      (Session.connect : SessionRun T Unit) Session.connect := by
  unfold Session.connect
  have hclient : Tracks (Live.map (Session.fronted endpoint) (World.behind c es rs))
      (Session.change fun s : Session T => { s with store := true, client := some .direct })
      (Session.change fun s => { s with store := true, client := some .direct }) :=
    change fun _ => rfl
  refine .get fun l => ?_
  have hopen : Run.openStore (l.session.config.fronted endpoint) =
      Run.openStore l.session.config := rfl
  simp only [Live.map_session, Session.fronted_config, hopen]
  infer_instance

instance release :
    Tracks (Live.map (Session.fronted endpoint) (World.behind c es rs))
      (Session.release : SessionRun T Unit) Session.release := by
  unfold Session.release
  have hreset : Tracks (Live.map (Session.fronted endpoint) (World.behind c es rs))
      (Session.change fun s : Session T =>
        { s with client := none, store := false, accelerator := false })
      (Session.change fun s => { s with client := none, store := false, accelerator := false }) :=
    change fun _ => rfl
  refine .get fun l => ?_
  simp only [Live.map_session, Session.fronted_store, Session.fronted_accelerator]
  infer_instance

variable [TimeScale T]

instance lifecycle :
    Tracks (Live.map (Session.fronted endpoint) (World.behind c es rs))
      (Session.lifecycle : SessionRun T _) Session.lifecycle := by
  unfold Session.lifecycle
  refine .seq fun _ => .get fun l => ?_
  simp only [Live.map_session, Session.fronted_config, Config.fronted_pollInterval,
    Config.fronted_maxWait]
  infer_instance

instance provision :
    Tracks (Live.map (Session.fronted endpoint) (World.behind c es rs))
      (Session.provision : SessionRun T Unit) Session.provision := by
  unfold Session.provision
  have htable (table : Table.Descriptor) :
      Tracks (Live.map (Session.fronted endpoint) (World.behind c es rs))
        (Session.change fun s : Session T => { s with table := some table })
        (Session.change fun s => { s with table := some table }) :=
    change fun _ => rfl
  refine .get fun l => ?_
  have hdefinition : (l.session.config.fronted endpoint).table = l.session.config.table := rfl
  simp only [Live.map_session, Session.fronted_config, Config.fronted_programmableTables,
    Config.fronted_tableName, hdefinition]
  infer_instance

instance prepare (values : Nat → String) :
    Tracks (Live.map (Session.fronted endpoint) (World.behind c es rs))
      (Session.prepare values : SessionRun T Unit) (Session.prepare values) := by
  unfold Session.prepare
  infer_instance

instance settle :
    Tracks (Live.map (Session.fronted endpoint) (World.behind c es rs))
      (Session.settle : SessionRun T Unit) Session.settle := by
  unfold Session.settle
  have hnames : Tracks (Live.map (Session.fronted endpoint) (World.behind c es rs))
      (Session.change fun s : Session T =>
        { s with tableName := s.config.tableName, attributeName := s.config.attributeName })
      (Session.change fun s =>
        { s with tableName := s.config.tableName, attributeName := s.config.attributeName }) :=
    change fun _ => rfl
  infer_instance

instance stop :
    Tracks (Live.map (Session.fronted endpoint) (World.behind c es rs))
      (Session.stop : SessionRun T Unit) Session.stop := by
  unfold Session.stop
  refine .get fun l => ?_
  simp only [Live.map_session, Session.fronted_client, Session.fronted_config,
    Config.fronted_programmableTables, Session.fronted_tableName]
  infer_instance

end Run.Tracks

namespace Table.Lifecycle

variable {T : Type} [TimeScale T] (c d : Client) (p m : T) (tableName : String)

theorem watch_congr_client (deadline : T) (goal : Goal) (looks : Nat) :
    watch ⟨c, p, m⟩ deadline goal tableName looks =
      watch ⟨d, p, m⟩ deadline goal tableName looks := by
  induction looks with
  | zero => rfl
  | succ looks ih =>
    rw [watch, watch, ih]
    rfl

theorem cleanUp_congr_client :
    cleanUp ⟨c, p, m⟩ tableName = cleanUp ⟨d, p, m⟩ tableName := by
  have hawait (goal : Goal) : await ⟨c, p, m⟩ goal tableName = await ⟨d, p, m⟩ goal tableName := by
    simp only [await, watch_congr_client c d]
  have hdrop : drop ⟨c, p, m⟩ tableName = drop ⟨d, p, m⟩ tableName := by
    rw [drop, drop, hawait]
    rfl
  rw [cleanUp, cleanUp, tryDrop, tryDrop, hdrop]
  rfl

end Table.Lifecycle

end TableBench
