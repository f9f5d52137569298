import TableBench.Proofs.Connection
import TableBench.Proofs.Session.DataCall
import TableBench.Proofs.Table.Watch

namespace TableBench

open Run

namespace Session

variable {T α β : Type}

class Keeps (P : Session T → Prop) (x : SessionRun T α) : Prop where
  keeps : ∀ l, P l.session → P (final x l).session

namespace Keeps

variable {P : Session T → Prop}

theorem of_session_eq {x : SessionRun T α} (h : ∀ l, (final x l).session = l.session) :
    Keeps P x :=
  ⟨fun l hl => by rwa [h l]⟩

instance pure (a : α) : Keeps P (Pure.pure a : SessionRun T α) := of_session_eq fun _ => rfl

instance throw (e : Failure) : Keeps P (MonadExcept.throw e : SessionRun T α) :=
  of_session_eq fun _ => rfl

instance get : Keeps P (MonadState.get : SessionRun T (Live T)) := of_session_eq fun _ => rfl

instance lift (x : Run T α) : Keeps P (SessionRun.lift x) := of_session_eq fun l => by
  rw [final_lift]

instance bind (x : SessionRun T α) (f : α → SessionRun T β) [hx : Keeps P x]
    [hf : ∀ a, Keeps P (f a)] : Keeps P (x >>= f) where
  keeps l hl := by
    have h := hx.keeps l hl
    cases hr : x l with
    | ok a l' =>
      rw [final_of_ok hr] at h
      rw [final_bind_of_ok hr]
      exact (hf a).keeps l' h
    | error e l' =>
      rw [final_of_error hr] at h
      rwa [final_of_error (bind_of_error hr f)]

theorem seq {x : SessionRun T α} {f : α → SessionRun T β} [Keeps P x]
    (hf : ∀ a, Keeps P (f a)) : Keeps P (x >>= f) :=
  bind x f

instance ite {c : Prop} [Decidable c] (x y : SessionRun T α) [Keeps P x] [Keeps P y] :
    Keeps P (if c then x else y) := by
  split <;> infer_instance

theorem change {f : Session T → Session T} (h : ∀ s, P s → P (f s)) : Keeps P (change f) :=
  ⟨fun l hl => h l.session hl⟩

instance requireClient : Keeps P (Session.requireClient : SessionRun T Client) :=
  of_session_eq fun l => by
    cases hc : l.session.client with
    | some c => rw [final_of_ok (requireClient_apply hc)]
    | none => rw [final_of_error (requireClient_of_none hc)]

instance requireSource : Keeps P (Session.requireSource : SessionRun T Unit) := by
  unfold Session.requireSource
  infer_instance

variable [TimeScale T]

instance lifecycle : Keeps P (Session.lifecycle : SessionRun T _) := by
  unfold Session.lifecycle
  infer_instance

instance log (level : Level) (message : String) : Keeps P (Session.log level message) := lift _

/- Data requests leave the session as it is. -/

instance read (key : String) : Keeps P (Session.read key) := by
  unfold Session.read
  infer_instance

instance write (key : String) : Keeps P (Session.write key) := by
  unfold Session.write
  infer_instance

instance readAll (keys : List String) : Keeps P (Session.readAll keys) := by
  unfold Session.readAll
  infer_instance

instance writeAll (keys : List String) : Keeps P (Session.writeAll keys) := by
  unfold Session.writeAll
  infer_instance

instance dataCall (request : DataCall) : Keeps P (request.run : SessionRun T _) := by
  cases request <;> unfold DataCall.run <;> infer_instance

end Keeps

variable [TimeScale T]

/-- A session that was started, used and stopped any number of times, whatever came of it. -/
inductive Reached : Session T → Prop
  | fresh (config : Config T) : Reached (ofConfig config)
  | start {s : Session T} (h : s.Reached) (values : Nat → String) (w : World T) :
    Reached (final (start values) ⟨s, w⟩).session
  | call {s : Session T} (h : s.Reached) (request : DataCall) (w : World T) :
    Reached (final request.run ⟨s, w⟩).session
  | stop {s : Session T} (h : s.Reached) (w : World T) : Reached (final stop ⟨s, w⟩).session

def HoldsStore (s : Session T) : Prop := s.store = true

/-- With any client the session holds a client of the store. -/
def Sound (s : Session T) : Prop := s.client.isSome = true → s.HoldsStore

theorem Keeps.provision_of {P : Session T → Prop}
    (hP : ∀ s table, P s → P { s with table := some table }) : Keeps P provision := by
  unfold Session.provision
  have htable (table : Table.Descriptor) : Keeps P
      (Session.change fun s : Session T => { s with table := some table }) :=
    .change fun s => hP s table
  refine .seq fun l => ?_
  dsimp only
  infer_instance

instance Keeps.provision : Keeps HoldsStore (provision : SessionRun T Unit) :=
  .provision_of fun _ _ h => h

instance Keeps.accelerate : Keeps HoldsStore (accelerate : SessionRun T Unit) := by
  unfold Session.accelerate
  have hclient : Keeps HoldsStore (Session.change fun s : Session T =>
      { s with accelerator := true, client := some .accelerated }) := .change fun _ h => h
  refine .seq fun l => ?_
  dsimp only
  infer_instance

omit [TimeScale T] in
theorem connect_cases (l : Live T) :
    (∃ l', connect l = .ok () l' ∧ l'.session =
      { l.session with store := true, client := some .direct }) ∨
    ∃ e l', connect l = .error e l' ∧ l'.session = l.session := by
  rw [connect, get_bind_apply]
  cases hr : openStore l.session.config l.world with
  | ok a w => exact .inl ⟨_, bind_of_ok (lift_of_ok hr) _, rfl⟩
  | error e w => exact .inr ⟨e, _, bind_of_error (lift_of_error hr) _, rfl⟩

theorem sound_start (values : Nat → String) (l : Live T) (h : l.session.Sound) :
    (final (start values) l).session.Sound := by
  rw [start, final_bind_of_ok (log_apply _ _ l), final_bind_of_ok (supply_apply _ _)]
  generalize hl : Live.mk _ _ = l₁
  have hsound : l₁.session.Sound := by
    subst hl
    exact h
  -- a client is held from here on, or the start is over
  obtain ⟨l', hc, hs⟩ | ⟨e, l', hc, hs⟩ := connect_cases l₁
  · rw [final_bind_of_ok hc]
    have hnames : Keeps HoldsStore (change fun s : Session T =>
        { s with tableName := s.config.tableName, attributeName := s.config.attributeName }) :=
      .change fun _ h => h
    have hstore : l'.session.HoldsStore := by rw [hs, HoldsStore]
    intro _
    exact Keeps.keeps l' hstore
  · rw [final_of_error (bind_of_error hc _), hs]
    exact hsound

omit [TimeScale T] in
theorem Keeps.release_of {P : Session T → Prop}
    (hP : ∀ s, P s → P { s with client := none, store := false, accelerator := false }) :
    Keeps P release := by
  unfold Session.release
  have hreset : Keeps P (Session.change fun s : Session T =>
      { s with client := none, store := false, accelerator := false }) := .change hP
  refine .seq fun l => ?_
  dsimp only
  infer_instance

theorem Keeps.stop_of {P : Session T → Prop}
    (hP : ∀ s, P s → P { s with client := none, store := false, accelerator := false }) :
    Keeps P stop := by
  unfold Session.stop
  have hrelease : Keeps P release := .release_of hP
  refine .seq fun l => ?_
  dsimp only
  infer_instance

instance Keeps.stop : Keeps Sound (stop : SessionRun T Unit) := .stop_of fun _ _ => nofun

theorem Reached.sound {s : Session T} (h : s.Reached) : s.Sound := by
  induction h with
  | fresh config => exact nofun
  | start _ values w ih => exact sound_start values ⟨_, w⟩ ih
  | call _ request w ih => exact (Keeps.dataCall request).keeps ⟨_, w⟩ ih
  | stop _ w ih => exact Keeps.stop.keeps ⟨_, w⟩ ih

end Session

end TableBench
