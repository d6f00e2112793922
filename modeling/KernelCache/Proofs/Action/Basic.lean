import KernelCache.Action
import Mathlib.Order.WellFounded

/-
**Actions as trees.**

An action asks questions one after the other. This module holds what is true of every action, for
whatever its questions are answered.

* `Action.bind_done` and `Action.bind_bind`: actions are a lawful monad.
* `Action.Child` leads from a question to what follows an answer; no action goes on forever
  (`Action.child_wellFounded`).
* `Action.counted` counts exchanges, and `Action.counted_fst` says that it does nothing else.
* `Action.Alone post action`: the action takes part in no exchange with the group, and `post` holds
  of its value under all answers.
* `Action.Keeps part step`: a step that carries a state and may fail takes part in no exchange and
  leaves a part of its state as it is. `Action.run_bind` and `Action.run_lift` open such steps.
-/

namespace KernelCache

/-- Whether a question is put to the whole group. -/
def Effect.isExchange : Effect → Bool
  | combine _ => true
  | _ => false

/-- Every question can be answered. -/
theorem Effect.reply_nonempty : (effect : Effect) → Nonempty effect.Reply
  | combine _ | present _ => ⟨false⟩
  | look => ⟨Channel.readyWord⟩
  | hire _ | release | writeSource _ _ => ⟨.ok ()⟩
  | fill _ | post _ | kill | remove _ => ⟨()⟩
  | await _ => ⟨.acknowledged⟩
  | reap => ⟨.ok none⟩
  | join => ⟨.ok none⟩
  | openImage _ => ⟨.ok ⟨0, []⟩⟩

namespace Action

variable {α β γ σ κ : Type}

/-! ### The monad -/

@[simp] theorem pure_eq_done (value : α) : (pure value : Action α) = .done value := rfl

@[simp] theorem bind_eq (action : Action α) (next : α → Action β) :
    action >>= next = action.bind next := rfl

@[simp] theorem done_bind (value : α) (next : α → Action β) :
    (done value).bind next = next value := rfl

@[simp] theorem ask_bind (effect : Effect) (rest : effect.Reply → Action α) (next : α → Action β) :
    (ask effect rest).bind next = ask effect fun reply => (rest reply).bind next := rfl

@[simp] theorem perform_bind (effect : Effect) (next : effect.Reply → Action β) :
    (perform effect).bind next = ask effect next := rfl

theorem bind_done (action : Action α) : action.bind done = action := by
  induction action with
  | done value => rfl
  | ask effect next ih =>
    rw [ask_bind]
    exact congrArg (ask effect) (funext ih)

theorem bind_bind (action : Action α) (next : α → Action β) (last : β → Action γ) :
    (action.bind next).bind last = action.bind fun value => (next value).bind last := by
  induction action with
  | done value => rfl
  | ask effect rest ih =>
    rw [ask_bind, ask_bind, ask_bind]
    exact congrArg (ask effect) (funext ih)

instance : LawfulMonad Action :=
  LawfulMonad.mk' Action bind_done (fun _ _ => rfl) bind_bind

/-! ### The length of a run -/

/-- What follows an answer to the question of an action. -/
inductive Child : Action α → Action α → Prop where
  | reply (effect : Effect) (next : effect.Reply → Action α) (reply : effect.Reply) :
      Child (next reply) (ask effect next)

/-- **No action goes on forever.** -/
theorem child_wellFounded : WellFounded (Child (α := α)) := by
  refine ⟨fun action => ?_⟩
  induction action with
  | done value => exact ⟨_, fun _ child => by cases child⟩
  | ask effect next ih =>
    refine ⟨_, fun _ child => ?_⟩
    cases child with
    | reply _ _ reply => exact ih reply

/-! ### Counting exchanges -/

/-- The action with the number of its exchanges, counted from a given number. -/
def counted (count : Nat) : Action α → Action (α × Nat)
  | done value => done (value, count)
  | ask effect next =>
    ask effect fun reply => (next reply).counted (if effect.isExchange then count + 1 else count)

/-- Counting changes nothing else. -/
theorem counted_fst (action : Action α) (count : Nat) :
    (action.counted count).bind (fun result => done result.1) = action := by
  induction action generalizing count with
  | done value => rfl
  | ask effect next ih =>
    rw [counted, ask_bind]
    exact congrArg (ask effect) (funext fun reply => ih reply _)

/-! ### Actions without an exchange -/

/-- The action takes part in no exchange, and its value fulfils `post` under all answers. -/
def Alone (post : α → Prop) : Action α → Prop
  | done value => post value
  | ask effect next => effect.isExchange = false ∧ ∀ reply, (next reply).Alone post

theorem Alone.mono {post weaker : α → Prop} (implied : ∀ value, post value → weaker value)
    {action : Action α} (alone : action.Alone post) : action.Alone weaker := by
  induction action with
  | done value => exact implied value alone
  | ask effect next ih => exact ⟨alone.1, fun reply => ih reply (alone.2 reply)⟩

theorem Alone.bind {post : α → Prop} {after : β → Prop} {action : Action α}
    {next : α → Action β} (alone : action.Alone post)
    (rest : ∀ value, post value → (next value).Alone after) : (action.bind next).Alone after := by
  induction action with
  | done value => exact rest value alone
  | ask effect further ih => exact ⟨alone.1, fun reply => ih reply (alone.2 reply)⟩

/-- A single question that is not put to the group. -/
theorem alone_perform {effect : Effect} (own : effect.isExchange = false) :
    (perform effect).Alone fun _ => True :=
  ⟨own, fun _ => trivial⟩

/-! ### Steps that keep a part of their state -/

/-- One step of an action that carries a state and may fail. -/
theorem run_bind (step : ExceptT Failure (StateT σ Action) α)
    (next : α → ExceptT Failure (StateT σ Action) β) (state : σ) :
    (step >>= next).run.run state =
      (step.run.run state).bind fun result =>
        match result.1 with
        | .ok value => (next value).run.run result.2
        | .error failure => .done (.error failure, result.2) := by
  show (step.run.run state).bind _ = _
  congr 1
  funext result
  rcases result with ⟨_ | _, _⟩ <;> rfl

/-- What is carried is at hand. -/
theorem run_get (next : σ → ExceptT Failure (StateT σ Action) α) (state : σ) :
    (get >>= next).run.run state = (next state).run.run state := rfl

/-- A question in the midst of an action that carries a state and may fail. -/
theorem run_lift (action : Action α) (state : σ) :
    (liftM action : ExceptT Failure (StateT σ Action) α).run.run state =
      action.bind fun value => .done (.ok value, state) := by
  show (action.bind fun value => .done (value, state)).bind _ = _
  rw [bind_bind]
  rfl

/-- The step takes part in no exchange, and leaves a part of its state as it is. -/
def Keeps (part : σ → κ) (step : ExceptT Failure (StateT σ Action) α) : Prop :=
  ∀ state, (step.run.run state).Alone fun result => part result.2 = part state

namespace Keeps

variable {part : σ → κ}

theorem weaken {κ' : Type} {smaller : σ → κ'} {step : ExceptT Failure (StateT σ Action) α}
    (keeps : Keeps part step)
    (implied : ∀ {first second}, part first = part second → smaller first = smaller second) :
    Keeps smaller step :=
  fun state => (keeps state).mono fun _ same => implied same

theorem pure (value : α) : Keeps part (Pure.pure value) := fun _ => rfl

theorem throw (failure : Failure) :
    Keeps part (MonadExcept.throw failure : ExceptT Failure (StateT σ Action) α) := fun _ => rfl

theorem bind {step : ExceptT Failure (StateT σ Action) α}
    {next : α → ExceptT Failure (StateT σ Action) β} (first : Keeps part step)
    (rest : ∀ value, Keeps part (next value)) : Keeps part (step >>= next) := by
  intro state
  rw [run_bind]
  refine (first state).bind fun result same => ?_
  rcases result with ⟨failure | value, after⟩
  · exact same
  · exact (rest value after).mono fun _ equal => equal.trans same

/-- A step may look at its state. -/
theorem get {next : σ → ExceptT Failure (StateT σ Action) α}
    (rest : ∀ state, Keeps part (next state)) :
    Keeps part (MonadState.get >>= next) :=
  fun state => rest state state

/-- A question that is not put to the group. -/
theorem perform {effect : Effect} (own : effect.isExchange = false) :
    Keeps part (liftM (Action.perform effect)) := by
  intro state
  rw [run_lift]
  exact (alone_perform own).bind fun _ _ => rfl

end Keeps

end Action

end KernelCache
