import KernelCache.Proofs.Action.Basic

/-
**Actions and their surroundings.**

What the surroundings may answer depends on what was asked before. A contract says which questions
are allowed, and how an answer changes a state that both sides know.

* `Action.Yields contract action state value last`: the action comes to the value when its questions
  are answered within the contract.
* `Action.Fulfils contract post action state`: the action asks only what is allowed, and whatever it
  is answered, `post` holds at its end. `Action.Fulfils.yields` joins the two, `Action.Fulfils.keeps`
  carries what every answer keeps to the end, and `Action.Fulfils.arrives` and `Action.exists_yields`
  say that an action comes to an end where every question has an answer.
* `Action.Secures contract step post carried state`: the same for a step that carries a state of its
  own and may fail, with a rule for each way to build one (`Secures.bind`, `Secures.ask`, …).
* `Action.Leaves part step`: such a step leaves a part of its state as it is, whatever it is answered.
-/

namespace KernelCache

/-- What may be asked of the surroundings, and what they may answer. -/
structure Contract (σ : Type) where
  asks : σ → Effect → Prop
  answers : σ → (effect : Effect) → effect.Reply → σ → Prop

/-- Only some questions may be asked, and anything may be answered. -/
def Contract.only (allowed : Effect → Prop) : Contract Unit where
  asks _ effect := allowed effect
  answers _ _ _ _ := True

namespace Action

variable {α β σ κ : Type}

/-- The action comes to a value when its questions are answered within the contract. -/
inductive Yields (contract : Contract σ) : Action α → σ → α → σ → Prop where
  | done (value : α) (state : σ) : Yields contract (.done value) state value state
  | ask {effect : Effect} {next : effect.Reply → Action α} {reply : effect.Reply}
      {state between last : σ} {value : α} (answered : contract.answers state effect reply between)
      (rest : Yields contract (next reply) between value last) :
      Yields contract (.ask effect next) state value last

/-- The action asks only what the contract allows, and `post` holds of its value and of the state at
its end. -/
def Fulfils (contract : Contract σ) (post : α → σ → Prop) : Action α → σ → Prop
  | done value, state => post value state
  | ask effect next, state => contract.asks state effect ∧
      ∀ reply later, contract.answers state effect reply later →
        (next reply).Fulfils contract post later

variable {contract : Contract σ} {state : σ}

/-! ### Whole actions -/

/-- One action after the other. -/
theorem Yields.bind {action : Action α} {next : α → Action β} {value : α} {result : β}
    {between last : σ} (first : action.Yields contract state value between)
    (rest : (next value).Yields contract between result last) :
    (action.bind next).Yields contract state result last := by
  induction first with
  | done value state => exact rest
  | ask answered _ ih => exact .ask answered (ih rest)

/-- One action after the other comes to its value over the value of the first. -/
theorem Yields.of_bind {action : Action α} {next : α → Action β} {result : β} {last : σ}
    (comes : (action.bind next).Yields contract state result last) :
    ∃ value between, action.Yields contract state value between ∧
      (next value).Yields contract between result last := by
  induction action generalizing state with
  | done value => exact ⟨value, state, .done value state, comes⟩
  | ask effect further ih =>
    cases comes with
    | ask answered rest =>
      obtain ⟨value, between, first, second⟩ := ih _ rest
      exact ⟨value, between, .ask answered first, second⟩

/-- What an action comes to, it comes to under a contract that answers more. -/
theorem Yields.widen {wider : Contract σ} {action : Action α} {value : α} {last : σ}
    (answers : ∀ state effect reply later, contract.answers state effect reply later →
      wider.answers state effect reply later)
    (comes : action.Yields contract state value last) : action.Yields wider state value last := by
  induction comes with
  | done value state => exact .done value state
  | ask answered _ ih => exact .ask (answers _ _ _ _ answered) ih

namespace Fulfils

theorem mono {post weaker : α → σ → Prop}
    (implied : ∀ value last, post value last → weaker value last) {action : Action α}
    (fulfils : action.Fulfils contract post state) : action.Fulfils contract weaker state := by
  induction action generalizing state with
  | done value => exact implied value state fulfils
  | ask effect next ih =>
    exact ⟨fulfils.1, fun reply later answered => ih reply (fulfils.2 reply later answered)⟩

theorem bind {post : α → σ → Prop} {after : β → σ → Prop} {action : Action α}
    {next : α → Action β} (fulfils : action.Fulfils contract post state)
    (rest : ∀ value last, post value last → (next value).Fulfils contract after last) :
    (action.bind next).Fulfils contract after state := by
  induction action generalizing state with
  | done value => exact rest value state fulfils
  | ask effect further ih =>
    exact ⟨fulfils.1, fun reply later answered => ih reply (fulfils.2 reply later answered)⟩

/-- What is fulfilled under a contract is fulfilled under one that allows more and answers less. -/
theorem weaken {wider : Contract σ} {post : α → σ → Prop}
    (asks : ∀ state effect, contract.asks state effect → wider.asks state effect)
    (answers : ∀ state effect reply later, wider.answers state effect reply later →
      contract.answers state effect reply later) {action : Action α}
    (fulfils : action.Fulfils contract post state) : action.Fulfils wider post state := by
  induction action generalizing state with
  | done value => exact fulfils
  | ask effect next ih =>
    exact ⟨asks _ _ fulfils.1, fun reply later answered =>
      ih reply (fulfils.2 reply later (answers _ _ _ _ answered))⟩

/-- Where every question may be asked, an action asks only what is allowed. -/
theorem of_open (allowed : ∀ state effect, contract.asks state effect) (action : Action α) :
    action.Fulfils contract (fun _ _ => True) state := by
  induction action generalizing state with
  | done value => trivial
  | ask effect next ih => exact ⟨allowed state effect, fun reply later _ => ih reply⟩

/-- What the value fulfils under all answers, it fulfils besides. -/
theorem and_always {also : α → Prop} {post : α → σ → Prop} {action : Action α}
    (always : action.Fulfils (.only fun _ => True) (fun value _ => also value) ())
    (fulfils : action.Fulfils contract post state) :
    action.Fulfils contract (fun value last => also value ∧ post value last) state := by
  induction action generalizing state with
  | done value => exact ⟨always, fulfils⟩
  | ask effect next ih =>
    exact ⟨fulfils.1, fun reply later answered =>
      ih reply (always.2 reply () trivial) (fulfils.2 reply later answered)⟩

theorem counted {post : α → σ → Prop} {action : Action α} (count : Nat)
    (fulfils : action.Fulfils contract post state) :
    (action.counted count).Fulfils contract (fun result => post result.1) state := by
  induction action generalizing state count with
  | done value => exact fulfils
  | ask effect next ih =>
    exact ⟨fulfils.1, fun reply later answered => ih reply _ (fulfils.2 reply later answered)⟩

/-- **What an action fulfils holds whenever it comes to a value.** -/
theorem yields {post : α → σ → Prop} {action : Action α} {value : α} {last : σ}
    (fulfils : action.Fulfils contract post state)
    (comes : action.Yields contract state value last) : post value last := by
  induction comes with
  | done value state => exact fulfils
  | ask answered rest ih => exact ih (fulfils.2 _ _ answered)

/-- **What every answer keeps is kept to the end**, if only some questions are asked. -/
theorem keeps {allowed : Effect → Prop} {post : α → Prop} {action : Action α} {value : α}
    {last : σ} (fulfils : action.Fulfils (.only allowed) (fun value _ => post value) ())
    (comes : action.Yields contract state value last) (invariant : σ → Prop)
    (kept : ∀ {before effect reply after}, allowed effect → invariant before →
      contract.answers before effect reply after → invariant after) (start : invariant state) :
    post value ∧ invariant last := by
  induction comes with
  | done value state => exact ⟨fulfils, start⟩
  | ask answered _ ih =>
    obtain ⟨asks, rest⟩ := fulfils
    exact ih (rest _ () trivial) (kept asks start answered)

/-- What is fulfilled under all answers holds in every run. -/
theorem yields_always {post : α → Prop} {action : Action α} {value : α} {last : σ}
    (always : action.Fulfils (.only fun _ => True) (fun value _ => post value) ())
    (comes : action.Yields contract state value last) : post value :=
  (always.keeps comes (fun _ => True) (fun _ _ _ => trivial) trivial).1

/-- **What is fulfilled is come to**, where every question that may be asked has an answer. -/
theorem arrives {post : α → σ → Prop} {action : Action α}
    (answerable : ∀ state effect, contract.asks state effect →
      ∃ reply later, contract.answers state effect reply later)
    (fulfils : action.Fulfils contract post state) :
    ∃ value last, action.Yields contract state value last ∧ post value last := by
  induction action generalizing state with
  | done value => exact ⟨value, state, .done value state, fulfils⟩
  | ask effect next ih =>
    obtain ⟨allowed, rest⟩ := fulfils
    obtain ⟨reply, later, answered⟩ := answerable state effect allowed
    obtain ⟨value, last, comes, holds⟩ := ih reply (rest reply later answered)
    exact ⟨value, last, .ask answered comes, holds⟩

end Fulfils

/-- **An action comes to an end** where every question has an answer. -/
theorem exists_yields
    (answerable : ∀ state effect, ∃ reply later, contract.answers state effect reply later)
    (action : Action α) (state : σ) : ∃ value last, action.Yields contract state value last := by
  induction action generalizing state with
  | done value => exact ⟨value, state, .done value state⟩
  | ask effect next ih =>
    obtain ⟨reply, later, answered⟩ := answerable state effect
    obtain ⟨value, last, rest⟩ := ih reply later
    exact ⟨value, last, .ask answered rest⟩

/-- Answers from a function, when it keeps to the contract. -/
theorem yields_run {handle : (effect : Effect) → StateM σ effect.Reply}
    (keeps : ∀ state effect, contract.answers state effect ((handle effect).run state).1
      ((handle effect).run state).2) (action : Action α) (state : σ) :
    action.Yields contract state ((action.run handle).run state).1
      ((action.run handle).run state).2 := by
  induction action generalizing state with
  | done value => exact .done value state
  | ask effect next ih => exact .ask (keeps state effect) (ih _ _)

/-- The same for a named result. -/
theorem yields_of_run {handle : (effect : Effect) → StateM σ effect.Reply}
    (keeps : ∀ state effect, contract.answers state effect ((handle effect).run state).1
      ((handle effect).run state).2) {action : Action α} {result : α × σ}
    (ran : (action.run handle).run state = result) :
    action.Yields contract state result.1 result.2 :=
  ran ▸ yields_run keeps action state

/-! ### Steps that carry a state and may fail -/

/-- The step asks only what the contract allows, and `post` holds of its outcome, of what it carries
and of the state at its end. -/
def Secures (contract : Contract σ) (step : ExceptT Failure (StateT κ Action) α)
    (post : Except Failure α → κ → σ → Prop) (carried : κ) (state : σ) : Prop :=
  (step.run.run carried).Fulfils contract (fun result last => post result.1 result.2 last) state

/-- One step after the other, when the first ends well. -/
theorem Yields.step {step : ExceptT Failure (StateT κ Action) α}
    {next : α → ExceptT Failure (StateT κ Action) β} {carried later : κ} {value : α}
    {result : Except Failure β × κ} {between last : σ}
    (first : (step.run.run carried).Yields contract state (.ok value, later) between)
    (rest : ((next value).run.run later).Yields contract between result last) :
    ((step >>= next).run.run carried).Yields contract state result last := by
  rw [run_bind]
  exact first.bind rest

/-- A step may look at what it carries. -/
theorem Yields.get {next : κ → ExceptT Failure (StateT κ Action) α} {carried : κ}
    {result : Except Failure α × κ} {last : σ}
    (rest : ((next carried).run.run carried).Yields contract state result last) :
    ((MonadState.get >>= next).run.run carried).Yields contract state result last := rest

/-- A single question, and what follows its answer. -/
theorem Yields.put {effect : Effect} {next : effect.Reply → ExceptT Failure (StateT κ Action) α}
    {reply : effect.Reply} {carried : κ} {result : Except Failure α × κ} {between last : σ}
    (answered : contract.answers state effect reply between)
    (rest : ((next reply).run.run carried).Yields contract between result last) :
    ((liftM (perform effect) >>= next).run.run carried).Yields contract state result last := by
  rw [run_bind, run_lift]
  exact .ask answered rest

namespace Secures

variable {carried : κ} {post : Except Failure α → κ → σ → Prop}
  {step : ExceptT Failure (StateT κ Action) α}

theorem mono {weaker : Except Failure α → κ → σ → Prop}
    (secures : Secures contract step post carried state)
    (implied : ∀ outcome after last, post outcome after last → weaker outcome after last) :
    Secures contract step weaker carried state := by
  unfold Secures at secures ⊢
  refine Fulfils.mono (fun result last holds => ?_) secures
  exact implied result.1 result.2 last holds

theorem pure {value : α} (holds : post (.ok value) carried state) :
    Secures contract (Pure.pure value) post carried state := holds

theorem throw {failure : Failure} (holds : post (.error failure) carried state) :
    Secures contract (MonadExcept.throw failure) post carried state := holds

/-- One step after the other: the second begins where the first ends well. -/
theorem bind {next : α → ExceptT Failure (StateT κ Action) β}
    {after : Except Failure β → κ → σ → Prop} (post : Except Failure α → κ → σ → Prop)
    (first : Secures contract step post carried state)
    (good : ∀ value between later, post (.ok value) between later →
      Secures contract (next value) after between later)
    (bad : ∀ failure between later, post (.error failure) between later →
      after (.error failure) between later) :
    Secures contract (step >>= next) after carried state := by
  unfold Secures
  rw [run_bind]
  refine Fulfils.bind first fun result later holds => ?_
  rcases result with ⟨failure | value, between⟩
  · exact bad failure between later holds
  · exact good value between later holds

/-- A step may look at what it carries. -/
theorem get {next : κ → ExceptT Failure (StateT κ Action) α}
    (rest : Secures contract (next carried) post carried state) :
    Secures contract (MonadState.get >>= next) post carried state := rest

/-- A step may change what it carries. -/
theorem modify {change : κ → κ} {next : Unit → ExceptT Failure (StateT κ Action) α}
    (rest : Secures contract (next ()) post (change carried) state) :
    Secures contract (modify change >>= next) post carried state := rest

/-- A single question, and what follows its answer. -/
theorem ask {effect : Effect} {next : effect.Reply → ExceptT Failure (StateT κ Action) α}
    (allowed : contract.asks state effect)
    (rest : ∀ reply later, contract.answers state effect reply later →
      Secures contract (next reply) post carried later) :
    Secures contract (liftM (perform effect) >>= next) post carried state := by
  unfold Secures
  rw [run_bind, run_lift]
  exact ⟨allowed, rest⟩

/-- A step that asks only some questions keeps to every contract that allows these. -/
theorem of_only {allowed : Effect → Prop} {wider : Contract Unit}
    {post : Except Failure α → κ → Unit → Prop}
    (secures : Secures (.only allowed) step post carried ())
    (within : ∀ effect, allowed effect → wider.asks () effect) :
    Secures wider step post carried () :=
  Fulfils.weaken (fun _ => within) (fun _ _ _ _ _ => trivial) secures

end Secures

/-! ### Steps that leave a part of what they carry as it is -/

/-- The step leaves a part of what it carries as it is, whatever it is answered. -/
def Leaves (part : κ → β) (step : ExceptT Failure (StateT κ Action) α) : Prop :=
  ∀ carried, Secures (.only fun _ => True) step (fun _ later _ => part later = part carried)
    carried ()

namespace Leaves

variable {γ : Type} {part : κ → γ} {step : ExceptT Failure (StateT κ Action) α}

/-- What takes part in no exchange leaves it as it is under all answers. -/
theorem of_keeps (keeps : Keeps part step) : Leaves part step := by
  have follows : ∀ {action : Action (Except Failure α × κ)} {post : Except Failure α × κ → Prop},
      action.Alone post → action.Fulfils (.only fun _ => True) (fun result _ => post result) () := by
    intro action post alone
    induction action with
    | done value => exact alone
    | ask effect next ih => exact ⟨trivial, fun reply _ _ => ih reply (alone.2 reply)⟩
  exact fun carried => follows (keeps carried)

theorem pure (value : α) : Leaves part (Pure.pure value) := fun _ => rfl

theorem bind {next : α → ExceptT Failure (StateT κ Action) β} (first : Leaves part step)
    (rest : ∀ value, Leaves part (next value)) : Leaves part (step >>= next) := by
  intro carried
  refine Secures.bind _ (first carried) ?_ fun _ _ _ same => same
  exact fun value between _ same => (rest value between).mono fun _ _ _ same' => same'.trans same

/-- A step may look at what it carries. -/
theorem get {next : κ → ExceptT Failure (StateT κ Action) α}
    (rest : ∀ carried, Leaves part (next carried)) : Leaves part (MonadState.get >>= next) :=
  fun carried => rest carried carried

/-- A step may change another part. -/
theorem modify {change : κ → κ} (same : ∀ carried, part (change carried) = part carried) :
    Leaves part (modify change : ExceptT Failure (StateT κ Action) PUnit) := same

theorem perform (effect : Effect) : Leaves part (liftM (Action.perform effect)) := by
  intro carried
  unfold Secures
  rw [run_lift]
  exact ⟨trivial, fun _ _ _ => rfl⟩

/-- **It is left as it is in every run.** -/
theorem yields {carried : κ} {result : Except Failure α × κ} {last : σ} (leaves : Leaves part step)
    (comes : (step.run.run carried).Yields contract state result last) :
    part result.2 = part carried := by
  have always : (step.run.run carried).Fulfils (.only fun _ => True)
      (fun result _ => part result.2 = part carried) () := leaves carried
  exact always.yields_always comes

end Leaves

end Action

end KernelCache
