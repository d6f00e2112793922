import KernelCache.Proofs.Action.Basic
import Mathlib.Data.DFinsupp.WellFounded
import Mathlib.Data.Fintype.Basic
import Mathlib.SetTheory.Ordinal.Rank

/-
**Members of a group at work side by side.**

Every member of a group works on an action of its own. A member that asks a question of its own goes
on with any answer, at any time; a member that has arrived at an exchange waits until all have, and
then all go on with the combined flag.

* `Joint.Step` is one step of the group. No group goes on forever (`Joint.step_wellFounded`).
* `Joint.Together post actions`: in one order of the steps, whatever the answers, the members meet
  in every exchange and end with values that fulfil `post`.
* `Joint.Together.step` — the order does not matter: every step keeps it.
* `Joint.Together.bind` and `Joint.Together.ofAlone` compose it from its parts.
* `Joint.Together.counted`: members that meet in every exchange take part in equally many.
-/

namespace KernelCache

open KernelCache.Action

namespace Joint

variable {size : Nat} {α β : Type}

/-- The combined flag of an exchange. -/
def anyOf (flags : Fin size → Bool) : Bool :=
  (List.ofFn flags).any id

theorem anyOf_eq_true_iff (flags : Fin size → Bool) :
    anyOf flags = true ↔ ∃ member, flags member = true := by
  simp [anyOf, List.any_eq_true, List.mem_ofFn]

theorem anyOf_eq_false_iff (flags : Fin size → Bool) :
    anyOf flags = false ↔ ∀ member, flags member = false := by
  rw [← Bool.not_eq_true, anyOf_eq_true_iff]
  simp

/-! ### Steps of a group -/

/-- One step of a group whose members work on an action each. -/
inductive Step : (Fin size → Action α) → (Fin size → Action α) → Prop where
  /-- A member goes on with an answer to a question of its own. -/
  | answer (actions : Fin size → Action α) (member : Fin size) (effect : Effect)
      (next : effect.Reply → Action α) (own : effect.isExchange = false)
      (here : actions member = .ask effect next) (reply : effect.Reply) :
      Step actions (Function.update actions member (next reply))
  /-- All members have arrived at an exchange, and go on with the combined flag. -/
  | exchange (actions : Fin size → Action α) (someone : Fin size) (flags : Fin size → Bool)
      (next : Fin size → Bool → Action α)
      (here : ∀ member, actions member = .ask (.combine (flags member)) (next member)) :
      Step actions fun member => next member (anyOf flags)

/-- Several steps of a group. -/
abbrev Run : (Fin size → Action α) → (Fin size → Action α) → Prop :=
  Relation.ReflTransGen Step

/-- How far a member is from its end. -/
noncomputable def distance (action : Action α) : Ordinal :=
  haveI : IsWellFounded (Action α) Child := ⟨child_wellFounded⟩
  IsWellFounded.rank Child action

theorem distance_lt {action : Action α} {effect : Effect} {next : effect.Reply → Action α}
    (here : action = .ask effect next) (reply : effect.Reply) :
    distance (next reply) < distance action := by
  have : IsWellFounded (Action α) Child := ⟨child_wellFounded⟩
  rw [here]
  exact IsWellFounded.rank_lt_of_rel (Child.reply effect next reply)

/-- A step brings some members closer to their ends, and none further away. -/
theorem Step.distance_lt {before after : Fin size → Action α} (step : Step before after) :
    (fun member => distance (after member)) < fun member => distance (before member) := by
  rw [Pi.lt_def]
  cases step with
  | answer member effect next own here reply =>
    refine ⟨fun other => ?_, member, ?_⟩
    · show distance (Function.update before member (next reply) other) ≤ distance (before other)
      by_cases same : other = member
      · subst same
        rw [Function.update_self]
        exact (Joint.distance_lt here reply).le
      · rw [Function.update_of_ne same]
    · show distance (Function.update before member (next reply) member) < distance (before member)
      rw [Function.update_self]
      exact Joint.distance_lt here reply
  | exchange someone flags next here =>
    exact ⟨fun member => (Joint.distance_lt (here member) (anyOf flags)).le, someone,
      Joint.distance_lt (here someone) (anyOf flags)⟩

/-- **No group goes on forever.** -/
theorem step_wellFounded :
    WellFounded fun later earlier : Fin size → Action α => Step earlier later := by
  have order : WellFounded fun later earlier : Fin size → Action α =>
      (fun member => distance (later member)) < fun member => distance (earlier member) :=
    InvImage.wf (fun (actions : Fin size → Action α) member => distance (actions member))
      wellFounded_lt
  exact Subrelation.wf (fun step => Step.distance_lt step) order

/-! ### Groups that meet in every exchange -/

/-- In one order of the steps, whatever the answers, the members meet in every exchange and end with
values that fulfil `post`. -/
inductive Together (post : (Fin size → α) → Prop) : (Fin size → Action α) → Prop where
  /-- All members are done. -/
  | done (actions : Fin size → Action α) (values : Fin size → α)
      (here : ∀ member, actions member = .done (values member)) (holds : post values) :
      Together post actions
  /-- A member goes on with any answer to a question of its own. -/
  | answer (actions : Fin size → Action α) (member : Fin size) (effect : Effect)
      (next : effect.Reply → Action α) (own : effect.isExchange = false)
      (here : actions member = .ask effect next)
      (rest : ∀ reply, Together post (Function.update actions member (next reply))) :
      Together post actions
  /-- All members meet in an exchange. -/
  | exchange (actions : Fin size → Action α) (flags : Fin size → Bool)
      (next : Fin size → Bool → Action α)
      (here : ∀ member, actions member = .ask (.combine (flags member)) (next member))
      (rest : Together post fun member => next member (anyOf flags)) :
      Together post actions

namespace Together

/-- **The order of the steps does not matter.** -/
theorem step {post : (Fin size → α) → Prop} {before after : Fin size → Action α}
    (together : Together post before) (step : Step before after) : Together post after := by
  induction together generalizing after with
  | done actions values here holds =>
    cases step with
    | answer member effect next own asks reply => rw [here] at asks; cases asks
    | exchange someone flags next asks =>
      have asks := asks someone
      rw [here] at asks
      cases asks
  | answer actions member effect next own here rest ih =>
    cases step with
    | answer other effect' next' own' here' reply' =>
      by_cases same : other = member
      · subst same
        rw [here] at here'
        cases here'
        exact rest reply'
      · -- The two members go on independently, so their steps can be taken in either order.
        refine .answer _ member effect next own ?_ fun reply => ?_
        · rw [Function.update_of_ne (Ne.symm same)]
          exact here
        · rw [Function.update_comm same]
          exact ih reply (.answer _ other effect' next' own'
            (by rw [Function.update_of_ne same]; exact here') reply')
    | exchange someone flags next' here' =>
      have arrived := here' member
      rw [here] at arrived
      cases arrived
      cases own
  | exchange actions flags next here rest ih =>
    cases step with
    | answer member effect next' own here' reply =>
      rw [here] at here'
      cases here'
      cases own
    | exchange someone flags' next' here' =>
      have same : ∀ member, flags member = flags' member ∧ next member = next' member := by
        intro member
        have equal := (here member).symm.trans (here' member)
        injection equal with effects continuations
        injection effects with flag
        exact ⟨flag, by simpa [flag] using continuations⟩
      obtain rfl : flags = flags' := funext fun member => (same member).1
      obtain rfl : next = next' := funext fun member => (same member).2
      exact rest

theorem run {post : (Fin size → α) → Prop} {before after : Fin size → Action α}
    (together : Together post before) (run : Run before after) : Together post after := by
  induction run with
  | refl => exact together
  | tail _ last ih => exact ih.step last

/-- **A group that meets in every exchange is never stuck** before all are done. -/
theorem progress {post : (Fin size → α) → Prop} {actions : Fin size → Action α}
    (together : Together post actions) :
    (∃ next, Step actions next) ∨
      ∃ values, (∀ member, actions member = .done (values member)) ∧ post values := by
  induction together with
  | done actions values here holds => exact .inr ⟨values, here, holds⟩
  | answer actions member effect next own here rest ih =>
    obtain ⟨reply⟩ := effect.reply_nonempty
    exact .inl ⟨_, .answer actions member effect next own here reply⟩
  | exchange actions flags next here rest ih =>
    rcases isEmpty_or_nonempty (Fin size) with nobody | ⟨⟨someone⟩⟩
    · -- Without a member there is nobody to meet, and the rest is the same group of nobody.
      have same : (fun member => next member (anyOf flags)) = actions :=
        funext fun member => nobody.elim member
      rwa [same] at ih
    · exact .inl ⟨_, .exchange actions someone flags next here⟩

/-- A group whose members are all done has met. -/
theorem of_done {post : (Fin size → α) → Prop} {actions : Fin size → Action α}
    {values : Fin size → α} (together : Together post actions)
    (here : ∀ member, actions member = .done (values member)) : post values := by
  induction together with
  | done actions values' here' holds =>
    have same : values' = values := funext fun member =>
      Action.done.inj ((here' member).symm.trans (here member))
    exact same ▸ holds
  | answer actions member effect next own asks rest ih => cases asks.symm.trans (here member)
  | exchange actions flags next asks rest ih =>
    rcases isEmpty_or_nonempty (Fin size) with nobody | ⟨⟨someone⟩⟩
    · exact ih fun member => nobody.elim member
    · cases (asks someone).symm.trans (here someone)

/-! ### Composing -/

theorem mono {post weaker : (Fin size → α) → Prop} {actions : Fin size → Action α}
    (together : Together post actions) (implied : ∀ values, post values → weaker values) :
    Together weaker actions := by
  induction together with
  | done actions values here holds => exact .done actions values here (implied values holds)
  | answer actions member effect next own here rest ih =>
    exact .answer actions member effect next own here ih
  | exchange actions flags next here rest ih => exact .exchange actions flags next here ih

/-- Putting an action in the place of a member's action commutes with going on after it. -/
theorem update_bind (actions : Fin size → Action α) (member : Fin size) (action : Action α)
    (next : Fin size → α → Action β) :
    (fun other => (Function.update actions member action other).bind (next other)) =
      Function.update (fun other => (actions other).bind (next other)) member
        (action.bind (next member)) :=
  funext (Function.apply_update (fun other action => action.bind (next other)) actions member
    action)

/-- **Groups that meet one after the other.** -/
theorem bind {post : (Fin size → α) → Prop} {after : (Fin size → β) → Prop}
    {actions : Fin size → Action α} {next : Fin size → α → Action β}
    (together : Together post actions)
    (rest : ∀ values, post values → Together after fun member => next member (values member)) :
    Together after fun member => (actions member).bind (next member) := by
  induction together with
  | done actions values here holds =>
    have same : (fun member => (actions member).bind (next member)) =
        fun member => next member (values member) := by
      funext member
      rw [here, done_bind]
    rw [same]
    exact rest values holds
  | answer actions member effect further own here _ ih =>
    refine .answer _ member effect (fun reply => (further reply).bind (next member)) own ?_
      fun reply => ?_
    · rw [here, ask_bind]
    · rw [← update_bind]
      exact ih reply
  | exchange actions flags further here _ ih =>
    refine .exchange _ flags (fun member reply => (further member reply).bind (next member))
      (fun member => ?_) ih
    rw [here]
    rfl

/-- Some members, working alone, come to their ends while the others are done. -/
theorem ofAlone_of_rest {post : Fin size → α → Prop} (busy : Finset (Fin size)) :
    ∀ actions : Fin size → Action α, (∀ member ∈ busy, (actions member).Alone (post member)) →
      (∀ member ∉ busy, ∃ value, actions member = .done value ∧ post member value) →
      Together (fun values => ∀ member, post member (values member)) actions := by
  induction busy using Finset.induction_on with
  | empty =>
    intro actions _ finished
    choose values here holds using fun member => finished member (Finset.notMem_empty member)
    exact .done actions values here holds
  | insert member others absent ih =>
    intro actions alone finished
    -- The member's own tree is followed down to its end, with the others where they are.
    have follow : ∀ action : Action α, action.Alone (post member) →
        Together (fun values => ∀ member, post member (values member))
          (Function.update actions member action) := by
      intro action
      induction action with
      | done value =>
        intro holds
        refine ih _ (fun other inside => ?_) fun other outside => ?_
        · have different : other ≠ member := fun same => absent (same ▸ inside)
          rw [Function.update_of_ne different]
          exact alone other (Finset.mem_insert_of_mem inside)
        · by_cases same : other = member
          · subst same
            exact ⟨value, Function.update_self .., holds⟩
          · rw [Function.update_of_ne same]
            exact finished other fun inside =>
              (Finset.mem_insert.mp inside).elim same outside
      | ask effect next further =>
        intro own
        refine .answer _ member effect next own.1 (Function.update_self ..) fun reply => ?_
        rw [Function.update_idem]
        exact further reply (own.2 reply)
    have whole := follow (actions member) (alone member (Finset.mem_insert_self member others))
    rwa [Function.update_eq_self] at whole

/-- **Members that work alone** come to their ends without a meeting. -/
theorem ofAlone {post : Fin size → α → Prop} {actions : Fin size → Action α}
    (alone : ∀ member, (actions member).Alone (post member)) :
    Together (fun values => ∀ member, post member (values member)) actions :=
  ofAlone_of_rest Finset.univ actions (fun member _ => alone member)
    fun member outside => absurd (Finset.mem_univ member) outside

/-! ### Counting exchanges -/

/-- **Members that meet in every exchange take part in equally many.** -/
theorem counted {post : (Fin size → α) → Prop} {actions : Fin size → Action α}
    (together : Together post actions) (count : Nat) :
    Together (fun results => post (fun member => (results member).1) ∧
        ∀ member other, (results member).2 = (results other).2)
      fun member => (actions member).counted count := by
  induction together generalizing count with
  | done actions values here holds =>
    refine .done _ (fun member => (values member, count)) (fun member => ?_) ⟨holds, fun _ _ => rfl⟩
    rw [here]
    rfl
  | answer actions member effect next own here _ ih =>
    refine .answer _ member effect (fun reply => (next reply).counted count) own ?_ fun reply => ?_
    · rw [here, Action.counted, own]
      rfl
    · have moved : (fun other => (Function.update actions member (next reply) other).counted count)
          = Function.update (fun other => (actions other).counted count) member
            ((next reply).counted count) :=
        funext (Function.apply_update (fun _ action => action.counted count) actions member _)
      rw [← moved]
      exact ih reply count
  | exchange actions flags next here _ ih =>
    refine .exchange _ flags (fun member reply => (next member reply).counted (count + 1))
      (fun member => ?_) (ih (count + 1))
    rw [here]
    rfl

end Together

end Joint

end KernelCache
