import KernelCache.Proofs.Coordinator.Duties

/-
**A worker that may end at any time.**

A worker leaves when it is told to or when its command fails, but something else may end it before, with
any status. Nobody may wait for the end of a worker that might stay.

* `Company.Turn` is a step of the worker or such an end, `Company.Turns` are many of them.
* `Company.Ending`: whatever happens, some steps of its own take the worker to its end.
* `Company.Coherent.ending` and `Company.Coherent.ending_kill`: an idle worker that is told to leave, and
  a worker that is killed.
* `Company.attended` answers the questions of a coordinator and records them, and
  `Company.Coherent.replies` is what the answers to fair questions keep.
-/

namespace KernelCache

open KernelCache.Action

/-- The question does not speak for the worker, and hires nobody. -/
def Effect.IsFair : Effect → Prop
  | .post word => word ≠ Channel.readyWord
  | .hire _ => False
  | _ => True

namespace Company

variable {company before after later : Company} {hand : Hand} {code : ExitCode}

/-! ### Turns -/

/-- What happens to a worker: a step of its own, or an end from outside. -/
inductive Turn (before : Company) : Company → Prop where
  | step {after : Company} (step : Step before after) : Turn before after
  | ends {hand : Hand} (code : ExitCode) (worker : before.worker = some hand)
      (there : hand.code? = none) : Turn before (before.put (.gone code))

/-- All that happens to a worker in some time. -/
abbrev Turns : Company → Company → Prop := Relation.ReflTransGen Turn

theorem Run.turns (run : Run before after) : Turns before after :=
  run.lift id fun _ _ => Turn.step

/-- What every turn keeps is kept by many. -/
theorem Turns.keeps (holds : Company → Prop) (turn : ∀ {before after}, holds before →
    Turn before after → holds after) (turns : Turns before after) (start : holds before) :
    holds after := by
  induction turns with
  | refl => exact start
  | tail _ next ih => exact turn ih next

theorem Turn.code?_eq_none (turn : Turn before after) : before.code? = none := by
  cases turn with
  | step step => exact step.code?_eq_none
  | ends code worker there => rw [code?, worker, Option.bind_some, there]

/-- A worker that has left stays where it is. -/
theorem Turns.eq_of_code? (turns : Turns before after) (left : before.code? = some code) :
    after = before := by
  refine turns.keeps (· = before) ?_ rfl
  rintro _ _ rfl turn
  rw [turn.code?_eq_none] at left
  cases left

theorem Coherent.turn (coherent : before.Coherent) (turn : Turn before after) : after.Coherent := by
  cases turn with
  | step step => exact coherent.step step
  | ends code => exact coherent_of_free (.gone code) rfl id

theorem Coherent.turns (coherent : before.Coherent) (turns : Turns before after) :
    after.Coherent :=
  turns.keeps _ Coherent.turn coherent

/-- While the word is ready, nothing changes it. -/
theorem Coherent.ready_turns (coherent : before.Coherent)
    (ready : before.channel.word = Channel.readyWord) (turns : Turns before after) :
    after.channel.word = Channel.readyWord := by
  suffices both : after.Coherent ∧ after.channel.word = Channel.readyWord from both.2
  refine turns.keeps (fun company => company.Coherent ∧
    company.channel.word = Channel.readyWord) ?_ ⟨coherent, ready⟩
  rintro before after ⟨coherent, ready⟩ turn
  refine ⟨coherent.turn turn, ?_⟩
  cases turn with
  | step step => rw [coherent.ready ready step, ready]
  | ends code => exact ready

/-! ### A worker on its way to its end -/

/-- What a worker does next, from where it stands. -/
def Onward (before : Company) : Hand → Company → Prop
  | .polling, after => ∃ request, before.channel.poll = some request ∧
      after = before.put (.serving request)
  | .serving request, after => ∃ logged ended reaction ran,
      (Worker.react (Worker.recorded logged ended) before.commandLog request).run [] =
        (reaction, ran) ∧ after = before.put (.settling reaction)
  | .settling reaction, after => after = { before with
      channel := Worker.settle before.channel reaction
      worker := some (match reaction.code? with
        | none => .polling
        | some code => .leaving (some code)) }
  | .leaving code, after => after = before.put (.gone code)
  | .gone _, _ | .reaped _, _ => False

theorem Step.onward (step : Step before after) (worker : before.worker = some hand) :
    before.Onward hand after := by
  cases step with
  | read free pending =>
    rw [free] at worker
    cases worker
    exact ⟨_, pending, rfl⟩
  | serve logged ended busy reacted =>
    rw [busy] at worker
    cases worker
    exact ⟨logged, ended, _, _, reacted, rfl⟩
  | settle served =>
    rw [served] at worker
    cases worker
    exact rfl
  | leave about =>
    rw [about] at worker
    cases worker
    exact rfl

/-- **The worker comes to its end.** It has left, or it can do a step, and whatever happens it comes to
its end after that. -/
inductive Ending : Company → Prop where
  | left {company : Company} {code : ExitCode} (left : company.code? = some code) : Ending company
  | goes {company next : Company} (step : Step company next)
      (rest : ∀ later, Turn company later → Ending later) : Ending company

/-- A worker that comes to its end has left at some time. -/
theorem Ending.leaves (ending : company.Ending) :
    ∃ later code, Run company later ∧ later.code? = some code := by
  induction ending with
  | @left company code left => exact ⟨company, code, .refl, left⟩
  | goes step _ ih =>
    obtain ⟨later, code, run, left⟩ := ih _ (.step step)
    exact ⟨later, code, .head step run, left⟩

/-- A worker comes to its end if it does after its next step. -/
theorem Ending.next {next : Company} (worker : company.worker = some hand)
    (step : Step company next) (rest : ∀ later, company.Onward hand later → later.Ending) :
    company.Ending := by
  refine .goes step fun later turn => ?_
  cases turn with
  | step step => exact rest later (step.onward worker)
  | ends code =>
    have left : (company.put (.gone code)).code? = some code := rfl
    exact .left left

theorem ending_leaving (worker : company.worker = some (.leaving code)) : company.Ending := by
  refine .next worker (.leave worker) ?_
  rintro _ rfl
  exact .left rfl

theorem ending_settling {acknowledged : Bool} {code : Nat}
    (worker : company.worker = some (.settling (.leave acknowledged code))) : company.Ending := by
  refine .next worker (.settle worker) ?_
  rintro _ rfl
  exact ending_leaving rfl

theorem ending_serving (worker : company.worker = some (.serving .exit)) : company.Ending := by
  refine .next worker (.serve true .missing worker rfl) ?_
  rintro _ ⟨_, _, reaction, ran, reacted, rfl⟩
  obtain rfl : Reaction.leave false 0 = reaction := congrArg Prod.fst reacted
  exact ending_settling rfl

theorem ending_polling (worker : company.worker = some .polling)
    (state : company.channel.state = .exit) : company.Ending := by
  have pending : company.channel.poll = some .exit := by rw [Channel.poll, state]
  refine .next worker (.read worker pending) ?_
  rintro _ ⟨request, same, rfl⟩
  rw [pending] at same
  cases same
  exact ending_serving rfl

/-- **A worker that is told to leave** while it is not at work comes to its end. -/
theorem Coherent.ending (coherent : company.Coherent)
    (ready : company.channel.word = Channel.readyWord) :
    Ending { company with channel := company.channel.store Channel.exitWord } := by
  obtain ⟨hand, worker⟩ := coherent.hired
  cases hand with
  | polling => exact ending_polling worker rfl
  | serving => exact absurd trivial (coherent.free ready _ worker)
  | settling => exact absurd trivial (coherent.free ready _ worker)
  | leaving code => exact ending_leaving worker
  | gone code => exact .left (code?_eq_some_iff.mpr (.inl worker))
  | reaped code => exact .left (code?_eq_some_iff.mpr (.inr worker))

/-- **A worker that is killed** has left. -/
theorem Coherent.ending_kill (coherent : company.Coherent) : company.kill.Ending := by
  obtain ⟨hand, worker⟩ := coherent.hired
  have killed : company.kill.worker = some hand.kill := by rw [kill, worker]; rfl
  have left : ∃ code, hand.kill.code? = some code := by cases hand <;> exact ⟨_, rfl⟩
  obtain ⟨code, left⟩ := left
  have gone : company.kill.code? = some code := by rw [code?, killed, Option.bind_some, left]
  exact .left gone

/-! ### What is answered -/

/-- What a question may be answered when the worker may end at any time. -/
def Replies (company : Company) : (effect : Effect) → effect.Reply → Company → Prop
  | .look, word, later => Turns company later ∧ word = later.channel.word
  | .fill command, _, later =>
    ∃ between, Turns company between ∧
      later = { between with channel := between.channel.putCommand command }
  | .post word, _, later =>
    ∃ between, Turns company between ∧
      later = { between with channel := between.channel.store word }
  | .await policy, verdict, later => Ends policy (Turns company) verdict later
  | .reap, found, later =>
    ∃ between, Turns company between ∧ found = .ok between.code? ∧ later = between.reap
  | .join, left, later =>
    ∃ between code, Turns company between ∧ between.code? = some code ∧ left = .ok code ∧
      later = between.reap
  | .kill, _, later => ∃ between, Turns company between ∧ later = between.kill
  | effect, reply, later => Answers company effect reply later

/-- A worker that does not end before its time answers in one of these ways. -/
theorem Replies.of_answers {effect : Effect} {reply : effect.Reply}
    (answers : Answers company effect reply later) : Replies company effect reply later := by
  cases effect with
  | look => exact ⟨answers.1.turns, answers.2⟩
  | await policy =>
    exact Waits.ends (Turns company) (fun turns step => turns.tail (.step step)) answers .refl
  | join =>
    obtain ⟨between, code, run, rest⟩ := answers
    exact ⟨between, code, run.turns, rest⟩
  | fill | post | reap | kill =>
    obtain ⟨between, run, rest⟩ := answers
    exact ⟨between, run.turns, rest⟩
  | _ => exact answers

theorem Coherent.reap (coherent : company.Coherent) : company.reap.Coherent := by
  obtain ⟨hand, worker⟩ := coherent.hired
  have reaped : company.reap.worker = some hand.reap := by rw [Company.reap, worker]; rfl
  refine ⟨⟨_, reaped⟩, fun ready other same => ?_⟩
  rw [reaped] at same
  cases same
  have free := coherent.free ready hand worker
  cases hand with
  | gone code => exact id
  | _ => exact free

theorem Coherent.kill (coherent : company.Coherent) : company.kill.Coherent := by
  obtain ⟨hand, worker⟩ := coherent.hired
  have killed : company.kill.worker = some hand.kill := by rw [Company.kill, worker]; rfl
  refine coherent_of_free _ killed ?_
  cases hand <;> exact id

/-- **A fair question** keeps a worker from being at work while the word is ready. -/
theorem Coherent.replies {effect : Effect} {reply : effect.Reply} (coherent : company.Coherent)
    (fair : effect.IsFair) (replies : Replies company effect reply later) : later.Coherent := by
  cases effect with
  | combine flag =>
    obtain ⟨-, rfl⟩ := replies
    exact coherent
  | hire => exact fair.elim
  | look => exact coherent.turns replies.1
  | fill command =>
    obtain ⟨between, turns, rfl⟩ := replies
    have kept := coherent.turns turns
    exact ⟨kept.hired, kept.free⟩
  | post word =>
    obtain ⟨between, turns, rfl⟩ := replies
    obtain ⟨hand, worker⟩ := (coherent.turns turns).hired
    exact coherent_of_word hand worker fair
  | await policy =>
    cases (replies : Ends policy (Turns company) reply later) with
    | acknowledged turns => exact coherent.turns turns
    | left turns =>
      have kept := (coherent.turns turns).reap
      exact ⟨kept.hired, kept.free⟩
    | exhausted turns => exact coherent.turns turns
  | reap =>
    obtain ⟨between, turns, -, rfl⟩ := replies
    exact (coherent.turns turns).reap
  | join =>
    obtain ⟨between, code, turns, -, -, rfl⟩ := replies
    exact (coherent.turns turns).reap
  | kill =>
    obtain ⟨between, turns, rfl⟩ := replies
    exact (coherent.turns turns).kill
  | release =>
    obtain ⟨-, rfl⟩ := replies
    exact coherent
  | present | openImage | writeSource | remove =>
    obtain rfl : later = company := replies
    exact coherent

/-- The answers of a company, with a record of all that was asked. A question may be asked that has an
answer, and nobody waits for the end of a worker that does not come to it. -/
def attended : Contract (Company × List Event) where
  asks before effect := (∃ reply later, Replies before.1 effect reply later) ∧
    (effect = .join → before.1.Ending)
  answers before effect reply after :=
    Replies before.1 effect reply after.1 ∧ after.2 = before.2 ++ [⟨effect, reply⟩]

theorem exists_answers {state : Company × List Event} {effect : Effect}
    (asks : attended.asks state effect) :
    ∃ reply last, attended.answers state effect reply last := by
  obtain ⟨⟨reply, later, replied⟩, -⟩ := asks
  exact ⟨reply, (later, _), replied, rfl⟩

/-- A question is put on record. -/
theorem fulfils_attended {α : Type} {effect : Effect} {next : effect.Reply → Action α}
    {post : α → Company × List Event → Prop} {asked : List Event}
    (answerable : ∃ reply later, Replies company effect reply later)
    (joins : effect = .join → company.Ending)
    (rest : ∀ reply later, Replies company effect reply later →
      (next reply).Fulfils attended post (later, asked ++ [⟨effect, reply⟩])) :
    (Action.ask effect next).Fulfils attended post (company, asked) := by
  refine ⟨⟨answerable, joins⟩, ?_⟩
  rintro reply ⟨later, log⟩ ⟨replied, same⟩
  obtain rfl : log = _ := same
  exact rest reply later replied

end Company

end KernelCache
