import KernelCache.Proofs.Action.Contract
import KernelCache.Proofs.Channel.Handover
import KernelCache.Proofs.Coordinator.Steps

/-
**A coordinator in the company of its worker.**

Coordinator and worker share the word and the buffer of a channel, and each of them goes on at any
time. The worker reads a request, serves it, stores its acknowledgement and leaves in steps of their
own; the coordinator finds out whether the worker has left only by a look of its own.

* `Company.Step` is a step of the worker, `Company.Run` are many of them.
* `Company.Waits` is a wait of the coordinator: in every probe it loads the word and, if that is not
  ready, looks after the worker. The worker goes on before each of the two, and the attempts are
  counted by `PollPolicy.missed`, as in `PollPolicy.waitFrom_succ`.
* `Company.contract` answers the questions of a coordinator, after any steps of the worker. A
  question that would block for ever must not be asked.
* `Company.Waits.ends`: what a wait can come to.
-/

namespace KernelCache

/-- Where the process of a worker stands. -/
inductive Hand where
  /-- It is about to read the word. -/
  | polling
  | serving (request : Request)
  | settling (reaction : Reaction)
  /-- It is about to leave, and has stored what it had to store. -/
  | leaving (code : ExitCode)
  /-- It has left, and nobody has looked after it. -/
  | gone (code : ExitCode)
  | reaped (code : ExitCode)
  deriving DecidableEq

namespace Hand

/-- The exit code of a worker that has left. -/
def code? : Hand → Option ExitCode
  | gone code | reaped code => some code
  | _ => none

/-- A worker that was looked after. -/
def reap : Hand → Hand
  | gone code => reaped code
  | hand => hand

/-- A worker that was killed, unless it had left before. -/
def kill : Hand → Hand
  | gone code => gone code
  | reaped code => reaped code
  | _ => gone none

/-- It is at work on a request that is not settled. -/
def AtWork : Hand → Prop
  | serving _ | settling _ => True
  | _ => False

end Hand

/-- A channel and the worker at its other end. -/
structure Company where
  channel : Channel
  commandLog : Option Path := none
  /-- The worker; there is none before one is hired. -/
  worker : Option Hand := none
  /-- A wait has found that the worker was gone, when its acknowledgement was there already. -/
  overtaken : Bool := false

namespace Company

/-- The company of a worker that has just been hired. -/
def fresh (commandLog : Option Path) : Company where
  channel := { capacity := Channel.pageCapacity, word := Channel.readyWord, written := [] }
  commandLog
  worker := some .polling

/-! ### Steps of the worker -/

/-- The worker at another place. -/
def put (company : Company) (hand : Hand) : Company := { company with worker := some hand }

@[simp] theorem put_channel (company : Company) (hand : Hand) :
    (company.put hand).channel = company.channel := rfl

@[simp] theorem put_worker (company : Company) (hand : Hand) :
    (company.put hand).worker = some hand := rfl

@[simp] theorem put_overtaken (company : Company) (hand : Hand) :
    (company.put hand).overtaken = company.overtaken := rfl

/-- A step of the worker. -/
inductive Step : Company → Company → Prop where
  /-- It reads that a request is pending. -/
  | read {company : Company} {request : Request} (free : company.worker = some .polling)
      (pending : company.channel.poll = some request) :
      Step company (company.put (.serving request))
  /-- It serves the request, whatever comes of the log and of the shell. -/
  | serve {company : Company} {request : Request} (logged : Bool) (ended : ShellEnd)
      {reaction : Reaction} {ran : List (Bytes × ShellEnd)}
      (busy : company.worker = some (.serving request))
      (reacted : (Worker.react (Worker.recorded logged ended) company.commandLog request).run [] =
        (reaction, ran)) :
      Step company (company.put (.settling reaction))
  /-- It stores its acknowledgement, if there is one, and goes on. -/
  | settle {company : Company} {reaction : Reaction}
      (served : company.worker = some (.settling reaction)) :
      Step company { company with
        channel := Worker.settle company.channel reaction
        worker := some (match reaction.code? with
          | none => .polling
          | some code => .leaving (some code)) }
  /-- It leaves. -/
  | leave {company : Company} {code : ExitCode}
      (about : company.worker = some (.leaving code)) :
      Step company (company.put (.gone code))

/-- Many steps of the worker. -/
abbrev Run : Company → Company → Prop := Relation.ReflTransGen Step

/-- What every step of the worker keeps is kept by many. -/
theorem Run.keeps (holds : Company → Prop) (step : ∀ {before after}, holds before →
    Step before after → holds after) {before after : Company} (run : Run before after)
    (start : holds before) : holds after := by
  induction run with
  | refl => exact start
  | tail _ next ih => exact step ih next

/-- The company after a look at a worker that has left. -/
def reap (company : Company) : Company := { company with worker := company.worker.map Hand.reap }

/-- The company after the worker was killed. -/
def kill (company : Company) : Company := { company with worker := company.worker.map Hand.kill }

/-- The exit code of a worker that has left. -/
def code? (company : Company) : Option ExitCode := company.worker.bind Hand.code?

/-! ### Questions of the coordinator -/

/-- The rest of a wait after some attempts. -/
inductive Waits (policy : PollPolicy) : Nat → Company → Verdict → Company → Prop where
  /-- The word is ready. -/
  | acknowledged {attempts : Nat} {before seen : Company} (run : Run before seen)
      (ready : seen.channel.isReady = true) : Waits policy attempts before .acknowledged seen
  /-- The word was not ready, and then the worker is gone. -/
  | left {attempts : Nat} {before seen found : Company} {code : ExitCode} (run : Run before seen)
      (unready : seen.channel.isReady = false) (later : Run seen found)
      (left : found.code? = some code) :
      Waits policy attempts before (.left code)
        { found.reap with overtaken := found.channel.isReady }
  /-- The worker was still there, and there are attempts left. -/
  | again {attempts next : Nat} {before seen found last : Company} {verdict : Verdict}
      (run : Run before seen) (unready : seen.channel.isReady = false) (later : Run seen found)
      (there : found.code? = none) (missed : policy.missed attempts = .ok next)
      (rest : Waits policy next found verdict last) : Waits policy attempts before verdict last
  /-- The worker was still there, and the attempts are used up. -/
  | exhausted {attempts : Nat} {before seen found : Company} {exhausted : Exhausted}
      (run : Run before seen) (unready : seen.channel.isReady = false) (later : Run seen found)
      (there : found.code? = none) (missed : policy.missed attempts = .error exhausted) :
      Waits policy attempts before (.exhausted exhausted) found

/-- What a question may be answered, and the company afterwards. -/
def Answers (company : Company) : (effect : Effect) → effect.Reply → Company → Prop
  | .combine flag, anyFailed, later => (flag = true → anyFailed = true) ∧ later = company
  | .hire commandLog, hired, later =>
    (hired = .ok () ∧ later = fresh commandLog) ∨
      ∃ failure, hired = .error failure ∧ later = company
  | .look, word, later => Run company later ∧ word = later.channel.word
  | .fill command, _, later =>
    ∃ between, Run company between ∧
      later = { between with channel := between.channel.putCommand command }
  | .post word, _, later =>
    ∃ between, Run company between ∧ later = { between with channel := between.channel.store word }
  | .await policy, verdict, later => Waits policy 0 company verdict later
  | .reap, found, later =>
    ∃ between, Run company between ∧ found = .ok between.code? ∧ later = between.reap
  | .join, left, later =>
    ∃ between code, Run company between ∧ between.code? = some code ∧ left = .ok code ∧
      later = between.reap
  | .kill, _, later => ∃ between, Run company between ∧ later = between.kill
  | .release, released, later => released = .ok () ∧ later = company
  | _, _, later => later = company

/-- The questions that are answered at some time may be asked. -/
def contract : Contract Company where
  asks company effect := ∃ reply later, Answers company effect reply later
  answers := Answers

end Company

/-- **What a coordinator does within its company is never stuck.** -/
theorem Action.Fulfils.comes {α : Type} {post : α → Company → Prop} {action : Action α}
    {company : Company} (fulfils : action.Fulfils Company.contract post company) :
    ∃ value last, action.Yields Company.contract company value last ∧ post value last :=
  fulfils.arrives fun _ _ => id

namespace Company

/-! ### The end of a wait -/

/-- What a wait comes to, when the worker keeps a condition. -/
inductive Ends (policy : PollPolicy) (holds : Company → Prop) : Verdict → Company → Prop where
  | acknowledged {last : Company} (kept : holds last) (ready : last.channel.isReady = true) :
      Ends policy holds .acknowledged last
  | left {found : Company} {code : ExitCode} (kept : holds found) (left : found.code? = some code) :
      Ends policy holds (.left code) { found.reap with overtaken := found.channel.isReady }
  | exhausted {last : Company} {exhausted : Exhausted} (kept : holds last)
      (spent : policy.spent exhausted.attempts = true) :
      Ends policy holds (.exhausted exhausted) last

theorem spent_of_missed {policy : PollPolicy} {attempts : Nat} {exhausted : Exhausted}
    (missed : policy.missed attempts = .error exhausted) :
    policy.spent exhausted.attempts = true := by
  unfold PollPolicy.missed at missed
  simp only at missed
  split at missed
  case isTrue spent =>
    cases missed
    exact spent
  case isFalse => cases missed

/-- **What a wait can come to.** -/
theorem Waits.ends {policy : PollPolicy} (holds : Company → Prop)
    (step : ∀ {before after}, holds before → Step before after → holds after) {attempts : Nat}
    {before last : Company} {verdict : Verdict} (waits : Waits policy attempts before verdict last)
    (start : holds before) : Ends policy holds verdict last := by
  induction waits with
  | acknowledged run ready => exact .acknowledged (run.keeps holds step start) ready
  | left run _ later left => exact .left (later.keeps holds step (run.keeps holds step start)) left
  | again run _ later _ _ _ ih => exact ih (later.keeps holds step (run.keeps holds step start))
  | exhausted run _ later _ missed =>
    exact .exhausted (later.keeps holds step (run.keeps holds step start)) (spent_of_missed missed)

theorem Step.code?_eq_none {before after : Company} (step : Step before after) :
    before.code? = none := by
  unfold code?
  cases step with
  | read free => rw [free]; rfl
  | serve _ _ busy => rw [busy]; rfl
  | settle served => rw [served]; rfl
  | leave about => rw [about]; rfl

theorem Run.eq_of_code? {before after : Company} {code : ExitCode} (run : Run before after)
    (left : before.code? = some code) : after = before := by
  refine run.keeps (· = before) ?_ rfl
  rintro _ after rfl step
  rw [step.code?_eq_none] at left
  cases left

/-- **A wait does not outlast its worker**: when the worker has left, the next probe is the last. -/
theorem Waits.of_code? {policy : PollPolicy} {attempts : Nat} {before last : Company}
    {verdict : Verdict} {code : ExitCode} (waits : Waits policy attempts before verdict last)
    (left : before.code? = some code) : verdict = .acknowledged ∨ verdict = .left code := by
  have stays {seen found : Company} (run : Run before seen) (later : Run seen found) :
      found.code? = some code := by
    obtain rfl := run.eq_of_code? left
    rw [later.eq_of_code? left, left]
  cases waits with
  | acknowledged => exact .inl rfl
  | left run _ later found =>
    rw [stays run later] at found
    exact .inr (congrArg Verdict.left (Option.some.inj found).symm)
  | again run _ later there =>
    rw [stays run later] at there
    cases there
  | exhausted run _ later there =>
    rw [stays run later] at there
    cases there

end Company

end KernelCache
