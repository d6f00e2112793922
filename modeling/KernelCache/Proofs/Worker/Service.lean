import KernelCache.Proofs.Channel.Mailbox
import KernelCache.Worker

/-
**What a worker does with its requests.**

Requests are presented over a channel, each when the one before is done. The worker runs their
commands in order, up to the first one that is not successful, and logs each before it runs.

* `Fate` decides what comes of the log and of the shell, from all that has happened before. A line
  that cannot be appended may leave a part of itself.
* `Worker.attend` is a worker at its channel; as far as its reactions go, it is `Worker.serve`
  (`Worker.attend_fst`).
* `Worker.Reacts`: what one request leads to. `Worker.reacts`: nothing else does it.
* **`Worker.attends_in_order`**: of any requests the worker acknowledges a front, and how it ends
  there is one of the ways of `Worker.Ending`.
-/

namespace KernelCache

/-- What happens around a worker. -/
inductive Happening where
  | logged (path : Path) (line : Bytes)
  | ran (command : Bytes) (ended : ShellEnd)
  deriving DecidableEq, Repr

/-- The contents of a worker's log, and what has happened around the worker. -/
structure Journal where
  log : Bytes := []
  happenings : List Happening := []
  deriving DecidableEq, Repr

/-- What comes of a command and of a line of the log, after all that has happened. -/
structure Fate where
  ends : Journal → Bytes → ShellEnd
  /-- How much of a line is written when it cannot be appended; nothing is said when it can. -/
  torn? : Journal → Bytes → Option Nat

/-- The log and the shell, as fate decides. -/
def Fate.surroundings (fate : Fate) : Worker.Surroundings (StateM Journal) where
  append path line := fun journal =>
    match fate.torn? journal line with
    | none => (true,
        { log := journal.log ++ line, happenings := journal.happenings ++ [.logged path line] })
    | some written => (false, { journal with log := journal.log ++ line.take written })
  run command := fun journal =>
    let ended := fate.ends journal command
    (ended, { journal with happenings := journal.happenings ++ [.ran command ended] })

namespace Worker

/-- Requests are presented over a channel, each when the one before is done. The worker polls the
channel, serves the request and settles it, up to the request with which it leaves. -/
def attend {m : Type → Type} [Monad m] (surroundings : Surroundings m) (commandLog : Option Path) :
    Channel → List Request → m (List Reaction × Channel)
  | channel, [] => pure ([], channel)
  | channel, request :: rest =>
    match channel.send request with
    | .error _ => pure ([], channel)
    | .ok posted =>
      match posted.poll with
      | none => pure ([], posted)
      | some pending => do
        let reaction ← react surroundings commandLog pending
        match reaction with
        | .acknowledge =>
          let (reactions, last) ← attend surroundings commandLog (settle posted reaction) rest
          return (reaction :: reactions, last)
        | .leave _ _ => return ([reaction], settle posted reaction)

section

variable {m : Type → Type} [Monad m] (surroundings : Surroundings m) (commandLog : Option Path)
  {channel : Channel} {request : Request} {requests : List Request}

/-- A request that can be sent is the one that the worker serves. -/
theorem attend_cons (free : channel.poll = none)
    (admissible : Mailbox.Admissible channel.capacity request) (rest : List Request) :
    ∃ posted : Channel, posted.capacity = channel.capacity ∧ posted.word = request.word ∧
      attend surroundings commandLog channel (request :: rest) = do
        let reaction ← react surroundings commandLog request
        match reaction with
        | .acknowledge =>
          let (reactions, last) ← attend surroundings commandLog (settle posted reaction) rest
          return (reaction :: reactions, last)
        | .leave _ _ => return ([reaction], settle posted reaction) := by
  obtain ⟨posted, sent, capacity, pending⟩ := Channel.send_admissible free admissible
  refine ⟨posted, capacity, Channel.word_of_poll pending, ?_⟩
  rw [attend]
  simp only [sent, pending]

/-- A channel is free again once the request is acknowledged. -/
theorem poll_settle (posted : Channel) : (settle posted .acknowledge).poll = none :=
  Channel.poll_acknowledge posted

/-- **A worker at its channel serves the requests that are presented.** -/
theorem attend_fst [LawfulMonad m] (free : channel.poll = none)
    (admissible : ∀ request ∈ requests, Mailbox.Admissible channel.capacity request) :
    Prod.fst <$> attend surroundings commandLog channel requests =
      serve surroundings commandLog requests := by
  induction requests generalizing channel with
  | nil => rw [attend, serve, map_pure]
  | cons request rest ih =>
    obtain ⟨here, behind⟩ := List.forall_mem_cons.mp admissible
    obtain ⟨posted, capacity, -, attends⟩ := attend_cons surroundings commandLog free here
      rest
    rw [attends, serve, map_bind]
    refine congrArg _ (funext fun reaction => ?_)
    cases reaction with
    | leave acknowledged code => rw [map_pure]
    | acknowledge =>
      have serves := ih (poll_settle posted) (by rw [← capacity] at behind; exact behind)
      rw [← serves, map_bind, bind_map_left]
      refine congrArg _ (funext fun served => ?_)
      rw [map_pure]

end

/-! ### One request -/

/-- What taking commands puts into the log, if there is one. -/
def written (commandLog : Option Path) (commands : List Bytes) : Bytes :=
  match commandLog with
  | some _ => commands.flatMap logLine
  | none => []

/-- What happens when a command is run: it is logged before, if there is a log. -/
def carried (commandLog : Option Path) (command : Bytes) (ended : ShellEnd) : List Happening :=
  match commandLog with
  | some path => [.logged path (logLine command), .ran command ended]
  | none => [.ran command ended]

/-- What a request leads to. -/
inductive Reacts (commandLog : Option Path) (before : Journal) :
    Request → Reaction → Journal → Prop where
  | noted : Reacts commandLog before (.identity 0) .acknowledge before
  | dismissed {rank : UInt32} (other : rank ≠ 0) :
    Reacts commandLog before (.identity rank) (.leave true 0) before
  | exit : Reacts commandLog before .exit (.leave false 0) before
  /-- The line could not be appended; a part of it may be there. -/
  | unlogged {path : Path} {command torn : Bytes} (logs : commandLog = some path)
      (part : torn <+: logLine command) :
    Reacts commandLog before (.call command) (.leave false logFailed)
      { before with log := before.log ++ torn }
  | succeeded (command : Bytes) :
    Reacts commandLog before (.call command) .acknowledge
      { log := before.log ++ written commandLog [command]
        happenings := before.happenings ++ carried commandLog command (.left 0) }
  | failed {command : Bytes} {ended : ShellEnd} (bad : ended ≠ .left 0) :
    Reacts commandLog before (.call command) (.leave false (exitCode ended))
      { log := before.log ++ written commandLog [command]
        happenings := before.happenings ++ carried commandLog command ended }

/-- **Only success has the code zero.** -/
theorem exitCode_eq_zero_iff {ended : ShellEnd} : exitCode ended = 0 ↔ ended = .left 0 := by
  cases ended with
  | left code => exact ⟨congrArg _, ShellEnd.left.inj⟩
  | signaled => exact ⟨nofun, nofun⟩
  | missing => exact ⟨nofun, nofun⟩

/-- A command that was run. -/
theorem reacts_ran (commandLog : Option Path) (before : Journal) (command : Bytes)
    (ended : ShellEnd) :
    Reacts commandLog before (.call command)
      (if exitCode ended = 0 then .acknowledge else .leave false (exitCode ended))
      { log := before.log ++ written commandLog [command]
        happenings := before.happenings ++ carried commandLog command ended } := by
  by_cases good : exitCode ended = 0
  · rw [if_pos good, exitCode_eq_zero_iff.mp good]
    exact .succeeded command
  · rw [if_neg good]
    exact .failed (mt exitCode_eq_zero_iff.mpr good)

section

variable {fate : Fate} {path : Path} {command : Bytes} {before : Journal}

/-- A line that cannot be appended. -/
theorem call_torn {octets : Nat} (torn : fate.torn? before (logLine command) = some octets) :
    (react fate.surroundings (some path) (.call command)).run before = (.leave false logFailed,
      { before with log := before.log ++ (logLine command).take octets }) := by
  have appends : (fate.surroundings.append path (logLine command)).run before =
      (false, { before with log := before.log ++ (logLine command).take octets }) := by
    show (match fate.torn? before (logLine command) with | none => _ | some written => _) = _
    rw [torn]
  show ((fate.surroundings.append path (logLine command)) >>= _).run before = _
  rw [StateT.run_bind, appends]
  rfl

/-- A command that is run after it was logged. -/
theorem call_logged (whole : fate.torn? before (logLine command) = none) :
    let logged : Journal := { log := before.log ++ logLine command
                              happenings := before.happenings ++ [.logged path (logLine command)] }
    let ended := fate.ends logged command
    (react fate.surroundings (some path) (.call command)).run before =
      (if exitCode ended = 0 then .acknowledge else .leave false (exitCode ended),
        { log := before.log ++ written (some path) [command]
          happenings := before.happenings ++ carried (some path) command ended }) := by
  intro logged ended
  have appends : (fate.surroundings.append path (logLine command)).run before = (true, logged) := by
    show (match fate.torn? before (logLine command) with | none => _ | some written => _) = _
    rw [whole]
  have line : written (some path) [command] = logLine command := List.append_nil _
  have both : before.happenings ++ carried (some path) command ended =
      logged.happenings ++ [.ran command ended] :=
    (List.append_assoc _ [Happening.logged path (logLine command)] [Happening.ran command ended]).symm
  show ((fate.surroundings.append path (logLine command)) >>= _).run before = _
  rw [StateT.run_bind, appends, line, both]
  rfl

end

/-- **A request leads to what it should**, whatever fate decides. -/
theorem reacts (fate : Fate) (commandLog : Option Path) (request : Request) (before : Journal) :
    Reacts commandLog before request ((react fate.surroundings commandLog request).run before).1
      ((react fate.surroundings commandLog request).run before).2 := by
  cases request with
  | exit => exact .exit
  | identity rank =>
    by_cases zero : rank = 0
    · subst zero
      exact .noted
    · have leaves : react fate.surroundings commandLog (.identity rank) =
          pure (.leave true 0) := congrArg pure (if_neg zero)
      rw [leaves]
      exact .dismissed zero
  | call command =>
    cases commandLog with
    | none =>
      have ran := reacts_ran none before command (fate.ends before command)
      rw [written, List.append_nil] at ran
      exact ran
    | some path =>
      cases torn : fate.torn? before (logLine command) with
      | some octets =>
        rw [call_torn torn]
        exact .unlogged rfl (List.take_prefix _ _)
      | none =>
        rw [call_logged torn]
        exact reacts_ran (some path) before command _

/-! ### Many requests -/

/-- How the service of a worker ends. -/
inductive Ending where
  /-- All requests are done, and the worker waits for more. -/
  | waits
  /-- It was asked to leave. -/
  | exit (unserved : List Request)
  /-- It was told the rank of a worker that is of no use. -/
  | dismissed (rank : UInt32) (unserved : List Request)
  /-- A command could not be logged; this part of its line is in the log. -/
  | unlogged (command torn : Bytes) (unserved : List Request)
  | failed (command : Bytes) (ended : ShellEnd) (unserved : List Request)

namespace Ending

/-- The request with which the worker leaves, and those behind it. -/
def requests : Ending → List Request
  | waits => []
  | exit unserved => .exit :: unserved
  | dismissed rank unserved => .identity rank :: unserved
  | unlogged command _ unserved => .call command :: unserved
  | failed command _ unserved => .call command :: unserved

/-- What an ending says is so. -/
def Proper (commandLog : Option Path) : Ending → Prop
  | waits | exit _ => True
  | dismissed rank _ => rank ≠ 0
  | unlogged command torn _ => commandLog ≠ none ∧ torn <+: logLine command
  | failed _ ended _ => ended ≠ .left 0

/-- The reaction to the request with which the worker leaves. -/
def reactions : Ending → List Reaction
  | waits => []
  | exit _ => [.leave false 0]
  | dismissed _ _ => [.leave true 0]
  | unlogged _ _ _ => [.leave false logFailed]
  | failed _ ended _ => [.leave false (exitCode ended)]

/-- The status word at the end. -/
def word : Ending → UInt32
  | waits | dismissed _ _ => Channel.readyWord
  | exit _ => Channel.exitWord
  | unlogged _ _ _ | failed _ _ _ => Channel.callWord

/-- What the request with which the worker leaves puts into the log. -/
def line (commandLog : Option Path) : Ending → Bytes
  | waits | exit _ | dismissed _ _ => []
  | unlogged _ torn _ => torn
  | failed command _ _ => written commandLog [command]

/-- What happens at the request with which the worker leaves. -/
def happenings (commandLog : Option Path) : Ending → List Happening
  | waits | exit _ | dismissed _ _ | unlogged _ _ _ => []
  | failed command ended _ => carried commandLog command ended

/-- The worker leaves with success when it was told to leave, and else it does not. -/
theorem code?_eq_zero_iff {commandLog : Option Path} {ending : Ending}
    (proper : ending.Proper commandLog) :
    (∃ reaction ∈ ending.reactions, reaction.code? = some 0) ↔
      (∃ unserved, ending = .exit unserved) ∨ ∃ rank unserved, ending = .dismissed rank unserved := by
  cases ending with
  | waits => simp [reactions]
  | exit unserved => simp [reactions, Reaction.code?]
  | dismissed rank unserved => simp [reactions, Reaction.code?]
  | unlogged command torn unserved => simp [reactions, Reaction.code?, logFailed]
  | failed command ended unserved =>
    have bad : exitCode ended ≠ 0 := mt exitCode_eq_zero_iff.mp proper
    simp [reactions, Reaction.code?, bad]

end Ending

/-- What a worker has done with requests, when it has acknowledged the ones in front. -/
structure Attended (commandLog : Option Path) (requests : List Request) (before : Journal)
    (reactions : List Reaction) (word : UInt32) (after : Journal) (front : List Request)
    (ending : Ending) : Prop where
  split : requests = front ++ ending.requests
  /-- What is acknowledged is the identity of rank zero, or a command. -/
  acknowledged : ∀ request ∈ front, request = .identity 0 ∨ ∃ command, request = .call command
  proper : ending.Proper commandLog
  reactions : reactions = front.map (fun _ => .acknowledge) ++ ending.reactions
  word : word = ending.word
  /-- Each command in front was logged and run, in order, and was successful. -/
  happenings : after.happenings = before.happenings ++
    (front.filterMap Mailbox.payload?).flatMap (carried commandLog · (.left 0)) ++
      ending.happenings commandLog
  log : after.log = before.log ++ written commandLog (front.filterMap Mailbox.payload?) ++
    ending.line commandLog

namespace Attended

variable {commandLog : Option Path} {requests rest : List Request} {before between after : Journal}
  {reactions : List Reaction} {word : UInt32} {front : List Request} {ending : Ending}
  {request : Request}

/-- A request with which the worker leaves is the last. -/
theorem last (proper : ending.Proper commandLog)
    (happenings : after.happenings = before.happenings ++ ending.happenings commandLog)
    (log : after.log = before.log ++ ending.line commandLog) :
    Attended commandLog ending.requests before ending.reactions ending.word after [] ending where
  split := rfl
  acknowledged := nofun
  proper := proper
  reactions := rfl
  word := rfl
  happenings := by simpa using happenings
  log := by
    have nothing : written commandLog [] = [] := by cases commandLog <;> rfl
    rw [List.filterMap_nil, nothing, List.append_nil]
    exact log

/-- The identity of rank zero changes nothing. -/
theorem noted (attended : Attended commandLog rest before reactions word after front ending) :
    Attended commandLog (.identity 0 :: rest) before (.acknowledge :: reactions) word after
      (.identity 0 :: front) ending where
  split := congrArg _ attended.split
  acknowledged := List.forall_mem_cons.mpr ⟨.inl rfl, attended.acknowledged⟩
  proper := attended.proper
  reactions := congrArg _ attended.reactions
  word := attended.word
  happenings := attended.happenings
  log := attended.log

/-- A command that was successful comes before the others. -/
theorem succeeded {command : Bytes}
    (attended : Attended commandLog rest
      { log := before.log ++ written commandLog [command]
        happenings := before.happenings ++ carried commandLog command (.left 0) }
      reactions word after front ending) :
    Attended commandLog (.call command :: rest) before (.acknowledge :: reactions) word after
      (.call command :: front) ending where
  split := congrArg _ attended.split
  acknowledged := List.forall_mem_cons.mpr ⟨.inr ⟨command, rfl⟩, attended.acknowledged⟩
  proper := attended.proper
  reactions := congrArg _ attended.reactions
  word := attended.word
  happenings := by
    rw [attended.happenings]
    simp [Mailbox.payload?]
  log := by
    rw [attended.log]
    cases commandLog with
    | none => simp [written]
    | some path => simp [Mailbox.payload?, written]

end Attended

/-- **Requests one after the other**, up to the one with which the worker leaves. -/
theorem exists_attended (fate : Fate) (commandLog : Option Path) {channel : Channel}
    (free : channel.poll = none) {requests : List Request}
    (admissible : ∀ request ∈ requests, Mailbox.Admissible channel.capacity request)
    (before : Journal) :
    let attended := (attend fate.surroundings commandLog channel requests).run before
    ∃ front ending, Attended commandLog requests before attended.1.1 attended.1.2.word attended.2
      front ending := by
  induction requests generalizing channel before with
  | nil =>
    have word : channel.word = Channel.readyWord := (Channel.poll_eq_none_iff channel).mp free
    have proper : Ending.waits.Proper commandLog := trivial
    have waits := Attended.last proper (List.append_nil before.happenings).symm
      (List.append_nil before.log).symm
    exact ⟨[], .waits, word ▸ waits⟩
  | cons request rest ih =>
    obtain ⟨here, behind⟩ := List.forall_mem_cons.mp admissible
    obtain ⟨posted, capacity, word, attends⟩ :=
      attend_cons fate.surroundings commandLog free here rest
    intro attended
    -- What follows an acknowledgement begins with a free channel.
    have further := ih (poll_settle posted) (by rw [← capacity] at behind; exact behind)
    have reacted := reacts fate commandLog request before
    have opens : attended = (do
        let reaction ← react fate.surroundings commandLog request
        match reaction with
        | .acknowledge =>
          let (reactions, last) ← attend fate.surroundings commandLog (settle posted reaction) rest
          return (reaction :: reactions, last)
        | .leave _ _ => return ([reaction], settle posted reaction)).run before :=
      congrArg (StateT.run · before) attends
    rw [opens, StateT.run_bind]
    generalize (react fate.surroundings commandLog request).run before = result at reacted
    obtain ⟨reaction, between⟩ := result
    cases reacted with
    | noted =>
      obtain ⟨front, ending, served⟩ := further _
      exact ⟨_, ending, served.noted⟩
    | succeeded command =>
      obtain ⟨front, ending, served⟩ := further _
      exact ⟨_, ending, served.succeeded⟩
    | @dismissed rank other =>
      have proper : (Ending.dismissed rank rest).Proper commandLog := other
      exact ⟨[], _, .last proper (List.append_nil _).symm (List.append_nil _).symm⟩
    | exit =>
      have proper : (Ending.exit rest).Proper commandLog := trivial
      refine ⟨[], .exit rest, ?_⟩
      show Attended _ _ _ _ posted.word _ _ _
      rw [word]
      exact .last proper (List.append_nil _).symm (List.append_nil _).symm
    | @unlogged path command torn logs part =>
      have proper : (Ending.unlogged command torn rest).Proper commandLog :=
        ⟨logs ▸ Option.some_ne_none path, part⟩
      refine ⟨[], .unlogged command torn rest, ?_⟩
      show Attended _ _ _ _ posted.word _ _ _
      rw [word]
      exact .last proper (List.append_nil _).symm rfl
    | @failed command ended bad =>
      have proper : (Ending.failed command ended rest).Proper commandLog := bad
      refine ⟨[], .failed command ended rest, ?_⟩
      show Attended _ _ _ _ posted.word _ _ _
      rw [word]
      exact .last proper rfl rfl

/-- **A worker serves its requests in order.** It acknowledges a front of them, whose commands were
all successful; then it waits, or leaves: with zero when it was asked to or was told another rank
than zero, and else with the code of a command that was not successful, or of the log. Every command
is logged before it runs, and what was not logged is not run. -/
theorem attends_in_order (fate : Fate) (commandLog : Option Path) {channel : Channel}
    (free : channel.poll = none) {requests : List Request}
    (admissible : ∀ request ∈ requests, Mailbox.Admissible channel.capacity request)
    (before : Journal) :
    let attended := (attend fate.surroundings commandLog channel requests).run before
    (serve fate.surroundings commandLog requests).run before = (attended.1.1, attended.2) ∧
    ∃ front ending, Attended commandLog requests before attended.1.1 attended.1.2.word attended.2
      front ending ∧
      ((∃ reaction ∈ attended.1.1, reaction.code? = some 0) ↔
        (∃ unserved, ending = .exit unserved) ∨
          ∃ rank unserved, ending = .dismissed rank unserved) := by
  intro attended
  obtain ⟨front, ending, served⟩ := exists_attended fate commandLog free admissible before
  refine ⟨?_, front, ending, served, ?_⟩
  · rw [← attend_fst fate.surroundings commandLog free admissible]
    rfl
  · rw [← Ending.code?_eq_zero_iff served.proper, served.reactions]
    simp [or_and_right, exists_or, Reaction.code?]

/-- The third of four commands fails, after it was logged; the last is not taken. -/
theorem attends_in_order_failing :
    let plain := Bytes.ofString "true"
    let failing := Bytes.ofString "exit 3"
    let fate : Fate :=
      { ends := fun _ command => .left (if command = failing then 3 else 0)
        torn? := fun _ _ => none }
    let channel : Channel := { capacity := 128, word := Channel.readyWord, written := [] }
    let requests : List Request := [.identity 0, .call plain, .call failing, .call plain]
    let log := Path.ofString "commands.log"
    let attended := (attend fate.surroundings (some log) channel requests).run {}
    channel.poll = none ∧ (∀ request ∈ requests, Mailbox.Admissible 128 request) ∧
      attended.1.1 = [.acknowledge, .acknowledge, .leave false 3] ∧
      attended.1.2.word = Channel.callWord ∧
      attended.2.log = Bytes.ofString "true\nexit 3\n" ∧
      ∃ front ending, Attended (some log) requests {} attended.1.1 attended.1.2.word attended.2
        front ending := by
  intro plain failing fate channel requests log attended
  have free : channel.poll = none := by decide
  have admissible : ∀ request ∈ requests, Mailbox.Admissible 128 request := by decide +kernel
  obtain ⟨-, front, ending, served, -⟩ := attends_in_order fate (some log) free admissible {}
  have seen : attended.1.1 = [.acknowledge, .acknowledge, .leave false 3] ∧
      attended.1.2.word = Channel.callWord ∧
      attended.2.log = Bytes.ofString "true\nexit 3\n" := by decide +kernel
  exact ⟨free, admissible, seen.1, seen.2.1, seen.2.2, front, ending, served⟩

end Worker

end KernelCache
