import KernelCache.Proofs.Channel.Buffer
import KernelCache.Proofs.Coordinator.Steps
import KernelCache.Proofs.Text.Utf8

/-
**A channel is a mailbox with one slot.**

A mailbox holds at most one request. What its two ends can do with it, and what they are told, is
the relation `Mailbox.Step`. Its rules name the reason of every refusal: a pending request before
anything else, then the first NUL of a command before its length, or the reserved word.

* `Channel.perform` does one operation of either end on a channel, `Channel.performAll` many.
* `Channel.step_perform`: whatever the word and the buffer hold, every operation is the step of a
  mailbox whose pending request is what `Channel.poll` yields.
* `Mailbox.run_functional`: a mailbox leaves no choice, neither in the answers nor in what is
  pending.
* `Channel.served_send`: the coordinator's own questions, with a write of their own, come to the
  same as a request at once.
* **`Channel.refines_mailbox`** is the result for all sequences of operations, as
  `Channel.IsMailbox` says it.
-/

namespace KernelCache

/-- The status word while a request is pending. -/
def Request.word : Request → UInt32
  | call _ => Channel.callWord
  | exit => Channel.exitWord
  | identity word => word

namespace Mailbox

/-- What the two ends of a channel can do. -/
inductive Operation where
  /-- The requester asks whether a command fits. -/
  | check (command : Bytes)
  /-- The requester publishes a request. -/
  | send (request : Request)
  /-- The requester asks whether the last request is done. -/
  | isReady
  /-- The responder asks for the pending request. -/
  | poll
  /-- The responder marks the pending request as done. -/
  | acknowledge
  deriving DecidableEq, Repr

/-- What an end is told. -/
inductive Response where
  /-- Of a check or of a request. -/
  | verdict (outcome : Except ChannelFault Unit)
  | ready (ready : Bool)
  | polled (pending : Option Request)
  | acknowledged

/-- What can be sent through an empty mailbox. -/
def Admissible (capacity : Nat) : Request → Prop
  | .call command => 0 ∉ command ∧ command.length + 1 ≤ capacity
  | .exit => True
  | .identity word =>
    word ≠ Channel.readyWord ∧ word ≠ Channel.callWord ∧ word ≠ Channel.exitWord

instance (capacity : Nat) : (request : Request) → Decidable (Admissible capacity request)
  | .call _ => inferInstanceAs (Decidable (_ ∧ _))
  | .exit => inferInstanceAs (Decidable True)
  | .identity _ => inferInstanceAs (Decidable (_ ∧ _ ∧ _))

/-- Why a request cannot be sent through an empty mailbox. -/
inductive Refused (capacity : Nat) : Request → ChannelFault → Prop
  | interiorNul {before : Bytes} (clean : 0 ∉ before) (after : Bytes) :
    Refused capacity (.call (before ++ 0 :: after)) (.interiorNul before.length)
  | commandTooLong {command : Bytes} (clean : 0 ∉ command) (long : capacity < command.length + 1) :
    Refused capacity (.call command) (.commandTooLong command.length capacity)
  | reservedWord {word : UInt32}
      (sentinel : word = Channel.readyWord ∨ word = Channel.callWord ∨ word = Channel.exitWord) :
    Refused capacity (.identity word) (.reservedWord word)

/-- One operation on a mailbox, from what is pending before to what is pending after it. -/
inductive Step (capacity : Nat) : Option Request → Operation → Response → Option Request → Prop
  | checked {pending : Option Request} {command : Bytes}
      (admissible : Admissible capacity (.call command)) :
    Step capacity pending (.check command) (.verdict (.ok ())) pending
  | unfit {pending : Option Request} {command : Bytes} {fault : ChannelFault}
      (refused : Refused capacity (.call command) fault) :
    Step capacity pending (.check command) (.verdict (.error fault)) pending
  | sent {request : Request} (admissible : Admissible capacity request) :
    Step capacity none (.send request) (.verdict (.ok ())) (some request)
  | refused {request : Request} {fault : ChannelFault} (refused : Refused capacity request fault) :
    Step capacity none (.send request) (.verdict (.error fault)) none
  | busy (pending request : Request) :
    Step capacity (some pending) (.send request) (.verdict (.error (.busy pending.word)))
      (some pending)
  | isReady (pending : Option Request) :
    Step capacity pending .isReady (.ready pending.isNone) pending
  | poll (pending : Option Request) :
    Step capacity pending .poll (.polled pending) pending
  | acknowledge (pending : Option Request) :
    Step capacity pending .acknowledge .acknowledged none

/-- Many operations on a mailbox, one after the other. -/
inductive Run (capacity : Nat) :
    Option Request → List Operation → List Response → Option Request → Prop
  | nil (pending : Option Request) : Run capacity pending [] [] pending
  | cons {before between after : Option Request} {operation : Operation} {answer : Response}
      {operations : List Operation} {answers : List Response}
      (step : Step capacity before operation answer between)
      (rest : Run capacity between operations answers after) :
    Run capacity before (operation :: operations) (answer :: answers) after

/-! ### Admissible and refused requests -/

theorem admissible_or_refused (capacity : Nat) (request : Request) :
    Admissible capacity request ∨ ∃ fault, Refused capacity request fault := by
  cases request with
  | call command =>
    by_cases inside : 0 ∈ command
    · obtain ⟨before, after, rfl, clean⟩ := List.eq_append_cons_of_mem inside
      exact .inr ⟨_, .interiorNul clean after⟩
    · by_cases long : capacity < command.length + 1
      · exact .inr ⟨_, .commandTooLong inside long⟩
      · exact .inl ⟨inside, Nat.not_lt.mp long⟩
  | exit => exact .inl trivial
  | identity word =>
    by_cases sentinel : word = Channel.readyWord ∨ word = Channel.callWord ∨ word = Channel.exitWord
    · exact .inr ⟨_, .reservedWord sentinel⟩
    · simp only [not_or] at sentinel
      exact .inl sentinel

theorem Refused.not_admissible {capacity : Nat} {request : Request} {fault : ChannelFault}
    (refused : Refused capacity request fault) : ¬ Admissible capacity request := by
  intro admissible
  cases refused with
  | interiorNul clean after => exact admissible.1 (by simp)
  | commandTooLong clean long => exact Nat.not_le.mpr long admissible.2
  | reservedWord sentinel =>
    obtain ⟨ready, call, exit⟩ := admissible
    rcases sentinel with here | here | here
    · exact ready here
    · exact call here
    · exact exit here

/-- The octets a request puts into the buffer. -/
def payload? : Request → Option Bytes
  | .call command => some command
  | .exit | .identity _ => none

theorem reserved_eq_true_iff (word : UInt32) :
    Channel.reserved word = true ↔
      word = Channel.readyWord ∨ word = Channel.callWord ∨ word = Channel.exitWord := by
  simp [Channel.reserved, or_assoc]

theorem Admissible.accept {capacity : Nat} {request : Request}
    (admissible : Admissible capacity request) :
    Channel.accept capacity Channel.readyWord request = .ok (payload? request, request.word) := by
  unfold Channel.accept
  rw [if_neg fun different => different rfl]
  cases request with
  | call command =>
    show (Channel.fits capacity command >>= fun _ => _) = _
    rw [(Channel.fits_eq_ok_iff capacity command).mpr admissible]
    rfl
  | exit => rfl
  | identity word =>
    have free : ¬ Channel.reserved word = true := by
      rw [reserved_eq_true_iff]
      obtain ⟨ready, call, exit⟩ := admissible
      simp only [not_or]
      exact ⟨ready, call, exit⟩
    show (if Channel.reserved word = true then _ else _) = _
    rw [if_neg free]
    rfl

theorem Refused.fits {capacity : Nat} {command : Bytes} {fault : ChannelFault}
    (refused : Refused capacity (.call command) fault) :
    Channel.fits capacity command = .error fault := by
  cases refused with
  | interiorNul clean after => exact Channel.fits_interior capacity clean after
  | commandTooLong clean long => rw [Channel.fits_clean capacity clean, if_pos long]

theorem Refused.accept {capacity : Nat} {request : Request} {fault : ChannelFault}
    (refused : Refused capacity request fault) :
    Channel.accept capacity Channel.readyWord request = .error fault := by
  unfold Channel.accept
  rw [if_neg fun different => different rfl]
  cases request with
  | call command =>
    show (Channel.fits capacity command >>= fun _ => _) = _
    rw [refused.fits]
    rfl
  | exit => cases refused
  | identity word =>
    cases refused with
    | reservedWord sentinel =>
      show (if Channel.reserved word = true then _ else _) = _
      rw [if_pos ((reserved_eq_true_iff word).mpr sentinel)]

/-! ### A mailbox leaves no choice -/

/-- A request is refused for one reason only. -/
theorem Refused.functional {capacity : Nat} {request : Request} {fault other : ChannelFault}
    (first : Refused capacity request fault) (second : Refused capacity request other) :
    fault = other :=
  Except.error.inj (first.accept.symm.trans second.accept)

theorem step_functional {capacity : Nat} {before after other : Option Request}
    {operation : Operation} {answer reply : Response}
    (first : Step capacity before operation answer after)
    (second : Step capacity before operation reply other) : answer = reply ∧ after = other := by
  cases first with
  | checked admissible =>
    cases second with
    | checked => exact ⟨rfl, rfl⟩
    | unfit refused => exact absurd admissible refused.not_admissible
  | unfit refused =>
    cases second with
    | checked admissible => exact absurd admissible refused.not_admissible
    | unfit again => exact ⟨by rw [refused.functional again], rfl⟩
  | sent admissible =>
    cases second with
    | sent => exact ⟨rfl, rfl⟩
    | refused refused => exact absurd admissible refused.not_admissible
  | refused refused =>
    cases second with
    | sent admissible => exact absurd admissible refused.not_admissible
    | refused again => exact ⟨by rw [refused.functional again], rfl⟩
  | busy => cases second; exact ⟨rfl, rfl⟩
  | isReady => cases second; exact ⟨rfl, rfl⟩
  | poll => cases second; exact ⟨rfl, rfl⟩
  | acknowledge => cases second; exact ⟨rfl, rfl⟩

theorem run_functional {capacity : Nat} {operations : List Operation}
    {before after other : Option Request} {answers replies : List Response}
    (first : Run capacity before operations answers after)
    (second : Run capacity before operations replies other) :
    answers = replies ∧ after = other := by
  induction first generalizing replies with
  | nil => cases second; exact ⟨rfl, rfl⟩
  | cons step rest ih =>
    cases second with
    | cons again others =>
      obtain ⟨rfl, rfl⟩ := step_functional step again
      obtain ⟨rfl, rfl⟩ := ih others
      exact ⟨rfl, rfl⟩

end Mailbox

namespace Channel

open Mailbox

/-! ### The operations of a channel -/

/-- What comes of a step that may change the channel; one that fails leaves it alone. -/
def attempted (channel : Channel) : Except ChannelFault Channel → Response × Channel
  | .ok changed => (.verdict (.ok ()), changed)
  | .error fault => (.verdict (.error fault), channel)

/-- Does one operation of either end. -/
def perform (channel : Channel) : Operation → Response × Channel
  | .check command => (.verdict (channel.check command), channel)
  | .send request => channel.attempted (channel.send request)
  | .isReady => (.ready channel.isReady, channel)
  | .poll => (.polled channel.poll, channel)
  | .acknowledge => (.acknowledged, channel.acknowledge)

/-- Does many operations, and yields their answers. -/
def performAll (channel : Channel) : List Operation → List Response × Channel
  | [] => ([], channel)
  | operation :: rest =>
    let (answer, changed) := channel.perform operation
    let (answers, last) := changed.performAll rest
    (answer :: answers, last)

/-- Answers the questions of an action about the channel, one after the other and each of them at
once, up to the first question about something else. -/
def served {α : Type} (channel : Channel) : Action α → Channel × Action α
  | .ask .look next => channel.served (next channel.word)
  | .ask (.fill command) next => (channel.putCommand command).served (next ())
  | .ask (.post word) next => (channel.store word).served (next ())
  | .ask effect next => (channel, .ask effect next)
  | .done value => (channel, .done value)

/-! ### What is pending -/

theorem ofWord_ready : State.ofWord readyWord = .ready := rfl

theorem ofWord_call : State.ofWord callWord = .call := by decide

theorem ofWord_exit : State.ofWord exitWord = .exit := by decide

theorem ofWord_identity {word : UInt32} (ready : word ≠ readyWord) (call : word ≠ callWord)
    (exit : word ≠ exitWord) : State.ofWord word = .identity word := by
  rw [State.ofWord, if_neg ready, if_neg call, if_neg exit]

theorem word_of_poll {channel : Channel} {request : Request}
    (pending : channel.poll = some request) : channel.word = request.word := by
  have meaning := State.word_ofWord channel.word
  unfold poll state at pending
  cases here : State.ofWord channel.word with
  | ready => rw [here] at pending; cases pending
  | call => rw [here] at pending meaning; cases pending; exact meaning.symm
  | exit => rw [here] at pending meaning; cases pending; exact meaning.symm
  | identity word => rw [here] at pending meaning; cases pending; exact meaning.symm

theorem poll_eq_none_iff (channel : Channel) : channel.poll = none ↔ channel.word = readyWord := by
  constructor
  · intro empty
    have meaning := State.word_ofWord channel.word
    unfold poll state at empty
    cases here : State.ofWord channel.word with
    | ready => rw [here] at meaning; exact meaning.symm
    | call => rw [here] at empty; cases empty
    | exit => rw [here] at empty; cases empty
    | identity word => rw [here] at empty; cases empty
  · intro ready
    unfold poll state
    rw [ready, ofWord_ready]

theorem poll_store (channel : Channel) (word : UInt32) :
    (channel.store word).poll =
      match State.ofWord word with
      | .ready => none
      | .call => some (.call channel.command)
      | .exit => some .exit
      | .identity value => some (.identity value) := rfl

theorem isReady_eq (channel : Channel) : channel.isReady = channel.poll.isNone := by
  unfold isReady poll
  cases channel.state with
  | ready => rfl
  | call => rfl
  | exit => rfl
  | identity word => rfl

/-! ### A channel steps as a mailbox does -/

/-- A request that is accepted is pending, whatever the buffer held before. -/
theorem send_admissible {channel : Channel} {request : Request} (empty : channel.poll = none)
    (admissible : Admissible channel.capacity request) :
    ∃ changed, channel.send request = .ok changed ∧ changed.capacity = channel.capacity ∧
      changed.poll = some request := by
  have accepted : accept channel.capacity channel.word request =
      .ok (payload? request, request.word) := by
    rw [(poll_eq_none_iff channel).mp empty]
    exact admissible.accept
  unfold send
  rw [accepted]
  cases request with
  | call command =>
    refine ⟨(channel.putCommand command).store callWord, rfl, rfl, ?_⟩
    rw [poll_store, ofWord_call]
    exact congrArg (some ∘ Request.call) (command_putCommand channel admissible.1)
  | exit =>
    refine ⟨channel.store exitWord, rfl, rfl, ?_⟩
    rw [poll_store, ofWord_exit]
  | identity word =>
    refine ⟨channel.store word, rfl, rfl, ?_⟩
    obtain ⟨ready, call, exit⟩ := admissible
    rw [poll_store, ofWord_identity ready call exit]

theorem send_refused {channel : Channel} {request : Request} {fault : ChannelFault}
    (empty : channel.poll = none) (refused : Refused channel.capacity request fault) :
    channel.send request = .error fault := by
  unfold send
  rw [(poll_eq_none_iff channel).mp empty, refused.accept]
  rfl

theorem send_busy {channel : Channel} {pending : Request} (busy : channel.poll = some pending)
    (request : Request) : channel.send request = .error (.busy pending.word) := by
  have taken : channel.word ≠ readyWord := by
    intro ready
    rw [(poll_eq_none_iff channel).mpr ready] at busy
    cases busy
  unfold send accept
  rw [if_pos taken, word_of_poll busy]
  rfl

theorem poll_acknowledge (channel : Channel) : channel.acknowledge.poll = none :=
  (poll_eq_none_iff channel.acknowledge).mpr rfl

theorem capacity_perform (channel : Channel) (operation : Operation) :
    (channel.perform operation).2.capacity = channel.capacity := by
  cases operation with
  | check command => rfl
  | send request =>
    show (channel.attempted (channel.send request)).2.capacity = _
    cases pending : channel.poll with
    | some waiting => rw [send_busy pending]; rfl
    | none =>
      rcases admissible_or_refused channel.capacity request with admissible | ⟨fault, refused⟩
      · obtain ⟨changed, sent, capacity, _⟩ := send_admissible pending admissible
        rw [sent]
        exact capacity
      · rw [send_refused pending refused]; rfl
  | isReady => rfl
  | poll => rfl
  | acknowledge => rfl

/-- **Every operation is the step of a mailbox**, whatever the word and the buffer hold. -/
theorem step_perform (channel : Channel) (operation : Operation) :
    Mailbox.Step channel.capacity channel.poll operation (channel.perform operation).1
      (channel.perform operation).2.poll := by
  cases operation with
  | check command =>
    rcases admissible_or_refused channel.capacity (.call command) with
      admissible | ⟨fault, refused⟩
    · have fits : channel.check command = .ok () :=
        (fits_eq_ok_iff channel.capacity command).mpr admissible
      show Mailbox.Step _ _ _ (.verdict (channel.check command)) _
      rw [fits]
      exact .checked admissible
    · have fits : channel.check command = .error fault := refused.fits
      show Mailbox.Step _ _ _ (.verdict (channel.check command)) _
      rw [fits]
      exact .unfit refused
  | send request =>
    show Mailbox.Step _ _ _ (channel.attempted (channel.send request)).1
      (channel.attempted (channel.send request)).2.poll
    cases pending : channel.poll with
    | some waiting =>
      rw [send_busy pending]
      show Mailbox.Step _ _ _ _ channel.poll
      rw [pending]
      exact .busy waiting request
    | none =>
      rcases admissible_or_refused channel.capacity request with admissible | ⟨fault, refused⟩
      · obtain ⟨changed, sent, _, now⟩ := send_admissible pending admissible
        rw [sent]
        show Mailbox.Step _ _ _ _ changed.poll
        rw [now]
        exact .sent admissible
      · rw [send_refused pending refused]
        show Mailbox.Step _ _ _ _ channel.poll
        rw [pending]
        exact .refused refused
  | isReady =>
    show Mailbox.Step _ _ _ (.ready channel.isReady) channel.poll
    rw [isReady_eq]
    exact .isReady channel.poll
  | poll => exact .poll channel.poll
  | acknowledge =>
    show Mailbox.Step _ _ _ _ channel.acknowledge.poll
    rw [poll_acknowledge]
    exact .acknowledge channel.poll

theorem run_performAll (channel : Channel) (operations : List Operation) :
    Mailbox.Run channel.capacity channel.poll operations (channel.performAll operations).1
      (channel.performAll operations).2.poll := by
  induction operations generalizing channel with
  | nil => exact .nil channel.poll
  | cons operation rest ih =>
    have onwards := ih (channel.perform operation).2
    rw [capacity_perform] at onwards
    exact .cons (step_perform channel operation) onwards

theorem capacity_performAll (channel : Channel) (operations : List Operation) :
    (channel.performAll operations).2.capacity = channel.capacity := by
  induction operations generalizing channel with
  | nil => rfl
  | cons operation rest ih =>
    exact (ih (channel.perform operation).2).trans (capacity_perform channel operation)

/-! ### Refusals change nothing -/

theorem perform_refused {channel : Channel} {operation : Operation} {fault : ChannelFault}
    (refused : (channel.perform operation).1 = .verdict (.error fault)) :
    (channel.perform operation).2 = channel := by
  cases operation with
  | check command => rfl
  | send request =>
    show (channel.attempted (channel.send request)).2 = channel
    have told : (channel.attempted (channel.send request)).1 = .verdict (.error fault) := refused
    cases outcome : channel.send request with
    | ok changed => rw [outcome] at told; cases told
    | error other => rfl
  | isReady => rfl
  | poll => rfl
  | acknowledge => cases refused

/-- The questions with which a coordinator sends a request come to the same as the request at once.
In particular nothing is written before the request is refused. -/
theorem served_send (channel : Channel) {coordinator : Coordinator}
    (capacity : coordinator.capacity = channel.capacity) (request : Request) :
    ∃ outcome, (channel.perform (.send request)).1 = .verdict outcome ∧
      channel.served ((Coordinator.send request).run.run coordinator) =
        ((channel.perform (.send request)).2,
          .done (outcome.mapError Failure.channel, coordinator)) := by
  rw [Coordinator.run_send]
  show ∃ outcome, (channel.attempted (channel.send request)).1 = _ ∧
    channel.served (coordinator.publishing request channel.word) =
      ((channel.attempted (channel.send request)).2, _)
  unfold Coordinator.publishing send
  rw [capacity]
  cases accept channel.capacity channel.word request with
  | error fault => exact ⟨.error fault, rfl, rfl⟩
  | ok accepted =>
    rcases accepted with ⟨_ | command, word⟩
    · exact ⟨.ok (), rfl, rfl⟩
    · exact ⟨.ok (), rfl, rfl⟩

theorem send_eq_ok_iff (channel : Channel) (request : Request) :
    (∃ changed, channel.send request = .ok changed) ↔
      channel.poll = none ∧ Admissible channel.capacity request := by
  constructor
  · rintro ⟨changed, sent⟩
    cases pending : channel.poll with
    | some waiting => rw [send_busy pending] at sent; cases sent
    | none =>
      rcases admissible_or_refused channel.capacity request with admissible | ⟨fault, refused⟩
      · exact ⟨rfl, admissible⟩
      · rw [send_refused pending refused] at sent; cases sent
  · rintro ⟨empty, admissible⟩
    obtain ⟨changed, sent, _⟩ := send_admissible empty admissible
    exact ⟨changed, sent⟩

/-! ### The result -/

/-- What a mailbox with one slot promises of a channel after some operations and their answers. -/
structure IsMailbox (capacity : Nat) (operations : List Operation) (answers : List Response)
    (reached : Channel) : Prop where
  /-- An empty mailbox gives these answers and then holds what is pending. -/
  run : Mailbox.Run capacity none operations answers reached.poll
  /-- It could give no others. -/
  only {others : List Response} {pending : Option Request} :
    Mailbox.Run capacity none operations others pending → others = answers ∧ pending = reached.poll
  isReady_iff : reached.isReady = true ↔ reached.poll = none
  send_iff (request : Request) : (∃ changed, reached.send request = .ok changed) ↔
    reached.poll = none ∧ Admissible capacity request
  /-- What is refused leaves the word and the buffer as they were. -/
  unchanged {operation : Operation} {fault : ChannelFault} :
    (reached.perform operation).1 = .verdict (.error fault) →
      (reached.perform operation).2 = reached
  /-- The questions of a coordinator come to the same, so nothing is written before a refusal. -/
  served {coordinator : Coordinator} (request : Request) : coordinator.capacity = capacity →
    ∃ outcome, (reached.perform (.send request)).1 = .verdict outcome ∧
      reached.served ((Coordinator.send request).run.run coordinator) =
        ((reached.perform (.send request)).2,
          .done (outcome.mapError Failure.channel, coordinator))
  /-- A command that is a text is read back as that text. -/
  text {text : String} : reached.poll = some (.call (Bytes.ofString text)) →
    Utf8.lossy reached.command = text

theorem command_of_poll {channel : Channel} {command : Bytes}
    (pending : channel.poll = some (.call command)) : channel.command = command := by
  unfold poll at pending
  cases here : channel.state with
  | ready => rw [here] at pending; cases pending
  | call => rw [here] at pending; cases pending; rfl
  | exit => rw [here] at pending; cases pending
  | identity word => rw [here] at pending; cases pending

theorem isMailbox_performAll {channel : Channel} (empty : channel.poll = none)
    (operations : List Operation) :
    IsMailbox channel.capacity operations (channel.performAll operations).1
      (channel.performAll operations).2 := by
  have run := run_performAll channel operations
  rw [empty] at run
  have capacity := capacity_performAll channel operations
  refine ⟨run, fun other => run_functional other run, ?_, ?_, perform_refused, ?_, ?_⟩
  · rw [isReady_eq, Option.isNone_iff_eq_none]
  · intro request
    rw [← capacity]
    exact send_eq_ok_iff _ request
  · intro coordinator request same
    exact served_send _ (same.trans capacity.symm) request
  · intro text pending
    rw [command_of_poll pending, Utf8.lossy_ofString]

/-- **A channel is a mailbox with one slot.** A channel of any capacity, once it is mapped, answers
every sequence of operations as a mailbox does. -/
theorem refines_mailbox (capacity : Nat) (positive : 1 ≤ capacity) :
    match allocate capacity readyWord with
    | .error fault => mappable < capacity ∧ fault = .map capacity .noMemory
    | .ok channel => ∀ operations, IsMailbox capacity operations
      (channel.performAll operations).1 (channel.performAll operations).2 := by
  unfold allocate
  rw [if_neg (Nat.pos_iff_ne_zero.mp positive)]
  by_cases large : mappable < capacity
  · rw [if_pos large]
    exact ⟨large, rfl⟩
  · rw [if_neg large]
    have empty := (poll_eq_none_iff { capacity, word := readyWord, written := [] }).mpr rfl
    exact isMailbox_performAll empty

/-- A short command takes the place of a longer one, the end of which stays in the buffer. -/
theorem refines_mailbox_reused :
    let operations : List Operation := [.send (.call [0x61, 0x62, 0x63, 0x64]), .acknowledge,
      .send (.call [0x65]), .send .exit]
    ∃ channel, allocate 8 readyWord = .ok channel ∧
      (channel.performAll operations).2.written = [0x65, 0, 0x63, 0x64, 0] ∧
      (channel.performAll operations).2.poll = some (.call [0x65]) ∧
      IsMailbox 8 operations (channel.performAll operations).1
        (channel.performAll operations).2 := by
  intro operations
  exact ⟨⟨8, readyWord, []⟩, rfl, by decide, by decide, refines_mailbox 8 (by decide) operations⟩

end Channel

end KernelCache
