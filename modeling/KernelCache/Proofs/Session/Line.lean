import KernelCache.Proofs.Session.Questions

/-
**The line of a member to its worker.**

A line keeps what a member has asked and what it was answered, and the commands that it handed to
its worker with the end of the wait for each. A command is handed over when the word that asks for a
call is posted and the member waits; a worker that acknowledges leaves the line ready.

* `Line.dialogue` is the contract under which a member asks whatever it likes; in an exchange with
  the group its own flag counts.
* `Session.Poised owner session line`: the coordinator counts the commands, it is dead from the
  first one that was not acknowledged, and the session keeps every image that it opened.
* `Line.secures_callAll`: commands are handed over in order, up to the first one that fails.
-/

namespace KernelCache

open KernelCache.Action

/-- Answers to the same question can be compared. -/
instance Effect.decidableEqReply : (effect : Effect) → DecidableEq effect.Reply
  | .combine _ | .present _ => inferInstanceAs (DecidableEq Bool)
  | .hire _ => inferInstanceAs (DecidableEq (Except Failure Unit))
  | .look => inferInstanceAs (DecidableEq UInt32)
  | .fill _ | .post _ | .kill | .remove _ => inferInstanceAs (DecidableEq Unit)
  | .await _ => inferInstanceAs (DecidableEq Verdict)
  | .reap => inferInstanceAs (DecidableEq (Except Fault (Option ExitCode)))
  | .join => inferInstanceAs (DecidableEq (Except Fault ExitCode))
  | .release => inferInstanceAs (DecidableEq (Except ChannelFault Unit))
  | .openImage _ => inferInstanceAs (DecidableEq (Except (Path × LoadFault) Image))
  | .writeSource _ _ => inferInstanceAs (DecidableEq (Except Fault Unit))

/-- A question and its answer. -/
structure Event where
  effect : Effect
  reply : effect.Reply
  deriving DecidableEq

namespace Event

/-- The image that was opened. -/
def opened? (event : Event) : Option Image := event.effect.opened? event.reply

/-- The path under which an image was opened, and the image. -/
def opening? : Event → Option (Path × Image)
  | ⟨.openImage path, .ok image⟩ => some (path, image)
  | _ => none

theorem opening?_eq_none {event : Event} (shut : event.opened? = none) : event.opening? = none := by
  rcases event with ⟨effect, reply⟩
  cases effect with
  | openImage path =>
    cases reply with
    | ok image => exact (nomatch shut)
    | error fault => rfl
  | _ => rfl

end Event

/-- What a member has asked so far, and the channel to its worker. -/
structure Line where
  word : UInt32 := Channel.readyWord
  buffer : Bytes := []
  /-- The commands that were handed to the worker, each with the end of the wait for it. -/
  handed : List (Bytes × Verdict) := []
  asked : List Event := []

namespace Line

/-- The line with one more question. -/
def note (line : Line) (event : Event) : Line :=
  { line with asked := line.asked ++ [event] }

/-- The line after a wait, when a word is left in the channel. -/
def waited (line : Line) (word : UInt32) (verdict : Verdict) : Line :=
  { line with
    word
    handed := if line.word = Channel.callWord then line.handed ++ [(line.buffer, verdict)]
      else line.handed }

/-- The images that were opened, the newest first. -/
def opened (line : Line) : List Image :=
  (line.asked.filterMap Event.opened?).reverse

/-- The openings on a line, the oldest first. -/
def openings (line : Line) : List (Path × Image) :=
  line.asked.filterMap Event.opening?

/-- What a question may be answered, and the line afterwards. -/
def Answers (line : Line) : (effect : Effect) → effect.Reply → Line → Prop
  | .combine flag, anyFailed, later =>
    (flag = true → anyFailed = true) ∧ later = line.note ⟨.combine flag, anyFailed⟩
  | .hire log, hired, later =>
    later = { line.note ⟨.hire log, hired⟩ with word := Channel.readyWord }
  | .look, word, later => word = line.word ∧ later = line.note ⟨.look, word⟩
  | .fill command, answer, later =>
    later = { line.note ⟨.fill command, answer⟩ with buffer := command }
  | .post word, answer, later => later = { line.note ⟨.post word, answer⟩ with word }
  | .await policy, verdict, later =>
    ∃ word, (verdict = .acknowledged → word = Channel.readyWord) ∧
      later = (line.waited word verdict).note ⟨.await policy, verdict⟩
  | effect, reply, later => later = line.note ⟨effect, reply⟩

/-- Any question may be asked. -/
def dialogue : Contract Line where
  asks _ _ := True
  answers := Answers

variable {line : Line} {event : Event}

@[simp] theorem note_word : (line.note event).word = line.word := rfl

@[simp] theorem note_handed : (line.note event).handed = line.handed := rfl

@[simp] theorem note_asked : (line.note event).asked = line.asked ++ [event] := rfl

/-- Every question is noted. -/
theorem asked_of_answers {later : Line} {effect : Effect} {reply : effect.Reply}
    (answered : line.Answers effect reply later) :
    later.asked = line.asked ++ [⟨effect, reply⟩] := by
  cases effect with
  | combine flag => rw [answered.2]; rfl
  | look => rw [answered.2]; rfl
  | await policy =>
    obtain ⟨word, -, rfl⟩ := answered
    rfl
  | _ => cases answered; rfl

theorem opened_of_asked {later : Line} {events : List Event}
    (asked : later.asked = line.asked ++ events) :
    later.opened = (events.filterMap Event.opened?).reverse ++ line.opened := by
  rw [opened, asked, List.filterMap_append, List.reverse_append]
  rfl

/-- From one line to a later one on which no image was opened. -/
structure Goes (line later : Line) : Prop where
  asked : line.asked <+: later.asked
  opened : later.opened = line.opened

namespace Goes

theorem refl (line : Line) : Goes line line := ⟨List.prefix_rfl, rfl⟩

theorem trans {between later : Line} (first : Goes line between) (second : Goes between later) :
    Goes line later :=
  ⟨first.asked.trans second.asked, second.opened.trans first.opened⟩

/-- One question that opens nothing. -/
theorem of_asked {later : Line} (asked : later.asked = line.asked ++ [event])
    (shut : event.opened? = none) : Goes line later := by
  refine ⟨asked ▸ List.prefix_append _ _, ?_⟩
  rw [opened_of_asked asked, List.filterMap_cons_none shut]
  rfl

end Goes

/-- From one line to a later one on which at most these images were opened, in this order. -/
def Opens (line : Line) (paths : List Path) (later : Line) : Prop :=
  ∃ fresh, later.openings = line.openings ++ fresh ∧ (fresh.map Prod.fst).Sublist paths

theorem Goes.opens {later : Line} (goes : line.Goes later) : line.Opens [] later := by
  obtain ⟨events, asked⟩ := goes.asked
  have images := (opened_of_asked asked.symm).symm.trans goes.opened
  have none : events.filterMap Event.opened? = [] :=
    List.reverse_eq_nil_iff.mp (List.append_left_eq_self.mp images)
  have shut : events.filterMap Event.opening? = [] := List.filterMap_eq_nil_iff.mpr fun event inside =>
    Event.opening?_eq_none (List.filterMap_eq_nil_iff.mp none event inside)
  refine ⟨[], ?_, List.nil_sublist _⟩
  rw [openings, ← asked, List.filterMap_append, shut]
  rfl

namespace Opens

variable {paths others : List Path} {between later : Line}

theorem trans (first : line.Opens paths between) (second : between.Opens others later) :
    line.Opens (paths ++ others) later := by
  obtain ⟨fresh, same, known⟩ := first
  obtain ⟨fresh', same', known'⟩ := second
  refine ⟨fresh ++ fresh', by rw [same', same, List.append_assoc], ?_⟩
  rw [List.map_append]
  exact known.append known'

theorem mono (opens : line.Opens paths later) (known : paths.Sublist others) :
    line.Opens others later :=
  opens.imp fun _ ⟨same, inside⟩ => ⟨same, inside.trans known⟩

/-- What was opened before stays. -/
theorem subset (opens : line.Opens paths later) : line.openings ⊆ later.openings := by
  obtain ⟨fresh, same, -⟩ := opens
  rw [same]
  exact List.subset_append_left _ _

/-- What opens nothing, before or after. -/
theorem go (opens : line.Opens paths between) (goes : between.Goes later) :
    line.Opens paths later := by
  have opens := opens.trans goes.opens
  rwa [List.append_nil] at opens

theorem behind (goes : line.Goes between) (opens : between.Opens paths later) :
    line.Opens paths later :=
  goes.opens.trans opens

/-- One opening. -/
theorem single (path : Path) (image : Image) :
    line.Opens [path] (line.note ⟨.openImage path, .ok image⟩) :=
  ⟨[(path, image)], List.filterMap_append, List.Sublist.refl _⟩

end Opens

end Line

namespace Session

variable {owner : Bool} {session : Session} {line : Line}

/-! ### Commands in order -/

/-- Every command was handed over and acknowledged. -/
def Completed (steps : List (Step × Bytes)) (part : List (Bytes × Verdict)) : Prop :=
  part = steps.map fun step => (step.2, Verdict.acknowledged)

/-- The commands were handed over up to the first that was not acknowledged. -/
def Interrupted (steps : List (Step × Bytes)) (part : List (Bytes × Verdict)) : Prop :=
  ∃ front step back verdict, steps = front ++ step :: back ∧ verdict ≠ .acknowledged ∧
    part = (front.map fun step => (step.2, Verdict.acknowledged)) ++ [(step.2, verdict)]

theorem Interrupted.cons {steps : List (Step × Bytes)} {part : List (Bytes × Verdict)}
    (interrupted : Interrupted steps part) (step : Step × Bytes) :
    Interrupted (step :: steps) ((step.2, .acknowledged) :: part) := by
  obtain ⟨front, stopped, back, verdict, rfl, bad, rfl⟩ := interrupted
  exact ⟨step :: front, stopped, back, verdict, rfl, bad, rfl⟩

/-- The session and its line fit together. -/
structure Poised (owner : Bool) (session : Session) (line : Line) : Prop where
  /-- A member has a coordinator or not for the whole of its run. -/
  owned : session.coordinator.isSome = owner
  /-- The coordinator counts the commands. -/
  counted : session.sent = line.handed.length
  /-- While the coordinator lives, the channel is ready and all has gone well. -/
  alive : ∀ coordinator, session.coordinator = some coordinator → coordinator.dead = false →
    line.word = Channel.readyWord ∧ ∀ entry ∈ line.handed, entry.2 = .acknowledged
  /-- It died of the last command. -/
  dead : ∀ coordinator, session.coordinator = some coordinator → coordinator.dead = true →
    ∃ front last, line.handed = front ++ [last] ∧
      (∀ entry ∈ front, entry.2 = .acknowledged) ∧ last.2 ≠ .acknowledged
  layout : session.cache.layout = session.config.layout
  /-- The session keeps the images that it opened. -/
  images : session.cache.images = line.opened

namespace Poised

/-- Nothing changes as long as no command is handed over. -/
theorem go {later : Line} (poised : Poised owner session line) (goes : line.Goes later)
    (handed : later.handed = line.handed) (word : later.word = line.word) :
    Poised owner session later where
  owned := poised.owned
  counted := handed ▸ poised.counted
  alive := by rw [handed, word]; exact poised.alive
  dead := by rw [handed]; exact poised.dead
  layout := poised.layout
  images := poised.images.trans goes.opened.symm

/-- An image is opened and kept. -/
theorem retain (poised : Poised owner session line) (path : Path) (image : Image) :
    Poised owner { session with cache := session.cache.retain image }
      (line.note ⟨.openImage path, .ok image⟩) where
  owned := poised.owned
  counted := poised.counted
  alive := poised.alive
  dead := poised.dead
  layout := poised.layout
  images := by
    rw [Line.opened_of_asked (line.note_asked), ← poised.images]
    rfl

/-- A change of what is remembered is none of the line's business. -/
theorem of_images {cache : Cache} (poised : Poised owner session line)
    (images : cache.images = session.cache.images) (layout : cache.layout = session.cache.layout) :
    Poised owner { session with cache } line where
  owned := poised.owned
  counted := poised.counted
  alive := poised.alive
  dead := poised.dead
  layout := layout.trans poised.layout
  images := images.trans poised.images

/-- After a call that a living coordinator made. -/
theorem called {coordinator : Coordinator} {later : Line} {command : Bytes} {verdict : Verdict}
    (poised : Poised owner session line) (owns : session.coordinator = some coordinator)
    (living : coordinator.dead = false) (handed : later.handed = line.handed ++ [(command, verdict)])
    (acknowledged : verdict = .acknowledged → later.word = Channel.readyWord)
    (goes : line.Goes later) :
    Poised owner { session with coordinator := some (coordinator.afterSend.afterWait verdict) }
      later where
  owned := by rw [← poised.owned, owns]; rfl
  counted := by
    have counted := poised.counted
    rw [sent, owns] at counted
    rw [handed, List.length_append, ← counted]
    rfl
  alive := by
    rintro _ ⟨⟩ stays
    have good : verdict = .acknowledged := by
      simpa [Coordinator.afterWait, Coordinator.afterSend, living] using stays
    refine ⟨acknowledged good, ?_⟩
    rw [handed]
    intro entry inside
    rcases List.mem_append.mp inside with earlier | last
    · exact (poised.alive coordinator owns living).2 entry earlier
    · rw [List.mem_singleton.mp last]
      exact good
  dead := by
    rintro _ ⟨⟩ dies
    refine ⟨line.handed, (command, verdict), handed, (poised.alive coordinator owns living).2, ?_⟩
    simpa [Coordinator.afterWait, Coordinator.afterSend, living] using dies
  layout := poised.layout
  images := poised.images.trans goes.opened.symm

end Poised

end Session

namespace Line

open Session

variable {owner : Bool} {session : Session} {line : Line}

/-- A call by a living coordinator on a ready line hands the command over. -/
theorem secures_call {coordinator : Coordinator} (step : Step) {command : Bytes}
    (living : coordinator.dead = false) (fits : coordinator.unfit? command = none)
    (ready : line.word = Channel.readyWord) :
    Secures dialogue (Coordinator.call step command) (fun outcome after later =>
      ∃ verdict, outcome = Coordinator.outcomeOf (.build step command) verdict ∧
        after = coordinator.afterSend.afterWait verdict ∧
        later.handed = line.handed ++ [(command, verdict)] ∧
        (verdict = .acknowledged → later.word = Channel.readyWord) ∧ line.Goes later)
      coordinator line := by
  have taken : coordinator.refusal? command = none := by
    rw [Coordinator.refusal?, living]
    exact fits
  unfold Secures
  rw [Coordinator.run_call, taken]
  refine ⟨trivial, ?_⟩
  rintro _ _ ⟨rfl, rfl⟩
  beta_reduce
  rw [if_pos ready]
  refine ⟨trivial, ?_⟩
  rintro answer _ rfl
  refine ⟨trivial, ?_⟩
  rintro answer' _ rfl
  refine ⟨trivial, ?_⟩
  rintro verdict _ ⟨word, acknowledged, rfl⟩
  have handed : ∀ entry : Bytes × Verdict, (if Channel.callWord = Channel.callWord then
      line.handed ++ [entry] else line.handed) = line.handed ++ [entry] := fun _ => if_pos rfl
  refine ⟨verdict, rfl, rfl, handed _, acknowledged, ?_⟩
  refine Goes.trans (Goes.of_asked rfl rfl) (Goes.trans (Goes.of_asked rfl rfl)
    (Goes.trans (Goes.of_asked rfl rfl) (Goes.of_asked rfl rfl)))

/-- The same for a session that owns the coordinator. -/
theorem secures_step {step : Step × Bytes} {coordinator : Coordinator}
    (poised : Poised owner session line) (owns : session.coordinator = some coordinator)
    (living : coordinator.dead = false) (fits : coordinator.unfit? step.2 = none) :
    Secures dialogue (onCoordinator (Coordinator.call step.1 step.2)) (fun outcome later last =>
      ∃ verdict, outcome = Coordinator.outcomeOf (.build step.1 step.2) verdict ∧
        later.coordinator = some (coordinator.afterSend.afterWait verdict) ∧
        Poised owner later last ∧ later.besides = session.besides ∧ line.Goes last ∧
        last.handed = line.handed ++ [(step.2, verdict)])
      session line := by
  have calls := secures_call step.1 living fits (poised.alive coordinator owns living).1
  refine secures_onCoordinator owns calls ?_
  rintro _ _ last ⟨verdict, rfl, rfl, handed, acknowledged, goes⟩
  exact ⟨verdict, rfl, rfl, poised.called owns living handed acknowledged goes, rfl, goes, handed⟩

/-- A living coordinator hands the commands over in order, up to the first that fails. -/
theorem secures_callAll_living {steps : List (Step × Bytes)} {coordinator : Coordinator}
    (poised : Poised owner session line) (owns : session.coordinator = some coordinator)
    (living : coordinator.dead = false)
    (fits : ∀ step ∈ steps, coordinator.unfit? step.2 = none) :
    Secures dialogue (callAll steps) (fun outcome later last => Poised owner later last ∧
        later.besides = session.besides ∧ line.Goes last ∧
        ∃ part, last.handed = line.handed ++ part ∧
          match outcome with
          | .ok _ => Completed steps part
          | .error _ => Interrupted steps part)
      session line := by
  induction steps generalizing session line coordinator with
  | nil => exact Secures.pure ⟨poised, rfl, .refl line, [], (List.append_nil _).symm, rfl⟩
  | cons step rest ih =>
    obtain ⟨here, behind⟩ := List.forall_mem_cons.mp fits
    refine Secures.bind _ (secures_step poised owns living here) ?_ ?_
    · rintro value later last ⟨verdict, ended, owns', poised', besides, goes, handed⟩
      obtain rfl : verdict = .acknowledged := by
        cases verdict with
        | acknowledged => rfl
        | left code => exact (nomatch ended)
        | exhausted exhausted => exact (nomatch ended)
      have living' : (coordinator.afterSend.afterWait .acknowledged).dead = false := by
        simpa [Coordinator.afterWait, Coordinator.afterSend] using living
      refine (ih poised' owns' living' behind).mono ?_
      rintro outcome final past ⟨poised'', besides', goes', part, handed', pursued⟩
      refine ⟨poised'', besides'.trans besides, goes.trans goes', (step.2, .acknowledged) :: part,
        by rw [handed', handed, List.append_assoc, List.singleton_append], ?_⟩
      cases outcome with
      | ok value => exact congrArg _ pursued
      | error failure => exact pursued.cons step
    · rintro failure later last ⟨verdict, ended, -, poised', besides, goes, handed⟩
      refine ⟨poised', besides, goes, [(step.2, verdict)], handed, [], step, rest, verdict, rfl, ?_,
        rfl⟩
      rintro rfl
      exact (nomatch ended)

/-- Commands that fit are handed over in order, or, when the coordinator is dead, none of them. -/
theorem secures_callAll {steps : List (Step × Bytes)} (poised : Poised owner session line)
    (takes : session.Takes steps) :
    Secures dialogue (callAll steps) (fun outcome later last => Poised owner later last ∧
        later.besides = session.besides ∧ line.Goes last ∧
        ∃ part, last.handed = line.handed ++ part ∧
          match outcome with
          | .ok _ => Completed steps part
          | .error _ => part = [] ∨ Interrupted steps part)
      session line := by
  cases steps with
  | nil => exact Secures.pure ⟨poised, rfl, .refl line, [], (List.append_nil _).symm, rfl⟩
  | cons step rest =>
    obtain ⟨coordinator, owns, -⟩ := takes step List.mem_cons_self
    have fits : ∀ other ∈ step :: rest, coordinator.unfit? other.2 = none := by
      intro other inside
      obtain ⟨same, owns', fit⟩ := takes other inside
      obtain rfl := Option.some.inj (owns.symm.trans owns')
      exact fit
    cases dead : coordinator.dead with
    | false =>
      refine (secures_callAll_living poised owns dead fits).mono ?_
      rintro (_ | _) later last ⟨poised, besides, goes, part, handed, pursued⟩
      · exact ⟨poised, besides, goes, part, handed, .inr pursued⟩
      · exact ⟨poised, besides, goes, part, handed, pursued⟩
    | true =>
      have refused : Secures dialogue (Coordinator.call step.1 step.2) (fun outcome after last =>
          failed outcome = true ∧ after = coordinator ∧ last = line) coordinator line := by
        have gone : coordinator.refusal? step.2 = some .workerGone := if_pos dead
        unfold Secures
        rw [Coordinator.run_call, gone]
        exact ⟨rfl, rfl, rfl⟩
      refine Secures.bind (fun outcome later last =>
        failed outcome = true ∧ later = session ∧ last = line)
        (secures_onCoordinator owns refused ?_) (fun _ _ _ ⟨ok, _⟩ => nomatch ok) ?_
      · rintro outcome _ _ ⟨fails, rfl, rfl⟩
        exact ⟨fails, by rw [← owns], rfl⟩
      · rintro failure _ _ ⟨-, rfl, rfl⟩
        exact ⟨poised, rfl, .refl _, [], (List.append_nil _).symm, .inl rfl⟩

end Line

end KernelCache
