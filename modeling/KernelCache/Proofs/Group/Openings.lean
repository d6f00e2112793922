import KernelCache.Proofs.Group.Convoy
import KernelCache.Proofs.Layout.Isolation
import KernelCache.Proofs.Session.Run

/-
**Readers and the writer of a cache.**

What has happened in a group when one of its members is about to open an image.

* `Convoy.Sound`: the library is opened before the first command of the run, and an image that was
  linked in this lookup between the end of the commands that make it and its removal.
* **`Convoy.openings_apart`**: in every state that a group reaches, an image is opened only when no
  command is in flight, and the opening is sound.
* `Convoy.source_removed_before_opening`: accepted settings that give source and image one name have
  the image removed before anybody opens it.
-/

namespace KernelCache

open KernelCache.Action Session

namespace Action

variable {σ α : Type}

/-- What is left of an action when some of its questions are answered. -/
def pursue (handle : (effect : Effect) → StateM σ effect.Reply) : Nat → Action α → StateM σ (Action α)
  | 0, action => pure action
  | _ + 1, .done value => pure (.done value)
  | count + 1, .ask effect next => do (next (← handle effect)).pursue handle count

/-- The question at hand. -/
def question? : Action α → Option Effect
  | .done _ => none
  | .ask effect _ => some effect

theorem exists_of_question? {action : Action α} {effect : Effect}
    (asks : action.question? = some effect) : ∃ next, action = .ask effect next := by
  cases action with
  | done value => cases asks
  | ask other next =>
    obtain rfl := Option.some.inj asks
    exact ⟨next, rfl⟩

end Action

namespace Traveller

/-- In its last lookup the member has handed over all commands of the steps, and nothing behind them;
each of them succeeded. -/
def Completed (traveller : Traveller) (steps : Except Failure (List (KernelCache.Step × Bytes))) :
    Prop :=
  ∃ listed earlier, steps = .ok listed ∧ traveller.line.handed =
    traveller.before.handed ++ earlier ++ listed.map fun step => (step.2, .acknowledged)

/-- In its last lookup the member has not removed a file. -/
def Spares (traveller : Traveller) (path : Path) : Prop :=
  ∃ events, traveller.line.asked = traveller.before.asked ++ events ∧
    ∀ event ∈ events, ∀ removed, event.effect = .remove removed → removed.same path = false

/-- A file that was removed since the last lookup began was not spared. -/
theorem not_spares {traveller : Traveller} {path : Path}
    (removed : ∃ event ∈ traveller.line.asked.drop traveller.before.asked.length,
      event.effect = .remove path) : ¬ traveller.Spares path := by
  rintro ⟨events, asked, spares⟩
  obtain ⟨event, inside, removes⟩ := removed
  rw [asked, List.drop_left] at inside
  have other := spares event inside path removes
  rw [Path.same, beq_self_eq_true] at other
  cases other

end Traveller

namespace Convoy

variable {size : UInt32} {config : Config} {kernels : List Kernel} {completed : Nat}
  {present : Finset (Fin (Round.count size))} {course : Course} {convoy : Convoy size}
  {member : Fin (Round.count size)} {ahead : List Kernel} {former line : Line}

/-- The member of rank zero. -/
def leader (size : UInt32) : Fin (Round.count size) := ⟨0, Round.count_pos size⟩

theorem isRoot_leader : isRoot (leader size) = true := (isRoot_iff _).mpr rfl

/-! ### A member by itself -/

/-- A member creates its session. -/
theorem exists_run_create {creation : Action (Except Failure Session)} {session : Session}
    {last : Line} (here : convoy.members member = ⟨ahead, former, line, .creating creation⟩)
    (created : creation.Yields Line.dialogue line (.ok session) last) :
    ∃ later, Run convoy later ∧ later.round = convoy.round ∧
      later.members member = ⟨ahead, former, last, .resting session⟩ := by
  generalize outcome : (Except.ok session : Except Failure Session) = result at created
  induction created generalizing convoy with
  | done value line =>
    subst outcome
    exact ⟨_, .single (.enter convoy member ahead former line session here), rfl, move_self ..⟩
  | @ask effect next reply line between last value answered rest ih =>
    have first := Step.prepare convoy member ahead former line between effect next reply here answered
    obtain ⟨later, run, same, there⟩ := ih (move_self ..) outcome
    exact ⟨later, .head first run, same, there⟩

/-- The surroundings of the only member of a group: the combined flag is its own. -/
def alone (image : Image) : (effect : Effect) → StateM Line effect.Reply
  | .combine flag => fun line => (flag, line)
  | effect => Line.oblige image effect

/-- The only member of a group answers a question, and no round is open afterwards. -/
theorem exists_step_alone (image : Image) {convoy : Convoy 1} {member : Fin (Round.count 1)}
    {effect : Effect} {next : effect.Reply → Search}
    (here : convoy.members member = ⟨ahead, former, line, .acting (.ask effect next)⟩)
    (closed : convoy.round.arrived = 0) (calm : convoy.round.failed = false) :
    ∃ later, Step convoy later ∧ later.round.arrived = 0 ∧ later.round.failed = false ∧
      later.members member = ⟨ahead, former, ((alone image effect).run line).2,
        .acting (next ((alone image effect).run line).1)⟩ := by
  cases own : effect.isExchange with
  | false =>
    have alike : alone image effect = Line.oblige image effect := by
      cases effect <;> first | rfl | cases own
    rw [alike]
    have answered := Line.answers_oblige image line effect
    exact ⟨_, .answer convoy member ahead former line _ effect next _ own here answered, closed, calm,
      move_self ..⟩
  | true =>
    cases effect with
    | combine flag =>
      have last : convoy.round.arrive (Round.groupSize 1) flag =
          (some flag, { generation := convoy.round.generation + 1, outcome := flag }) := by
        rw [Round.arrive, closed, calm, Bool.false_or]
        rfl
      refine ⟨_, .complete convoy member ahead former line flag flag next _ here last, rfl, rfl, ?_⟩
      dsimp only
      rw [Function.update_self]
      rfl
    | _ => cases own

/-- The only member of a group goes on by itself. -/
theorem exists_run_alone (image : Image) (count : Nat) {convoy : Convoy 1}
    {member : Fin (Round.count 1)} {action : Search}
    (here : convoy.members member = ⟨ahead, former, line, .acting action⟩)
    (closed : convoy.round.arrived = 0) (calm : convoy.round.failed = false) :
    ∃ later, Run convoy later ∧ later.members member = ⟨ahead, former,
      ((action.pursue (alone image) count).run line).2,
      .acting ((action.pursue (alone image) count).run line).1⟩ := by
  induction count generalizing convoy line action with
  | zero => exact ⟨convoy, .refl, here⟩
  | succ count ih =>
    cases action with
    | done result => exact ⟨convoy, .refl, here⟩
    | ask effect next =>
      obtain ⟨between, first, closed, calm, there⟩ := exists_step_alone image here closed calm
      obtain ⟨later, run, there⟩ := ih there closed calm
      exact ⟨later, .head first run, there⟩

/-- The session of the only member of a group. -/
def soleSession (config : Config) : Session :=
  assemble config (.ofRank 0 1) (some { policy := config.poll.policy })

/-- The creation of that session, in obliging surroundings. -/
def soleCreation (config : Config) (image : Image) : Except Failure Session × Line :=
  ((create false config (.ofRank 0 1)).run.run (Line.oblige image)).run {}

/-- What is left of its first lookup after some questions. -/
def soleSearch (config : Config) (kernel : Kernel) (image : Image) (count : Nat) : Search × Line :=
  (((lookup kernel).run.run (soleSession config)).pursue (alone image) count).run
    (soleCreation config image).2

/-- The only member of a group creates its session, and comes to the opening of an image. -/
theorem exists_run_opening {config : Config} {kernel : Kernel} {image : Image} {path : Path}
    (created : (soleCreation config image).1 = .ok (soleSession config)) {count : Nat}
    (opens : (soleSearch config kernel image count).1.question? = some (.openImage path)) :
    ∃ reached next, Run (start [kernel] config fun _ => false) reached ∧
      reached.members (leader 1) = ⟨[], (soleCreation config image).2,
        (soleSearch config kernel image count).2, .acting (.ask (.openImage path) next)⟩ := by
  obtain ⟨next, opens⟩ := exists_of_question? opens
  have yields := yields_run (Line.answers_oblige image) (create false config (.ofRank 0 1)).run {}
  change Yields _ _ _ (soleCreation config image).1 (soleCreation config image).2 at yields
  rw [created] at yields
  obtain ⟨founded, founds, same, rests⟩ := exists_run_create
    (rfl : (start [kernel] config fun _ => false).members (leader 1) = _) yields
  have looks := Step.look founded (leader 1) kernel [] {} _ _ rests
  obtain ⟨reached, run, there⟩ := exists_run_alone image count (move_self founded (leader 1) _)
    (congrArg Round.arrived same) (congrArg Round.failed same)
  refine ⟨reached, next, (founds.tail looks).trans run, ?_⟩
  rw [there, ← opens, soleSearch]

/-! ### Openings -/

/-- Wherever the root stands when an image is opened, it has kept to its part. -/
theorem Stands.kept {outcome : Bool} {traveller : Traveller} {kernel : Kernel} {rest : List Kernel}
    {path : Path} (stands : Stands config course completed outcome present member traveller)
    (root : isRoot member = true) (here : course.ahead = kernel :: rest)
    (opens : course.leg.opens? config kernel = some path) :
    (course.leg = .looking ∧ traveller.line.Silent) ∨
      (traveller.ahead = rest ∧
        (Errand.mk config kernel true traveller.before).Kept ⟨course.leg, traveller.line⟩) := by
  cases stands with
  | creating absent untouched founds => exact .inl ⟨by rw [untouched]; rfl, founds.silent⟩
  | resting absent rests => exact .inl ((root ▸ rests).kept opens)
  | acting absent rides => exact .inr ((root ▸ rides).kept here opens)
  | arrived inside place within rides => exact .inr ((root ▸ rides).kept here opens)
  | late absent previous last rides => exact .inr ((root ▸ rides).kept here opens)

/-- What has happened when a member opens an image. -/
inductive Sound (config : Config) (kernels : List Kernel) (root reader : Traveller) (path : Path) :
    Prop
  /-- No command of the run was sent before the library is opened. -/
  | library (same : path = config.layout.library) (first : root.line.Silent)
  /-- The root is in the same lookup, and has restored the library; it has not removed the image. -/
  | relinked (same : path = config.layout.relinked) (abreast : root.ahead = reader.ahead)
      (completed : root.Completed config.relinkSteps) (spares : root.Spares path)
  /-- The root is in the same lookup, and has built its kernel; it has not removed the image, if the
  places of the build keep apart. -/
  | image (kernel : Kernel) (same : path = config.layout.image kernel)
      (listed : kernel :: reader.ahead <:+ kernels) (abreast : root.ahead = reader.ahead)
      (completed : root.Completed (config.buildSteps kernel))
      (spares : config.Apart kernel → root.Spares path)

theorem completed_of_made {traveller : Traveller}
    {steps : Except Failure (List (KernelCache.Step × Bytes))} {tidied : List Path}
    (made : Line.Made traveller.before steps tidied traveller.line) : traveller.Completed steps :=
  made.handed

theorem spares_of_made {traveller : Traveller}
    {steps : Except Failure (List (KernelCache.Step × Bytes))} {tidied : List Path} {path : Path}
    (made : Line.Made traveller.before steps tidied traveller.line)
    (others : ∀ removed ∈ tidied, removed.same path = false) : traveller.Spares path := by
  obtain ⟨events, asked, removes⟩ := made.since.asked
  exact ⟨events, asked, fun event inside removed same => others _ (removes event inside _ same)⟩

/-- What is removed before the image of a kernel is opened is not the image. -/
theorem tidied_apart {errand : Errand} (apart : errand.config.Apart errand.kernel) :
    ∀ removed ∈ errand.tidied, removed.same (errand.config.layout.image errand.kernel) = false := by
  have image (path : Path) : path ∈ [path] := List.mem_cons_self
  obtain ⟨-, behindArchive⟩ := List.pairwise_cons.mp apart
  obtain ⟨-, behindLibrary⟩ := List.pairwise_cons.mp behindArchive
  obtain ⟨relinked, behindRelinked⟩ := List.pairwise_cons.mp behindLibrary
  obtain ⟨source, behindSource⟩ := List.pairwise_cons.mp behindRelinked
  obtain ⟨object, -⟩ := List.pairwise_cons.mp behindSource
  refine List.forall_mem_cons.mpr ⟨?_, List.forall_mem_cons.mpr ⟨?_, ?_⟩⟩
  · exact relinked _ (List.mem_cons_of_mem _ (List.mem_cons_of_mem _ (image _)))
  · exact source _ (List.mem_cons_of_mem _ (image _))
  · exact List.forall_mem_singleton.mpr (object _ (image _))

/-- In a state that keeps the invariant, an image is opened on the leg of its lookup, and the root has
kept to its part. -/
theorem Inv.sound (inv : Inv config kernels completed present course convoy)
    {reader : Fin (Round.count size)} {path : Path}
    {next : Except (Path × LoadFault) Image → Search}
    (opens : (convoy.members reader).place = .acting (.ask (.openImage path) next)) :
    ((convoy.members (leader size)).line.Silent ∨ (convoy.members (leader size)).line.Calm) ∧
      Sound config kernels (convoy.members (leader size)) (convoy.members reader) path := by
  obtain ⟨kernel, here, leg⟩ : ∃ kernel, course.ahead = kernel :: (convoy.members reader).ahead ∧
      course.leg.opens? config kernel = some path :=
    (inv.acting (congrArg (Traveller.mk _ _ _) opens)).2.opens
  have listed : kernel :: (convoy.members reader).ahead <:+ kernels := here ▸ inv.ahead
  rcases (inv.stands (leader size)).kept isRoot_leader here leg with ⟨looking, silent⟩ |
    ⟨abreast, kept⟩
  · rw [looking] at leg
    exact ⟨.inl silent, .library (Option.some.inj leg).symm silent⟩
  · unfold Errand.Kept at kept
    cases same : course.leg with
    | looking =>
      rw [same] at leg kept
      exact ⟨.inl kept, .library (Option.some.inj leg).symm kept⟩
    | reloading =>
      rw [same] at leg kept
      exact ⟨.inr kept.calm, .relinked (Option.some.inj leg).symm abreast (completed_of_made kept)
        (spares_of_made kept nofun)⟩
    | loading =>
      rw [same] at leg kept
      obtain rfl := Option.some.inj leg
      exact ⟨.inr kept.calm, .image kernel rfl listed abreast (completed_of_made kept) fun apart =>
        spares_of_made kept (tidied_apart apart)⟩
    | _ => rw [same] at leg; cases leg

/-- **Readers and the writer keep apart.** In every state that a group reaches, under every
interleaving of its members: while a member opens an image, nobody has sent a command but the root,
and every command that it sent has been acknowledged. If the library is opened, no command of the run
was sent yet; if an image is opened that was linked in this lookup, all commands that make it have
succeeded in this lookup, and the root has not removed it. -/
theorem openings_apart {ahead : Fin (Round.count size) → Bool} {reached : Convoy size}
    (run : Run (start kernels config ahead) reached) {reader : Fin (Round.count size)} {path : Path}
    {next : Except (Path × LoadFault) Image → Search}
    (opens : (reached.members reader).place = .acting (.ask (.openImage path) next)) :
    (∀ member, (reached.members member).line.Silent ∨
        member = leader size ∧ (reached.members member).line.Calm) ∧
      Sound config kernels (reached.members (leader size)) (reached.members reader) path := by
  obtain ⟨completed, present, course, inv⟩ := inv_run (inv_start kernels config ahead) run
  obtain ⟨calm, sound⟩ := inv.sound opens
  refine ⟨fun member => ?_, sound⟩
  cases root : isRoot member with
  | false => exact .inl (inv.silent member root)
  | true =>
    obtain rfl := eq_of_isRoot root isRoot_leader
    exact calm.imp_right fun calm => ⟨rfl, calm⟩

/-- The only member of a group finds neither library nor archive, and builds its kernel. -/
theorem openings_apart_alone :
    let config : Config := {}
    let kernel : Kernel := ⟨1, "f", "int f(void){return 1;}"⟩
    ∃ reached : Convoy 1, ∃ next, Run (start [kernel] config fun _ => false) reached ∧
      (reached.members (leader 1)).place =
        .acting (.ask (.openImage (config.layout.image kernel)) next) ∧
      (∀ member, (reached.members member).line.Silent ∨
        member = leader 1 ∧ (reached.members member).line.Calm) ∧
      Sound config [kernel] (reached.members (leader 1)) (reached.members (leader 1))
        (config.layout.image kernel) := by
  intro config kernel
  let image : Image := ⟨7, [("f", ⟨3, "f"⟩)]⟩
  have created : (soleCreation config image).1 = .ok (soleSession config) := by decide +kernel
  have opens : (soleSearch config kernel image 26).1.question? =
      some (.openImage (config.layout.image kernel)) := by decide +kernel
  obtain ⟨reached, next, run, there⟩ := exists_run_opening created opens
  have opens := congrArg Traveller.place there
  exact ⟨reached, next, run, opens, openings_apart run opens⟩

/-- Accepted settings under which the only member of a group removes the source of its kernel, and with
it the image that it is about to open. -/
theorem source_removed_before_opening :
    let config : Config := { toolchain := { sourceExtension := "so" } }
    let kernel : Kernel := ⟨1, "f", "int f(void){return 1;}"⟩
    config.validate = .ok () ∧
      ∃ reached : Convoy 1, ∃ next, Run (start [kernel] config fun _ => false) reached ∧
        (reached.members (leader 1)).place =
          .acting (.ask (.openImage (config.layout.image kernel)) next) ∧
        ¬ (reached.members (leader 1)).Spares (config.layout.image kernel) := by
  intro config kernel
  let image : Image := ⟨7, [("f", ⟨3, "f"⟩)]⟩
  have created : (soleCreation config image).1 = .ok (soleSession config) := by decide +kernel
  have opens : (soleSearch config kernel image 26).1.question? =
      some (.openImage (config.layout.image kernel)) := by decide +kernel
  have removed : ∃ event ∈ (soleSearch config kernel image 26).2.asked.drop
      (soleCreation config image).2.asked.length,
      event.effect = .remove (config.layout.image kernel) := by decide +kernel
  obtain ⟨reached, next, run, there⟩ := exists_run_opening created opens
  refine ⟨by decide, reached, next, run, congrArg Traveller.place there, ?_⟩
  rw [there]
  exact Traveller.not_spares removed

end Convoy

end KernelCache
