import KernelCache.Proofs.Session.Questions
import KernelCache.Proofs.Workshop.Bench
import Mathlib.Logic.Relation

/-
**Many members over the same files.**

Any number of members, in groups or alone, look kernels up over the same files, one run after the
other. Their questions come in any order, an exchange may end in any way, a command that fails may
leave a part of what it was to make, and a member may be gone in the midst of a lookup.

* `Tools.Known tools kernels definition`: one of the sources that are looked up has the definition.
* `Bench.Pure.answers`: where the files hold nothing else, no answer brings anything else.
* `Hall.Step` is one step of one member, and `Hall.Reached` is what such steps lead to.
* **`Hall.own_definition`**: the function that is returned for a kernel is the one that its source
  defines, if no source of another hash defines one of that name.
* `Hall.Sample.namesake_returned`: else it may be that of another kernel.
-/

namespace KernelCache

open KernelCache.Action

variable {tools : Tools} {kernels : Kernel → Prop}

/-! ### What comes from the sources -/

/-- One of the sources that are looked up has the definition. -/
def Tools.Known (tools : Tools) (kernels : Kernel → Prop) (definition : Definition) : Prop :=
  ∃ kernel definitions, kernels kernel ∧
    tools.compile? (Bytes.ofString kernel.source) = some definitions ∧ definition ∈ definitions

/-- A file holds a source that is looked up, or what comes from such sources. -/
structure Artifact.Known (tools : Tools) (kernels : Kernel → Prop) (content : Artifact) : Prop where
  text : ∀ bytes, content = .text bytes → ∃ kernel, kernels kernel ∧
    bytes = Bytes.ofString kernel.source
  definitions : ∀ definition ∈ content.definitions, tools.Known kernels definition

/-- All files are known. -/
def Shelf.Known (tools : Tools) (kernels : Kernel → Prop) (shelf : Shelf) : Prop :=
  ∀ path content, shelf.find? path = some content → content.Known tools kernels

theorem Shelf.Known.put {shelf : Shelf} (known : shelf.Known tools kernels) {path : Path}
    {content : Option Artifact} (fresh : ∀ rest, content = some rest → rest.Known tools kernels) :
    (shelf.put path content).Known tools kernels := by
  intro other rest found
  by_cases here : other.components = path.components
  · exact fresh rest ((Shelf.find?_put_same here).symm.trans found)
  · exact known other rest ((Shelf.find?_put_of_ne here).symm.trans found)

/-- What a compiler makes of a known source is known. -/
theorem Artifact.Known.compile {bytes : Bytes} {definitions : List Definition}
    (known : (Artifact.text bytes).Known tools kernels)
    (compiled : tools.compile? bytes = some definitions) :
    ∀ definition ∈ definitions, tools.Known kernels definition := by
  obtain ⟨kernel, listed, rfl⟩ := known.text bytes rfl
  exact fun definition inside => ⟨kernel, definitions, listed, compiled, inside⟩

/-- **Tasks make nothing else.** -/
theorem Task.known_of_made? {shelf : Shelf} (known : shelf.Known tools kernels) {task : Task}
    {content : Artifact} (made : task.made? tools shelf = some content) :
    content.Known tools kernels := by
  cases task with
  | compile source object =>
    obtain ⟨bytes, definitions, found, compiled, rfl⟩ := Artifact.compiled?_eq_some made
    exact ⟨fun _ same => (nomatch same), (known source _ found).compile compiled⟩
  | archive whole object =>
    obtain ⟨definitions, members, found, before, rfl⟩ := Artifact.archived?_eq_some made
    refine ⟨fun _ same => (nomatch same), fun definition inside => ?_⟩
    rcases Artifact.definitions_enter inside with old | new
    · rcases before with ⟨-, rfl⟩ | there
      · exact (List.not_mem_nil old).elim
      · exact (known whole _ there).definitions definition old
    · exact (known object _ found).definitions definition new
  | linkArchive whole image =>
    obtain ⟨members, found, rfl⟩ := Artifact.linked?_eq_some made
    exact ⟨fun _ same => (nomatch same), (known whole _ found).definitions⟩
  | linkImage whole image =>
    obtain ⟨members, found, rfl⟩ := Artifact.linked?_eq_some made
    exact ⟨fun _ same => (nomatch same), (known whole _ found).definitions⟩
  | install image library =>
    obtain ⟨definitions, found, rfl⟩ := Artifact.installed?_eq_some made
    exact ⟨fun _ same => (nomatch same), (known image _ found).definitions⟩

/-- What a task reads is known. -/
theorem Task.known_of_material {shelf : Shelf} (known : shelf.Known tools kernels) {task : Task} :
    ∀ definition ∈ task.material tools shelf, tools.Known kernels definition := by
  have whole : ∀ path, ∀ definition ∈ ((shelf.find? path).map Artifact.definitions).getD [],
      tools.Known kernels definition := by
    intro path definition inside
    cases found : shelf.find? path with
    | none =>
      rw [found] at inside
      exact (List.not_mem_nil inside).elim
    | some content =>
      rw [found] at inside
      exact (known path content found).definitions definition inside
  cases task with
  | compile source object =>
    intro definition inside
    rw [material] at inside
    split at inside
    · rename_i bytes found
      cases compiled : tools.compile? bytes with
      | none =>
        rw [compiled] at inside
        exact (List.not_mem_nil inside).elim
      | some definitions =>
        rw [compiled] at inside
        exact (known source _ found).compile compiled definition inside
    · exact (List.not_mem_nil inside).elim
  | archive _ object => exact whole object
  | linkArchive archive _ => exact whole archive
  | linkImage archive _ => exact whole archive
  | install image _ => exact whole image

/-! ### One member at its bench -/

namespace Bench

/-- The files and the opened images hold nothing else. -/
structure Pure (tools : Tools) (kernels : Kernel → Prop) (bench : Bench) : Prop where
  files : bench.shelf.Known tools kernels
  opened : ∀ place definitions, (place, definitions) ∈ bench.opened →
    ∀ definition ∈ definitions, tools.Known kernels definition

/-- An image of known definitions. -/
def Trusted (tools : Tools) (kernels : Kernel → Prop) (image : Image) : Prop :=
  ∃ definitions, tools.shows definitions image ∧
    ∀ definition ∈ definitions, tools.Known kernels definition

namespace Pure

variable {bench later : Bench} {strict : Bool} (pure : Pure tools kernels bench)
include pure

theorem lay {path : Path} {content : Option Artifact}
    (fresh : ∀ rest, content = some rest → rest.Known tools kernels) :
    Pure tools kernels (bench.lay path content) :=
  ⟨pure.files.put fresh, pure.opened⟩

theorem late (late : Late tools bench later) : Pure tools kernels later := by
  cases late with
  | still => exact pure
  | ends working reads made =>
    refine ⟨pure.files.put ?_, pure.opened⟩
    rintro _ ⟨⟩
    exact Task.known_of_made? pure.files made

theorem serves {verdict : Verdict} (serves : Serves tools strict bench verdict later) :
    Pure tools kernels later := by
  cases verdict with
  | acknowledged =>
    obtain ⟨task, content, -, made, rfl⟩ := serves
    refine ⟨pure.files.put ?_, pure.opened⟩
    rintro _ ⟨⟩
    exact Task.known_of_made? pure.files made
  | left code =>
    rcases serves with rfl | ⟨-, task, content, -, spoilt, rfl⟩
    · exact ⟨pure.files, pure.opened⟩
    · refine ⟨pure.files.put fun rest same => ?_, pure.opened⟩
      rcases spoilt with before | none | ⟨rest', here, unwritten, part⟩
      · exact pure.files _ rest (before.symm.trans same)
      · exact (nomatch none.symm.trans same)
      · obtain rfl := Option.some.inj (here.symm.trans same)
        exact ⟨fun bytes text => (unwritten bytes text).elim, fun definition inside =>
          Task.known_of_material pure.files definition (part definition inside)⟩
  | exhausted exhausted =>
    obtain rfl := serves
    exact ⟨pure.files, pure.opened⟩

theorem opens {path : Path} {opened : Except (Path × LoadFault) Image}
    (opens : Opens tools strict bench path opened later) :
    Pure tools kernels later ∧ ∀ image, opened = .ok image → Trusted tools kernels image := by
  cases opened with
  | error fault =>
    obtain ⟨rfl, -⟩ := opens
    exact ⟨pure, fun _ same => nomatch same⟩
  | ok image =>
    obtain ⟨definitions, shows, -, ⟨held, rfl⟩ | ⟨-, found, rfl⟩⟩ := opens
    · obtain ⟨newer, older, listed, -⟩ := List.lookup_eq_some_iff.mp held
      have inside : (path.components, definitions) ∈
          newer ++ (path.components, definitions) :: older :=
        List.mem_append_right _ List.mem_cons_self
      rw [← listed] at inside
      refine ⟨pure, fun _ same => ?_⟩
      obtain rfl := Except.ok.inj same
      exact ⟨definitions, shows, pure.opened _ _ inside⟩
    · have known := (pure.files path _ found).definitions
      refine ⟨⟨pure.files, fun place others inside => ?_⟩, fun _ same => ?_⟩
      · rcases List.mem_cons.mp inside with same | inside
        · obtain ⟨rfl, rfl⟩ := Prod.mk.inj same
          exact known
        · exact pure.opened place others inside
      · obtain rfl := Except.ok.inj same
        exact ⟨definitions, shows, known⟩

/-- **No answer brings anything else**, if the texts that are written are known sources. -/
theorem answers {effect : Effect} {reply : effect.Reply}
    (written : ∀ path text, effect = .writeSource path text → ∃ kernel, kernels kernel ∧
      text = Bytes.ofString kernel.source)
    (answered : Answers tools strict bench effect reply later) :
    Pure tools kernels later ∧
      ∀ image, effect.opened? reply = some image → Trusted tools kernels image := by
  obtain ⟨between, late, replies⟩ := answered
  have pure := pure.late late
  cases effect with
  | openImage path =>
    obtain ⟨pure', trusted⟩ := pure.opens replies
    refine ⟨pure', fun image same => trusted image ?_⟩
    cases reply with
    | ok opened => exact congrArg Except.ok (Option.some.inj same)
    | error fault => exact (nomatch same)
  | await policy =>
    refine ⟨?_, fun _ same => nomatch same⟩
    by_cases called : between.word = Channel.callWord
    · exact pure.serves (serves_of_replies called replies)
    · obtain ⟨word, -, rfl⟩ := (if_neg called).mp replies
      exact ⟨pure.files, pure.opened⟩
  | writeSource path text =>
    refine ⟨?_, fun _ same => nomatch same⟩
    have known : (Artifact.text text).Known tools kernels := by
      refine ⟨fun bytes same => ?_, fun definition inside => (List.not_mem_nil inside).elim⟩
      obtain rfl := Artifact.text.inj same
      exact written path text rfl
    cases reply with
    | ok value =>
      obtain rfl := replies
      exact pure.lay fun rest same => Option.some.inj same ▸ known
    | error fault =>
      rcases replies with rfl | rfl | rfl
      · exact pure
      · exact pure.lay fun _ same => nomatch same
      · refine pure.lay fun rest same => ?_
        obtain rfl := Option.some.inj same
        exact ⟨fun _ text => (nomatch text), fun _ inside => (List.not_mem_nil inside).elim⟩
  | remove path =>
    refine ⟨?_, fun _ same => nomatch same⟩
    rcases replies with rfl | rfl
    · exact pure
    · exact pure.lay fun _ same => nomatch same
  | combine flag => exact ⟨replies.2 ▸ pure, fun _ same => nomatch same⟩
  | look => exact ⟨replies.2 ▸ pure, fun _ same => nomatch same⟩
  | present path => exact ⟨replies.2 ▸ pure, fun _ same => nomatch same⟩
  | _ =>
    obtain rfl := replies
    exact ⟨⟨pure.files, pure.opened⟩, fun _ same => nomatch same⟩

end Pure

end Bench

/-! ### All members -/

open Session Bench

/-- A member: what it has besides the files, its session, the lookup that it is in, and what its
lookups have returned. -/
structure Seat where
  bench : Bench := {}
  session : Session
  doing : Option (Kernel × Action (Except Failure KernelSymbol × Session)) := none
  returned : List (Kernel × KernelSymbol) := []

/-- Members over the same files. -/
structure Hall (ι : Type) where
  shelf : Shelf
  seats : ι → Seat

namespace Hall

variable {ι : Type} [DecidableEq ι]

/-- What a member sees. -/
def view (hall : Hall ι) (seat : ι) : Bench :=
  { (hall.seats seat).bench with shelf := hall.shelf }

/-- The hall after a step of one member, with the files as it has left them. -/
def move (hall : Hall ι) (seat : ι) (later : Seat) : Hall ι where
  shelf := later.bench.shelf
  seats := Function.update hall.seats seat later

/-- No file, and no run yet. -/
def vacant : Hall ι where
  shelf := Shelf.empty
  seats _ := { session := assemble {} .alone none }

/-- One step of one member. -/
inductive Step (tools : Tools) (kernels : Kernel → Prop) : Hall ι → Hall ι → Prop where
  /-- A run begins, in a process that may still hold some images; the run before it may have ended
  in the midst of a lookup. -/
  | begins {hall : Hall ι} (seat : ι) (fresh : Bench) (config : Config) (member : Member)
      (coordinator : Option Coordinator) (files : fresh.shelf = hall.shelf)
      (held : fresh.opened ⊆ (hall.seats seat).bench.opened) :
      Step tools kernels hall (hall.move seat { hall.seats seat with
        bench := fresh, session := assemble config member coordinator, doing := none })
  /-- A command that nobody waits for comes to its end. -/
  | ends {hall : Hall ι} (seat : ι) {later : Bench} (late : Late tools (hall.view seat) later) :
      Step tools kernels hall (hall.move seat { hall.seats seat with bench := later })
  | looks {hall : Hall ι} (seat : ι) {kernel : Kernel} (idle : (hall.seats seat).doing = none)
      (listed : kernels kernel) :
      Step tools kernels hall (hall.move seat { hall.seats seat with
        bench := hall.view seat
        doing := some (kernel, (lookup kernel).run.run (hall.seats seat).session) })
  | asks {hall : Hall ι} (seat : ι) {kernel : Kernel} {effect : Effect} {reply : effect.Reply}
      {next : effect.Reply → Action (Except Failure KernelSymbol × Session)} {later : Bench}
      (doing : (hall.seats seat).doing = some (kernel, .ask effect next))
      (answered : Answers tools false (hall.view seat) effect reply later) :
      Step tools kernels hall (hall.move seat { hall.seats seat with
        bench := later, doing := some (kernel, next reply) })
  | returns {hall : Hall ι} (seat : ι) {kernel : Kernel} {outcome : Except Failure KernelSymbol}
      {session : Session}
      (doing : (hall.seats seat).doing = some (kernel, .done (outcome, session))) :
      Step tools kernels hall (hall.move seat { hall.seats seat with
        bench := hall.view seat, session, doing := none
        returned := (outcome.toOption.map fun symbol => (kernel, symbol)).toList ++
          (hall.seats seat).returned })

/-- What any number of steps lead to. -/
def Reached (tools : Tools) (kernels : Kernel → Prop) (hall : Hall ι) : Prop :=
  Relation.ReflTransGen (Step tools kernels) vacant hall

/-! ### What every member keeps -/

/-- What a lookup leads to: what it keeps and what it returns comes from known images. -/
def Upright (tools : Tools) (kernels : Kernel → Prop) (kernel : Kernel)
    (result : Except Failure KernelSymbol × Session) (_ : Unit) : Prop :=
  Vouched kernels (Trusted tools kernels) result.2 ∧ ∀ symbol, result.1 = .ok symbol →
    FoundFor kernels (Trusted tools kernels) kernel.hash symbol

/-- What a member is in the midst of. -/
def Engaged (tools : Tools) (kernels : Kernel → Prop) (session : Session) :
    Option (Kernel × Action (Except Failure KernelSymbol × Session)) → Prop
  | none => Vouched kernels (Trusted tools kernels) session
  | some (kernel, action) => kernels kernel ∧
      action.Fulfils (questions session.config kernel (Trusted tools kernels))
        (Upright tools kernels kernel) ()

/-- What every member keeps: its images are of known definitions, and so is all that it does. -/
structure Orderly (tools : Tools) (kernels : Kernel → Prop) (seat : Seat) : Prop where
  opened : ∀ place definitions, (place, definitions) ∈ seat.bench.opened →
    ∀ definition ∈ definitions, tools.Known kernels definition
  engaged : Engaged tools kernels seat.session seat.doing
  returned : ∀ kernel symbol, (kernel, symbol) ∈ seat.returned → kernels kernel ∧
    FoundFor kernels (Trusted tools kernels) kernel.hash symbol

/-- What holds of the hall. -/
structure Sound (tools : Tools) (kernels : Kernel → Prop) (hall : Hall ι) : Prop where
  files : hall.shelf.Known tools kernels
  seats : ∀ seat, Orderly tools kernels (hall.seats seat)

variable {hall later : Hall ι} {seat : ι}

theorem seats_move_same {moved : Seat} : (hall.move seat moved).seats seat = moved :=
  Function.update_self _ _ _

theorem seats_move_of_ne {moved : Seat} {other : ι} (differ : other ≠ seat) :
    (hall.move seat moved).seats other = hall.seats other :=
  Function.update_of_ne differ _ _

theorem move_move {moved moved' : Seat} :
    (hall.move seat moved).move seat moved' = hall.move seat moved' := by
  rw [move, move, move, Function.update_idem]

omit [DecidableEq ι] in
theorem Sound.view (sound : Sound tools kernels hall) (seat : ι) :
    Pure tools kernels (hall.view seat) :=
  ⟨sound.files, (sound.seats seat).opened⟩

/-- A step of one member leaves the others as they are. -/
theorem Sound.move (sound : Sound tools kernels hall) {moved : Seat}
    (files : moved.bench.shelf.Known tools kernels) (orderly : Orderly tools kernels moved) :
    Sound tools kernels (hall.move seat moved) := by
  refine ⟨files, fun other => ?_⟩
  by_cases same : other = seat
  · rw [same, seats_move_same]
    exact orderly
  · rw [seats_move_of_ne same]
    exact sound.seats other

/-- The texts that a lookup writes are known. -/
theorem written_of_asks {config : Config} {kernel : Kernel} {effect : Effect}
    (listed : kernels kernel) (asks : Asks config kernel effect) :
    ∀ path text, effect = .writeSource path text → ∃ kernel, kernels kernel ∧
      text = Bytes.ofString kernel.source := by
  rintro path text rfl
  exact ⟨kernel, listed, asks.2⟩

/-- **A step of one member** keeps what holds of the hall. -/
theorem Sound.step (sound : Sound tools kernels hall) (step : Step tools kernels hall later) :
    Sound tools kernels later := by
  cases step with
  | begins seat fresh config member coordinator files held =>
    refine sound.move (files ▸ sound.files) ⟨fun place definitions inside => ?_,
      vouched_assemble config member coordinator, (sound.seats seat).returned⟩
    exact (sound.seats seat).opened place definitions (held inside)
  | ends seat late =>
    have pure := (sound.view seat).late late
    exact sound.move pure.files
      ⟨pure.opened, (sound.seats seat).engaged, (sound.seats seat).returned⟩
  | looks seat idle listed =>
    have engaged := (sound.seats seat).engaged
    rw [idle] at engaged
    refine sound.move sound.files ⟨(sound.seats seat).opened, ⟨listed, ?_⟩,
      (sound.seats seat).returned⟩
    have looked := secures_lookup listed engaged
    unfold Secures at looked
    exact looked.mono fun result _ ⟨⟨_, vouched⟩, found⟩ => ⟨vouched, found⟩
  | asks seat doing answered =>
    have engaged := (sound.seats seat).engaged
    rw [doing] at engaged
    obtain ⟨listed, asks, rest⟩ := engaged
    obtain ⟨pure, trusted⟩ := (sound.view seat).answers (written_of_asks listed asks) answered
    exact sound.move pure.files
      ⟨pure.opened, ⟨listed, rest _ () trusted⟩, (sound.seats seat).returned⟩
  | @returns seat kernel outcome session doing =>
    have engaged := (sound.seats seat).engaged
    rw [doing] at engaged
    obtain ⟨listed, vouched, found⟩ := engaged
    refine sound.move sound.files
      ⟨(sound.seats seat).opened, vouched, fun other symbol inside => ?_⟩
    rcases List.mem_append.mp inside with new | old
    · cases outcome with
      | error failure => exact (List.not_mem_nil new).elim
      | ok value =>
        obtain ⟨rfl, rfl⟩ := Prod.mk.inj (List.mem_singleton.mp new)
        exact ⟨listed, found symbol rfl⟩
    · exact (sound.seats seat).returned other symbol old

/-- **Whatever the members do**, it holds of the hall. -/
theorem Reached.sound (reached : Reached tools kernels hall) : Sound tools kernels hall := by
  induction reached with
  | refl =>
    refine ⟨fun path content found => (nomatch found), fun seat => ⟨?_, ?_, ?_⟩⟩
    · exact fun _ _ inside => (List.not_mem_nil inside).elim
    · exact vouched_assemble {} .alone none
    · exact fun _ _ inside => (List.not_mem_nil inside).elim
  | tail _ step ih => exact ih.step step

/-- A member that is in the midst of an action goes on to its end. -/
theorem reaches_end {kernel : Kernel} {action : Action (Except Failure KernelSymbol × Session)}
    {result : Except Failure KernelSymbol × Session} {bench last : Bench}
    (doing : (hall.seats seat).doing = some (kernel, action)) (view : hall.view seat = bench)
    (yields : action.Yields (workplace tools false) bench result last) :
    Relation.ReflTransGen (Step tools kernels) hall (hall.move seat { hall.seats seat with
      bench := last, doing := some (kernel, .done result) }) := by
  induction yields generalizing hall with
  | done value bench =>
    rw [← doing, ← view]
    exact .single (.ends seat (.still _))
  | @ask effect next reply bench between last value answered rest ih =>
    refine .head (.asks seat doing (view ▸ answered)) ?_
    let asked := hall.move seat { hall.seats seat with
      bench := between, doing := some (kernel, next reply) }
    have doing' : (asked.seats seat).doing = some (kernel, next reply) := by rw [seats_move_same]
    have view' : asked.view seat = between := by
      rw [Hall.view, seats_move_same]
      rfl
    have behind := ih doing' view'
    rw [move_move, seats_move_same] at behind
    exact behind

/-- A lookup from its beginning to its end. -/
theorem Reached.looked (reached : Reached tools kernels hall) (seat : ι) {kernel : Kernel}
    (listed : kernels kernel) (idle : (hall.seats seat).doing = none)
    {result : Except Failure KernelSymbol × Session} {last : Bench}
    (looks : ((lookup kernel).run.run (hall.seats seat).session).Yields (workplace tools false)
      (hall.view seat) result last) :
    Reached tools kernels (hall.move seat { hall.seats seat with
      bench := last, session := result.2, doing := none
      returned := (result.1.toOption.map fun symbol => (kernel, symbol)).toList ++
        (hall.seats seat).returned }) := by
  have begun := reached.tail (.looks seat idle listed)
  let busy := hall.move seat { hall.seats seat with
    bench := hall.view seat
    doing := some (kernel, (lookup kernel).run.run (hall.seats seat).session) }
  have doing : (busy.seats seat).doing =
      some (kernel, (lookup kernel).run.run (hall.seats seat).session) := by rw [seats_move_same]
  have view : busy.view seat = hall.view seat := by
    rw [Hall.view, seats_move_same]
    rfl
  have ended := begun.trans (reaches_end doing view looks)
  rw [move_move, seats_move_same] at ended
  have returned := ended.tail (.returns seat (by rw [seats_move_same]))
  rw [move_move, seats_move_same, Hall.view, seats_move_same] at returned
  exact returned

end Hall

end KernelCache

namespace KernelCache.Hall.Sample

open KernelCache.Action Session Bench

/-! ### Two kernels of one name -/

def first : Kernel := ⟨1, "f", "int f(void){return 1;}"⟩

/-- Another function of the same name. -/
def namesake : Kernel := ⟨2, "f", "int f(void){return 2;}"⟩

def other : Kernel := ⟨3, "g", "int g(void){return 3;}"⟩

def sources : List (Bytes × List String) :=
  [(Bytes.ofString first.source, ["f"]), (Bytes.ofString namesake.source, ["f"]),
    (Bytes.ofString other.source, ["g"])]

def tools : Tools :=
  .tabled {} sources (({} : Config).tasks first ++ ({} : Config).buildTasks namesake ++
    ({} : Config).buildTasks other)

/-- The run begins with this session. -/
def session : Session := assemble {} .alone (some { policy := ({} : Config).poll.policy })

/-- The first kernel is looked up where all goes well. -/
def once : (Except Failure KernelSymbol × Session) × Bench :=
  obliged tools (Tools.display sources) first session {}

/-- Then another one is looked up. -/
def twice (kernel : Kernel) : (Except Failure KernelSymbol × Session) × Bench :=
  obliged tools (Tools.display sources) kernel once.1.2 once.2

theorem loads (definitions : List Definition) :
    tools.shows definitions (Tools.display sources definitions) := rfl

end KernelCache.Hall.Sample
