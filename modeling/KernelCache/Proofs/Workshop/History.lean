import KernelCache.Proofs.Session.Creation
import KernelCache.Proofs.Workshop.Lookup

/-
**Runs over one cache.**

A process begins one run after the other over the same files, and looks kernels up in each.

* `Bench.fulfils_start`: a run begins with an empty cache and an idle worker, and leaves the files as
  they are.
* `Bench.History`: the runs of a process over a cache directory that was empty at first. A run does
  not begin while the process still holds an older image of the library.
* **`Bench.History.compiled_once`**: what was answered in a run is answered again without a question,
  and what was answered in an earlier run is answered without a command.
-/

namespace KernelCache

open KernelCache.Action

namespace Bench

open Session

variable {tools : Tools} {config : Config} {kernels : Kernel → Prop} {bench last : Bench}
  {kernel : Kernel} {session : Session}

/-! ### The beginning of a run -/

/-- Only the channel has changed. -/
structure Calm (bench last : Bench) : Prop where
  shelf : last.shelf = bench.shelf
  opened : last.opened = bench.opened
  working : last.working = none

/-- The worker is told that its member is the first, and stays. -/
theorem secures_handshake (idle : bench.working = none) (coordinator : Coordinator) :
    Secures (workplace tools true) (Coordinator.handshake 0)
      (fun outcome _ last => ∀ stays, outcome = .ok stays → stays = true ∧ Calm bench last)
      coordinator bench := by
  unfold Secures
  rw [Coordinator.run_handshake]
  split
  case isFalse => exact fun _ same => nomatch same
  refine ⟨trivial, ?_⟩
  rintro _ _ ⟨_, late, rfl, rfl⟩
  obtain rfl := late.eq_of_idle idle
  beta_reduce
  split
  case isFalse => exact fun _ same => nomatch same
  rw [if_neg (by decide)]
  refine ⟨trivial, ?_⟩
  rintro _ told ⟨_, late, (posted : told = _)⟩
  obtain rfl := late.eq_of_idle idle
  obtain ⟨calm, uncalled⟩ : Calm bench told ∧ told.word ≠ Channel.callWord := by
    rw [posted]
    exact ⟨⟨rfl, rfl, idle⟩, (by decide : (0 : UInt32) ≠ Channel.callWord)⟩
  refine ⟨trivial, ?_⟩
  rintro verdict _ ⟨_, late, replies⟩
  obtain rfl := late.eq_of_idle calm.working
  obtain ⟨word, -, rfl⟩ := (if_neg uncalled).mp replies
  cases verdict with
  | acknowledged =>
    rintro _ ⟨⟩
    exact ⟨rfl, calm.shelf, calm.opened, calm.working⟩
  | left code => exact fun _ same => nomatch same
  | exhausted exhausted => exact fun _ same => nomatch same

theorem fulfils_introduce (idle : bench.working = none) (coordinator : Coordinator) :
    (introduce coordinator 0).run.Fulfils (workplace tools true)
      (fun outcome last => ∀ told, outcome = .ok told → Calm bench last) bench := by
  refine Fulfils.bind (secures_handshake idle coordinator) ?_
  rintro ⟨failure | stays, after⟩ last told
  · refine Fulfils.bind (Fulfils.of_open (fun _ _ => trivial) after.abandon) ?_
    exact fun _ _ _ _ same => nomatch same
  · exact fun _ _ => (told stays rfl).2

/-- **A run begins** with an empty cache and an idle worker, and with the files as they are. -/
theorem fulfils_start (config : Config) (idle : bench.working = none) :
    (start config .alone).run.Fulfils (workplace tools true) (fun outcome last =>
      ∀ session, outcome = .ok session →
        Calm bench last ∧ ∃ coordinator, session = assemble config .alone coordinator) bench := by
  unfold start
  rw [run_exceptBind, run_validated, done_bind]
  cases config.validate with
  | error failure => exact fun _ same => nomatch same
  | ok value =>
    have hires : (Coordinator.hire config).run.Fulfils (workplace tools true)
        (fun _ last => Calm bench last) bench := by
      refine ⟨trivial, ?_⟩
      rintro hired _ ⟨_, late, rfl⟩
      obtain rfl := late.eq_of_idle idle
      cases hired with
      | error failure => exact ⟨rfl, rfl, idle⟩
      | ok value => exact ⟨rfl, rfl, idle⟩
    show Fulfils _ _ (Coordinator.hire config >>= _).run _
    rw [run_exceptBind]
    refine Fulfils.bind hires ?_
    rintro (failure | coordinator) hired calm
    · exact fun _ same => nomatch same
    · show Fulfils _ _ (introduce coordinator 0 >>= _).run _
      rw [run_exceptBind]
      refine Fulfils.bind (fulfils_introduce calm.working coordinator) ?_
      rintro (failure | ⟨stays, after⟩) last told
      · exact fun _ same => nomatch same
      · have calm' := told _ rfl
        rintro _ ⟨⟩
        exact ⟨⟨calm'.shelf.trans calm.shelf, calm'.opened.trans calm.opened, calm'.working⟩,
          _, rfl⟩

/-! ### Run after run -/

/-- The symbol that a lookup has returned, under its hash. -/
def returned (kernel : Kernel) : Except Failure KernelSymbol → List (UInt64 × KernelSymbol)
  | .ok symbol => [(kernel.hash, symbol)]
  | .error _ => []

/-- The runs of a process over a cache directory that was empty at first, up to a bench and the
session of the last run: `now` is what was returned in that run, `before` are the hashes that were
answered in earlier ones. -/
inductive History (tools : Tools) (config : Config) (kernels : Kernel → Prop) :
    Bench → Session → List (UInt64 × KernelSymbol) → List UInt64 → Prop where
  | first {bench begun : Bench} {session : Session}
      (empty : ∀ kernel, ∀ place ∈ config.places kernel, bench.shelf.find? place = none)
      (bare : bench.opened = []) (idle : bench.working = none)
      (starts : (start config .alone).run.Yields (workplace tools true) bench (.ok session) begun) :
      History tools config kernels begun session [] []
  /-- A command that nobody waits for may end when the run is over, or is ended with its worker;
  some images may be closed. -/
  | again {bench ended fresh begun : Bench} {session later : Session}
      {now : List (UInt64 × KernelSymbol)} {before : List UInt64}
      (history : History tools config kernels bench session now before)
      (ends : Late tools bench ended) (files : fresh.shelf = ended.shelf)
      (closed : fresh.opened ⊆ ended.opened)
      (unheld : fresh.opened.lookup config.layout.library.components = none)
      (idle : fresh.working = none)
      (starts : (start config .alone).run.Yields (workplace tools true) fresh (.ok later) begun) :
      History tools config kernels begun later [] (now.map (·.1) ++ before)
  | asked {bench last : Bench} {session later : Session} {now : List (UInt64 × KernelSymbol)}
      {before : List UInt64} {kernel : Kernel} {outcome : Except Failure KernelSymbol}
      (history : History tools config kernels bench session now before) (listed : kernels kernel)
      (looks : ((lookup kernel).run.run session).Yields (workplace tools true) bench
        (outcome, later) last) :
      History tools config kernels last later (returned kernel outcome ++ now) before

/-- What holds of a run after others. -/
structure Continues (tools : Tools) (config : Config) (kernels : Kernel → Prop) (bench : Bench)
    (session : Session) (now : List (UInt64 × KernelSymbol)) (before : List UInt64) : Prop where
  sound : Sound tools config kernels session bench
  unheld : session.cache.probed = false →
    bench.opened.lookup config.layout.library.components = none
  /-- What was returned in this run is remembered. -/
  recalled : ∀ hash symbol, (hash, symbol) ∈ now → session.cache.remembered? hash = some symbol
  /-- The library has what was answered before. -/
  offered : ∀ kernel, kernels kernel → kernel.hash ∈ before →
    bench.shelf.Offers config.layout.library (Image.plainName kernel.symbol)
  /-- A session that has looked at the library has found it there. -/
  shown : session.cache.probed = true → ∀ kernel, kernels kernel → kernel.hash ∈ before →
    ∃ image ∈ session.cache.images, image.Exports (Image.plainName kernel.symbol)

/-- Empty files keep what they have to. -/
theorem kept_empty
    (empty : ∀ kernel, ∀ place ∈ config.places kernel, bench.shelf.find? place = none)
    (bare : bench.opened = []) (idle : bench.working = none) : Kept tools config kernels bench where
  archive content found := nomatch (empty ⟨0, "", ""⟩ _ List.mem_cons_self).symm.trans found
  library content found :=
    nomatch (empty ⟨0, "", ""⟩ _ (List.mem_cons_of_mem _ List.mem_cons_self)).symm.trans found
  covered name := by
    rintro ⟨content, found, -⟩
    have absent := empty ⟨0, "", ""⟩ _ (List.mem_cons_of_mem _ List.mem_cons_self)
    exact (nomatch absent.symm.trans found)
  opened place definitions inside := by
    rw [bare] at inside
    exact (List.not_mem_nil inside).elim
  object kernel _ definitions found := nomatch (empty kernel _ (List.mem_cons_of_mem _
    (List.mem_cons_of_mem _ Config.object_mem))).symm.trans found
  source kernel _ bytes found := nomatch (empty kernel _ (List.mem_cons_of_mem _
    (List.mem_cons_of_mem _ Config.source_mem))).symm.trans found
  working command working := nomatch idle.symm.trans working

namespace Continues

variable {now : List (UInt64 × KernelSymbol)} {before : List UInt64}

/-- A run begins over files that keep what they have to. -/
theorem begun {begun : Bench} (kept : Kept tools config kernels bench) (idle : bench.working = none)
    (unheld : bench.opened.lookup config.layout.library.components = none)
    (before : List UInt64) (offered : ∀ kernel, kernels kernel → kernel.hash ∈ before →
      bench.shelf.Offers config.layout.library (Image.plainName kernel.symbol))
    (starts : (start config .alone).run.Yields (workplace tools true) bench (.ok session) begun) :
    Continues tools config kernels begun session [] before := by
  obtain ⟨calm, coordinator, rfl⟩ := (fulfils_start config idle).yields starts session rfl
  have opened : begun.opened ⊆ bench.opened := by
    rw [calm.opened]
    exact List.Subset.refl _
  refine ⟨⟨kept.congr calm.shelf opened (.inl calm.working), rfl, rfl, rfl, ?_, ?_⟩, ?_, ?_, ?_, ?_⟩
  · exact fun _ inside => (List.not_mem_nil inside).elim
  · exact fun _ _ inside => (List.not_mem_nil inside).elim
  · rw [calm.opened]
    exact fun _ => unheld
  · exact fun _ _ inside => (List.not_mem_nil inside).elim
  · rw [calm.shelf]
    exact offered
  · exact fun probed => nomatch probed

variable (suits : tools.Suits config kernels)
include suits

/-- A lookup of the run, whatever comes of it. -/
theorem looked {later : Session} {outcome : Except Failure KernelSymbol}
    (continues : Continues tools config kernels bench session now before) (listed : kernels kernel)
    (looks : ((lookup kernel).run.run session).Yields (workplace tools true) bench
      (outcome, later) last) :
    Continues tools config kernels last later (returned kernel outcome ++ now) before := by
  obtain ⟨looked, still, shown⟩ :=
    (secures_lookup suits listed continues.sound).yields looks
  refine ⟨looked.sound, fun fresh => ?_, fun hash symbol inside => ?_,
    fun other listed' inside => looked.grows _ (continues.offered other listed' inside),
    fun probed other listed' inside => ?_⟩
  · rcases still with ⟨rfl, rfl⟩ | probed
    · exact continues.unheld fresh
    · exact (nomatch fresh.symm.trans probed)
  · rcases List.mem_append.mp inside with new | old
    · cases outcome with
      | error failure => exact (List.not_mem_nil new).elim
      | ok found =>
        obtain ⟨rfl, rfl⟩ := Prod.mk.inj (List.mem_singleton.mp new)
        exact (looked.answer symbol rfl).1
    · exact looked.memo hash symbol (continues.recalled hash symbol old)
  · cases fresh : session.cache.probed with
    | true =>
      obtain ⟨image, here, exports⟩ := continues.shown fresh other listed' inside
      exact ⟨image, looked.images here, exports⟩
    | false =>
      exact shown fresh probed (continues.unheld fresh) _ (continues.offered other listed' inside)

end Continues

variable {now : List (UInt64 × KernelSymbol)} {before : List UInt64}

/-- What was returned in a run is remembered for its hash. -/
theorem Sound.offered_of_remembered (sound : Sound tools config kernels session bench)
    {symbol : KernelSymbol} (listed : kernels kernel)
    (remembered : session.cache.remembered? kernel.hash = some symbol) :
    bench.shelf.Offers config.layout.library (Image.plainName kernel.symbol) := by
  obtain ⟨newer, older, memo, -⟩ := List.lookup_eq_some_iff.mp remembered
  exact sound.memo kernel.hash symbol (memo ▸ List.mem_append_right _ List.mem_cons_self) kernel
    listed rfl

namespace History

variable (suits : tools.Suits config kernels)
include suits

theorem continues (history : History tools config kernels bench session now before) :
    Continues tools config kernels bench session now before := by
  induction history with
  | first empty bare idle starts =>
    refine .begun (kept_empty empty bare idle) idle ?_ [] ?_ starts
    · rw [bare]
      rfl
    · exact fun _ _ inside => (List.not_mem_nil inside).elim
  | @again bench ended fresh begun session later now before history ends files closed unheld idle
      starts ih =>
    have stays := ih.sound.kept.late suits.distinct suits.keyed ends
    refine .begun (stays.kept.congr files closed (.inl idle)) idle unheld _ ?_ starts
    intro kernel listed inside
    rw [files]
    refine stays.grows _ ?_
    rcases List.mem_append.mp inside with inside | inside
    · obtain ⟨⟨hash, symbol⟩, here, rfl⟩ := List.mem_map.mp inside
      exact ih.sound.offered_of_remembered listed (ih.recalled _ symbol here)
    · exact ih.offered kernel listed inside
  | asked history listed looks ih => exact ih.looked suits listed looks

/-- **A kernel is compiled once.** What a lookup has returned, every later lookup of its hash in the
same run returns again, and asks nothing. What was answered in an earlier run is answered in a later
one, and no command is handed to the worker. -/
theorem compiled_once (loads : ∀ definitions, ∃ image, tools.shows definitions image)
    (history : History tools config kernels bench session now before) (listed : kernels kernel) :
    (∀ symbol, (kernel.hash, symbol) ∈ now →
      (lookup kernel).run.run session = .done (.ok symbol, session)) ∧
    (kernel.hash ∈ before →
      (∃ result last, ((lookup kernel).run.run session).Yields (workplace tools true) bench result
        last) ∧
      ∀ outcome later last, ((lookup kernel).run.run session).Yields (workplace tools true) bench
        (outcome, later) last →
          (∃ symbol, outcome = .ok symbol) ∧ last.handed = bench.handed) := by
  have continues := history.continues suits
  refine ⟨fun symbol inside => ?_, fun inside => ⟨?_, fun outcome later last looks => ?_⟩⟩
  · exact run_lookup_remembered (continues.recalled kernel.hash symbol inside)
  · exact exists_yields (exists_answer loads true) _ bench
  · exact (secures_hit suits continues.sound (continues.offered kernel listed inside)
      continues.unheld fun probed => continues.shown probed kernel listed inside).yields looks

end History

/-! ### Two kernels, run after run -/

/-- Where all goes well, a run begins. -/
theorem yields_start {load : List Definition → Image}
    (loads : ∀ definitions, tools.shows definitions (load definitions)) (strict : Bool)
    (accepted : config.validate = .ok ()) (bench : Bench) :
    (start config .alone).run.Yields (workplace tools strict) bench
      (.ok (assemble config .alone (some { policy := config.poll.policy })))
      { bench with word := Channel.readyWord } := by
  have runs : ((start config .alone).run.run (oblige tools load)).run bench =
      (.ok (assemble config .alone (some { policy := config.poll.policy })),
        { bench with word := Channel.readyWord }) := by
    unfold start
    rw [run_exceptBind, run_validated, accepted]
    rfl
  exact yields_of_run (answers_oblige loads strict) runs

end Bench

namespace Bench.Sample

open Session

def first : Kernel := ⟨1, "f", "int f(void){return 1;}"⟩

def second : Kernel := ⟨2, "g", "int g(void){return 2;}"⟩

def sources : List (Bytes × List String) :=
  [(Bytes.ofString first.source, ["f"]), (Bytes.ofString second.source, ["g"])]

def tools : Tools :=
  .tabled {} sources (({} : Config).tasks first ++ ({} : Config).buildTasks second)

/-- Every run begins with this session. -/
def session : Session := assemble {} .alone (some { policy := ({} : Config).poll.policy })

def looked : Kernel → Session → Bench → (Except Failure KernelSymbol × Session) × Bench :=
  obliged tools (Tools.display sources)

/-- The first kernel is looked up, over no files at all. -/
def begun : (Except Failure KernelSymbol × Session) × Bench := looked first session {}

/-- A second run begins, and all images are closed. -/
def anew : Bench := { shelf := begun.2.shelf }

theorem loads (definitions : List Definition) :
    tools.shows definitions (Tools.display sources definitions) := rfl

theorem suits : tools.Suits {} (· ∈ [first, second]) := by
  have accepted : ({} : Config).validate = .ok () := by decide
  have extension : '/' ∉ ({} : Config).toolchain.sourceExtension.toList := by decide
  have separated : ∀ kernel ∈ [first, second], ({} : Config).Separated kernel := by decide +kernel
  have keyed : ∀ kernel ∈ [first, second], ∀ other ∈ [first, second], kernel.hash = other.hash →
      kernel.source = other.source ∧ kernel.symbol = other.symbol := by decide +kernel
  refine Tools.suits_tabled ⟨accepted, extension, separated⟩ ?_ (Tools.reads_tabled ?_)
  · exact fun kernel other listed listed' => keyed kernel listed other listed'
  · decide +kernel

theorem begun_eq : begun.1.1 = .ok ⟨⟨0, "f"⟩, 0⟩ := by decide +kernel

/-- One kernel is looked up in two runs: the first sends four commands, the second none. -/
theorem compiled_once_twice :
    History tools {} (· ∈ [first, second]) begun.2 begun.1.2 [(1, ⟨⟨0, "f"⟩, 0⟩)] [] ∧
      begun.2.handed.length = 4 ∧
      (lookup first).run.run begun.1.2 = .done (.ok ⟨⟨0, "f"⟩, 0⟩, begun.1.2) ∧
      History tools {} (· ∈ [first, second]) anew session [] [1] ∧
      (∃ symbol, (looked first session anew).1.1 = .ok symbol) ∧
      (looked first session anew).2.handed = [] := by
  have looks : ∀ bench, ((lookup first).run.run session).Yields (workplace tools true) bench
      (looked first session bench).1 (looked first session bench).2 :=
    yields_obliged loads true first session
  have listed : first ∈ [first, second] := List.mem_cons_self
  have started : History tools {} (· ∈ [first, second]) {} session [] [] :=
    .first (fun _ _ _ => rfl) rfl rfl (yields_start loads true (by decide) {})
  have now : History tools {} (· ∈ [first, second]) begun.2 begun.1.2 [(1, ⟨⟨0, "f"⟩, 0⟩)] [] := by
    have asked := started.asked listed (looks {})
    have found : (looked first session {}).1.1 = .ok ⟨⟨0, "f"⟩, 0⟩ := begun_eq
    rw [found] at asked
    exact asked
  have later : History tools {} (· ∈ [first, second]) anew session [] [1] :=
    now.again (.still _) (rfl : anew.shelf = begun.2.shelf) (List.nil_subset _) rfl rfl
      (yields_start loads true (by decide) anew)
  obtain ⟨same, -⟩ := History.compiled_once suits (fun _ => ⟨_, loads _⟩) now listed
  obtain ⟨-, hits⟩ := History.compiled_once suits (fun _ => ⟨_, loads _⟩) later listed
  obtain ⟨answers, none⟩ := (hits List.mem_cons_self).2 _ _ _ (looks anew)
  exact ⟨now, by decide +kernel, same _ List.mem_cons_self, later, answers, none⟩

/-- The second run opens the library, and builds the second kernel. -/
def stocked : (Except Failure KernelSymbol × Session) × Bench :=
  looked second (looked first session anew).1.2 (looked first session anew).2

/-- **A third run compiles the second kernel again**, if an image of the second run is still held:
the library as the second run has opened it has only the first kernel. -/
theorem recompiled_when_held :
    failed stocked.1.1 = false ∧
      (looked second session { stocked.2 with handed := [] }).2.handed.map tools.reads =
        (({} : Config).buildTasks second).map some := by
  decide +kernel

end Bench.Sample

end KernelCache
