import KernelCache.Proofs.Cache.Steps
import KernelCache.Proofs.Coordinator.Steps
import KernelCache.Proofs.Session.Lockstep
import KernelCache.Proofs.Session.Steps
import KernelCache.Proofs.Session.Tasks

/-
**What a lookup asks for.**

A lookup opens three images, writes one source, removes four files, and hands the commands of its
tasks to the worker. What it returns and keeps comes from the images that it was given.

* `Coordinator.asks_call`, `Session.asks_callAll`: a command is handed over by looking at the word,
  filling the command in, asking for it and waiting.
* `Session.Asks config kernel`: the questions of a lookup.
* `Session.Vouched kernels trusted session`: every image of the session is trusted, and every symbol
  that it remembers was found in a trusted image, under the symbol of a kernel with that hash.
* **`Session.secures_lookup`**: a lookup asks nothing else; where every image that is opened is
  trusted, the session stays vouched for, and a symbol that is returned is vouched for too.
* `Session.leaves_lookup`: the settings and the membership of a session stay.
-/

namespace KernelCache

open KernelCache.Action

/-- The image that an answer hands out. -/
def Effect.opened? : (effect : Effect) → effect.Reply → Option Image
  | openImage _, .ok image => some image
  | _, _ => none

/-- A question of a call with this command. -/
def Effect.OfCall (command : Bytes) : Effect → Prop
  | look | await _ => True
  | fill other => other = command
  | post word => word = Channel.callWord
  | _ => False

/-- **A call** reads the word, fills in its command, asks for it and waits; and nothing else. -/
theorem Coordinator.asks_call (step : Step) (command : Bytes) (coordinator : Coordinator) :
    Secures (.only (Effect.OfCall command)) (Coordinator.call step command)
      (fun _ after _ => after.attached = coordinator.attached) coordinator () := by
  unfold Secures
  rw [Coordinator.run_call]
  cases coordinator.refusal? command with
  | some failure => exact rfl
  | none =>
    refine ⟨trivial, fun (word : UInt32) _ _ => ?_⟩
    beta_reduce
    split
    · exact ⟨rfl, fun _ _ _ => ⟨rfl, fun _ _ _ => ⟨trivial, fun _ _ _ => rfl⟩⟩⟩
    · exact rfl

namespace Session

/-- The questions that a lookup may ask. -/
def Asks (config : Config) (kernel : Kernel) : Effect → Prop
  | .combine _ | .look | .await _ => True
  | .post word => word = Channel.callWord
  | .fill command => ∃ task ∈ config.tasks kernel, task.command config = .ok command
  | .present path => path ∈ [config.layout.archive, config.layout.library]
  | .openImage path =>
    path ∈ [config.layout.library, config.layout.relinked, config.layout.image kernel]
  | .writeSource path text =>
    path = config.sourceFile kernel ∧ text = Bytes.ofString kernel.source
  | .remove path => path ∈ [config.layout.relinked, config.sourceFile kernel,
      config.layout.object kernel, config.layout.image kernel]
  | .hire _ | .reap | .join | .kill | .release => False

/-- The questions of a lookup, where every image that is opened is trusted. -/
def questions (config : Config) (kernel : Kernel) (trusted : Image → Prop) : Contract Unit where
  asks _ effect := Asks config kernel effect
  answers _ effect reply _ := ∀ image, effect.opened? reply = some image → trusted image

/-- A symbol was found in a trusted image under the symbol of a kernel. -/
def Found (trusted : Image → Prop) (kernel : Kernel) (symbol : KernelSymbol) : Prop :=
  ∃ image, trusted image ∧ image.find? kernel.symbol = some symbol

/-- A symbol was found for one of the kernels with a hash. -/
def FoundFor (kernels : Kernel → Prop) (trusted : Image → Prop) (hash : UInt64)
    (symbol : KernelSymbol) : Prop :=
  ∃ kernel, kernels kernel ∧ kernel.hash = hash ∧ Found trusted kernel symbol

/-- All that a session keeps comes from trusted images. -/
structure Vouched (kernels : Kernel → Prop) (trusted : Image → Prop) (session : Session) : Prop where
  layout : session.cache.layout = session.config.layout
  images : ∀ image ∈ session.cache.images, trusted image
  memo : ∀ hash symbol, (hash, symbol) ∈ session.cache.memo → FoundFor kernels trusted hash symbol

variable {α : Type} {config : Config} {kernel : Kernel} {kernels : Kernel → Prop}
  {trusted : Image → Prop} {session : Session}

theorem vouched_assemble (config : Config) (member : Member) (coordinator : Option Coordinator) :
    Vouched kernels trusted (assemble config member coordinator) where
  layout := rfl
  images _ inside := (List.not_mem_nil inside).elim
  memo _ _ inside := (List.not_mem_nil inside).elim

theorem Vouched.found {symbol : KernelSymbol} {name : String}
    (vouched : Vouched kernels trusted session)
    (found : session.cache.resolve? name = some symbol) :
    ∃ image, trusted image ∧ image.find? name = some symbol := by
  obtain ⟨image, inside, here⟩ := List.exists_of_findSome?_eq_some found
  exact ⟨image, vouched.images image inside, here⟩

theorem Vouched.of_besides {later : Session} (vouched : Vouched kernels trusted session)
    (same : later.besides = session.besides) : Vouched kernels trusted later := by
  obtain ⟨config, member, coordinator, cache⟩ := session
  obtain ⟨config', member', coordinator', cache'⟩ := later
  obtain ⟨rfl, rfl, rfl⟩ : config' = config ∧ member' = member ∧ cache' = cache := by
    simpa [besides] using same
  exact ⟨vouched.layout, vouched.images, vouched.memo⟩

theorem Vouched.retain {image : Image} (vouched : Vouched kernels trusted session)
    (trust : trusted image) :
    Vouched kernels trusted { session with cache := session.cache.retain image } where
  layout := vouched.layout
  images := List.forall_mem_cons.mpr ⟨trust, vouched.images⟩
  memo := vouched.memo

theorem Vouched.remember {hash : UInt64} {symbol : KernelSymbol}
    (vouched : Vouched kernels trusted session) (found : FoundFor kernels trusted hash symbol) :
    Vouched kernels trusted { session with cache := session.cache.remember hash symbol } where
  layout := vouched.layout
  images := vouched.images
  memo hash' symbol' inside := by
    rcases List.mem_cons.mp inside with same | inside
    · obtain ⟨rfl, rfl⟩ := Prod.mk.inj same
      exact found
    · exact vouched.memo hash' symbol' inside

/-! ### What the root does alone -/

/-- The step leaves all but the coordinator as it is. -/
def Besides {α : Type} (session : Session) (_ : Except Failure α) (later : Session) (_ : Unit) :
    Prop :=
  later.besides = session.besides

/-- The commands are handed over, and nothing else is asked. -/
theorem asks_callAll (steps : List (Step × Bytes)) (session : Session) :
    Secures (.only fun effect => ∃ step ∈ steps, effect.OfCall step.2) (callAll steps)
      session.Besides session () := by
  induction steps generalizing session with
  | nil => exact Secures.pure rfl
  | cons step rest ih =>
    refine Secures.bind session.Besides ?_ (fun _ later _ same => ?_) fun _ _ _ same => same
    · cases owned : session.coordinator with
      | none => exact secures_onCoordinator_none owned rfl
      | some coordinator =>
        have calls := Coordinator.asks_call step.1 step.2 coordinator
        refine secures_onCoordinator owned (calls.of_only fun effect called => ?_)
          fun _ _ _ _ => rfl
        exact ⟨step, List.mem_cons_self, called⟩
    · refine ((ih later).of_only ?_).mono fun _ _ _ same' => same'.trans same
      rintro effect ⟨other, inside, called⟩
      exact ⟨other, List.mem_cons_of_mem _ inside, called⟩

theorem Asks.of_call {effect : Effect} {command : Bytes}
    (allowed : Asks config kernel (.fill command)) (called : effect.OfCall command) :
    Asks config kernel effect := by
  cases effect with
  | fill other => exact called ▸ allowed
  | post word => exact called
  | look => trivial
  | await policy => trivial
  | _ => exact called.elim

theorem secures_callAll {steps : List (Step × Bytes)}
    (allowed : ∀ step ∈ steps, Asks config kernel (.fill step.2)) (session : Session) :
    Secures (questions config kernel trusted) (callAll steps) session.Besides session () := by
  refine (asks_callAll steps session).of_only ?_
  rintro effect ⟨step, inside, called⟩
  exact (allowed step inside).of_call called

/-- The commands of tasks may be handed to the worker. -/
theorem asks_fill {tasks : List Task} (known : tasks ⊆ config.tasks kernel)
    {steps : List (Step × Bytes)} (written : config.written tasks = .ok steps) :
    ∀ step ∈ steps, Asks config kernel (.fill step.2) := by
  intro step inside
  obtain ⟨task, listed, -, same⟩ := Config.exists_task_of_mem written inside
  exact ⟨task, known listed, same⟩

theorem secures_relink (session : Session) (kernel : Kernel) :
    Secures (questions session.config kernel trusted) relink session.Besides session () := by
  refine Secures.get (Secures.ask List.mem_cons_self fun present _ _ => ?_)
  split
  · refine secures_prepared (fun steps written _ => ?_) fun _ => rfl
    have allowed : ∀ step ∈ steps, Asks session.config kernel (.fill step.2) :=
      asks_fill (List.subset_append_left _ _) ((Config.relinkSteps_eq _).symm.trans written)
    refine secures_observing session.Besides (secures_callAll allowed session) ?_
    intro outcome later _ same
    have rest : Secures (questions session.config kernel trusted)
        (resolved outcome >>= fun _ => pure true) session.Besides later () :=
      Secures.bind session.Besides (secures_resolved same)
        (fun _ _ _ same => Secures.pure same) fun _ _ _ same => same
    split
    · exact Secures.ask List.mem_cons_self fun _ _ _ => rest
    · exact rest
  · exact Secures.pure rfl

theorem secures_build (session : Session) (kernel : Kernel) :
    Secures (questions session.config kernel trusted) (build kernel) session.Besides session ()
    := by
  refine Secures.get (secures_prepared (fun steps written _ => ?_) fun _ => rfl)
  have allowed : ∀ step ∈ steps, Asks session.config kernel (.fill step.2) :=
    asks_fill (List.subset_append_right _ _) ((Config.buildSteps_eq _ _).symm.trans written)
  refine Secures.ask ⟨rfl, rfl⟩ fun written _ _ => ?_
  cases written with
  | error fault => exact Secures.throw rfl
  | ok value =>
    refine secures_observing session.Besides (secures_callAll allowed session) ?_
    intro outcome later _ same
    refine Secures.ask (by simp [questions, Asks]) fun _ _ _ => ?_
    refine Secures.ask (by simp [questions, Asks]) fun _ _ _ => ?_
    split
    · exact Secures.ask (by simp [questions, Asks]) fun _ _ _ => secures_resolved same
    · exact secures_resolved same

/-! ### A lookup, part by part -/

/-- What a part of a lookup leads to: the session is vouched for, under the same settings. -/
def Keeping (kernels : Kernel → Prop) (trusted : Image → Prop) (config : Config) {α : Type}
    (_ : Except Failure α) (later : Session) (_ : Unit) : Prop :=
  later.config = config ∧ Vouched kernels trusted later

theorem secures_probe (vouched : Vouched kernels trusted session) :
    Secures (questions session.config kernel trusted) (onCache Cache.probe)
      (Keeping kernels trusted session.config) session () := by
  have library : session.cache.layout.library = session.config.layout.library :=
    congrArg Layout.library vouched.layout
  have probed : Vouched kernels trusted { session with cache := session.cache.afterProbe } :=
    ⟨vouched.layout, vouched.images, vouched.memo⟩
  show Fulfils _ _ ((Cache.probe.run.run session.cache).bind _) ()
  rw [Cache.run_probe, library]
  refine ⟨List.mem_cons_of_mem _ List.mem_cons_self, fun there _ _ => ?_⟩
  cases there with
  | false => exact ⟨rfl, probed⟩
  | true =>
    refine ⟨List.mem_cons_self, fun opened _ answered => ?_⟩
    cases opened with
    | ok image => exact ⟨rfl, probed.retain (answered image rfl)⟩
    | error fault => exact ⟨rfl, probed⟩

/-- What is taken from a fresh image comes from a trusted one. -/
theorem secures_loadFresh {path : Path} {use : Image → Except Failure α}
    (opens : Asks session.config kernel (.openImage path))
    (removes : Asks session.config kernel (.remove path))
    (vouched : Vouched kernels trusted session) :
    Secures (questions session.config kernel trusted) (loadFresh path use)
      (fun outcome later last => Keeping kernels trusted session.config outcome later last ∧
        ∀ value, outcome = .ok value → ∃ image, trusted image ∧ use image = .ok value)
      session () := by
  refine secures_fresh (fun outcome later last =>
    Keeping kernels trusted session.config outcome later last ∧ ∀ value, outcome = .ok value →
      ∃ image, trusted image ∧ use image = .ok value) opens ?_ ?_ ?_
  · intro image _ answered
    have trust : trusted image := answered image rfl
    exact ⟨⟨rfl, vouched.retain trust⟩, fun value used => ⟨image, trust, used⟩⟩
  · exact fun _ _ _ _ => ⟨⟨rfl, vouched⟩, fun _ same => nomatch same⟩
  · rintro outcome later _ ⟨keeping, found⟩
    refine ⟨trivial, fun anyFailed _ _ => ?_⟩
    have taken : ∀ value, later.member.settle outcome anyFailed = .ok value →
        ∃ image, trusted image ∧ use image = .ok value :=
      fun value settled => found value (eq_ok_of_settle settled).1
    split
    · exact Secures.ask removes fun _ _ _ => secures_resolved ⟨keeping, taken⟩
    · exact secures_resolved ⟨keeping, taken⟩

theorem secures_probeLibrary (vouched : Vouched kernels trusted session) :
    Secures (questions session.config kernel trusted) probeLibrary
      (Keeping kernels trusted session.config) session () := by
  refine Secures.bind _ (secures_probe vouched) (fun loaded later _ keeping => ?_)
    fun _ _ _ keeping => keeping
  refine Secures.ask trivial fun (anyFailed : Bool) _ _ => ?_
  obtain ⟨config, vouched⟩ := keeping
  split
  · have restores : Secures (questions session.config kernel trusted)
        (do if (← get).member.isRoot then relink else return false) later.Besides later () := by
      refine Secures.get ?_
      split
      · exact config ▸ secures_relink later kernel
      · exact Secures.pure rfl
    refine secures_observing _ restores fun outcome last _ same => ?_
    have vouched := vouched.of_besides same
    have config : last.config = session.config := (congrArg Prod.fst same).trans config
    refine Secures.bind (Keeping kernels trusted session.config)
      (secures_agree trivial fun _ _ _ => ⟨config, vouched⟩) ?_ fun _ _ _ keeping => keeping
    rintro relinked last _ ⟨config, vouched⟩
    refine Secures.ask trivial fun (anyRelinked : Bool) _ _ => ?_
    split
    · rw [← config]
      refine Secures.get ((secures_loadFresh ?_ ?_ vouched).mono fun _ _ _ opened => opened.1)
      · rw [vouched.layout]
        exact List.mem_cons_of_mem _ List.mem_cons_self
      · rw [vouched.layout]
        exact List.mem_cons_self
    · exact Secures.pure ⟨config, vouched⟩
  · exact Secures.pure ⟨config, vouched⟩

/-- A kernel that is built is found in a trusted image. -/
theorem secures_buildAndLoad (vouched : Vouched kernels trusted session) :
    Secures (questions session.config kernel trusted) (buildAndLoad kernel)
      (fun outcome later last => Keeping kernels trusted session.config outcome later last ∧
        ∀ symbol, outcome = .ok symbol → Found trusted kernel symbol) session () := by
  have builds : Secures (questions session.config kernel trusted)
      (do if (← get).member.isRoot then build kernel else return ()) session.Besides session () := by
    refine Secures.get ?_
    split
    · exact secures_build session kernel
    · exact Secures.pure rfl
  refine secures_observing _ builds fun built later _ same => ?_
  have vouched := vouched.of_besides same
  have config : later.config = session.config := congrArg Prod.fst same
  refine Secures.bind (Keeping kernels trusted session.config)
    (secures_agree trivial fun _ _ _ => ⟨config, vouched⟩) ?_
    fun _ _ _ keeping => ⟨keeping, fun _ same => nomatch same⟩
  rintro _ later _ ⟨config, vouched⟩
  rw [← config]
  refine Secures.get ((secures_loadFresh ?_ ?_ vouched).mono ?_)
  · rw [vouched.layout]
    simp [Asks]
  · rw [vouched.layout]
    simp [Asks]
  · rintro outcome last _ ⟨keeping, found⟩
    refine ⟨keeping, fun symbol same => ?_⟩
    obtain ⟨image, trust, used⟩ := found symbol same
    exact ⟨image, trust, find?_of_taken used⟩

theorem secures_find (listed : kernels kernel) (vouched : Vouched kernels trusted session) :
    Secures (questions session.config kernel trusted) (find kernel)
      (fun outcome later last => Keeping kernels trusted session.config outcome later last ∧
        ∀ symbol, outcome = .ok symbol → FoundFor kernels trusted kernel.hash symbol)
      session () := by
  have remembers : ∀ {later : Session} {symbol : KernelSymbol}, later.config = session.config →
      Vouched kernels trusted later → Found trusted kernel symbol →
      Secures (questions session.config kernel trusted) (do
          modify fun session => { session with cache := session.cache.remember kernel.hash symbol }
          return symbol)
        (fun outcome later last => Keeping kernels trusted session.config outcome later last ∧
          ∀ symbol, outcome = .ok symbol → FoundFor kernels trusted kernel.hash symbol)
        later () := by
    intro later symbol config vouched found
    have foundFor : FoundFor kernels trusted kernel.hash symbol := ⟨kernel, listed, rfl, found⟩
    refine Secures.modify (Secures.pure ⟨⟨config, vouched.remember foundFor⟩, fun value same => ?_⟩)
    exact Except.ok.inj same ▸ foundFor
  have builds : Secures (questions session.config kernel trusted) (do
        let symbol ← buildAndLoad kernel
        modify fun session => { session with cache := session.cache.remember kernel.hash symbol }
        return symbol)
      (fun outcome later last => Keeping kernels trusted session.config outcome later last ∧
        ∀ symbol, outcome = .ok symbol → FoundFor kernels trusted kernel.hash symbol)
      session () := by
    refine Secures.bind _ (secures_buildAndLoad vouched) ?_ ?_
    · rintro symbol later _ ⟨⟨config, vouched⟩, found⟩
      exact remembers config vouched (found symbol rfl)
    · rintro failure later _ ⟨keeping, -⟩
      exact ⟨keeping, fun _ same => nomatch same⟩
  refine Secures.get (Secures.ask trivial fun (anyoneMissed : Bool) _ _ => ?_)
  cases here : session.cache.resolve? kernel.symbol with
  | none => exact builds
  | some symbol =>
    cases anyoneMissed with
    | true => exact builds
    | false => exact remembers rfl vouched (vouched.found here)

/-- **A lookup asks nothing else**, and where every image that is opened is trusted, what it keeps
and what it returns comes from trusted images. -/
theorem secures_lookup (listed : kernels kernel) (vouched : Vouched kernels trusted session) :
    Secures (questions session.config kernel trusted) (lookup kernel)
      (fun outcome later last => Keeping kernels trusted session.config outcome later last ∧
        ∀ symbol, outcome = .ok symbol → FoundFor kernels trusted kernel.hash symbol)
      session () := by
  refine Secures.get ?_
  cases remembered : session.cache.remembered? kernel.hash with
  | some symbol =>
    obtain ⟨newer, older, memo, -⟩ := List.lookup_eq_some_iff.mp remembered
    have kept : (kernel.hash, symbol) ∈ session.cache.memo :=
      memo ▸ List.mem_append_right _ List.mem_cons_self
    refine Secures.pure ⟨⟨rfl, vouched⟩, fun value same => ?_⟩
    exact Except.ok.inj same ▸ vouched.memo _ _ kept
  | none =>
    refine Secures.get ?_
    cases session.cache.probed with
    | true => exact secures_find listed vouched
    | false =>
      refine Secures.bind _ (secures_probeLibrary vouched) ?_ fun _ _ _ keeping =>
        ⟨keeping, fun _ same => nomatch same⟩
      rintro _ later _ ⟨config, vouched⟩
      rw [← config]
      exact secures_find listed vouched

/-! ### What a lookup leaves alone -/

/-- What a session has from its creation on. -/
def origin (session : Session) : Config × Member :=
  (session.config, session.member)

theorem origin_of_besides {first second : Session} (same : first.besides = second.besides) :
    first.origin = second.origin :=
  congrArg (fun parts => (parts.1, parts.2.1)) same

theorem leaves_observing {step : SessionM α} (leaves : Leaves origin step) :
    Leaves origin (observing step) :=
  fun session => Fulfils.bind (leaves session) fun _ _ same => same

theorem leaves_resolved (outcome : Except Failure α) : Leaves origin (resolved outcome) :=
  fun _ => rfl

theorem leaves_agree (outcome : Except Failure α) : Leaves origin (agree outcome) :=
  .bind (.perform _) fun _ => .get fun _ => leaves_resolved _

theorem leaves_onCache (step : CacheM α) : Leaves origin (onCache step) :=
  fun _ => Fulfils.bind (Fulfils.of_open (fun _ _ => trivial) _) fun _ _ _ => rfl

theorem leaves_loadFresh (path : Path) (use : Image → Except Failure α) :
    Leaves origin (loadFresh path use) := by
  refine .bind (leaves_observing (.bind (leaves_onCache _) fun _ => leaves_resolved _)) fun loaded => ?_
  refine .bind (leaves_observing (leaves_agree loaded)) fun agreed => .get fun session => ?_
  split
  · exact .bind (.perform _) fun _ => leaves_resolved _
  · exact leaves_resolved _

theorem leaves_probeLibrary : Leaves origin probeLibrary := by
  refine .bind (leaves_onCache _) fun loaded => .bind (.perform _) fun (anyFailed : Bool) => ?_
  split
  · refine .get fun session => .bind (leaves_observing ?_) fun outcome => ?_
    · split
      · exact .of_keeps (keeps_relink.weaken origin_of_besides)
      · exact .pure _
    · refine .bind (leaves_agree outcome) fun relinked => .bind (.perform _) fun (any : Bool) => ?_
      split
      · exact .get fun session => leaves_loadFresh _ _
      · exact .pure _
  · exact .pure _

theorem leaves_buildAndLoad (kernel : Kernel) : Leaves origin (buildAndLoad kernel) := by
  refine .get fun session => .bind (leaves_observing ?_) fun built => ?_
  · split
    · exact .of_keeps ((keeps_build kernel).weaken origin_of_besides)
    · exact .pure _
  · exact .bind (leaves_agree built) fun _ => .get fun session => leaves_loadFresh _ _

theorem leaves_find (kernel : Kernel) : Leaves origin (find kernel) := by
  refine .get fun session => .bind (.perform _) fun (anyoneMissed : Bool) => ?_
  have remembers (symbol : KernelSymbol) : Leaves origin (do
      modify fun session => { session with cache := session.cache.remember kernel.hash symbol }
      return symbol) := .bind (.modify fun _ => rfl) fun _ => .pure _
  have builds := Leaves.bind (leaves_buildAndLoad kernel) remembers
  cases session.cache.resolve? kernel.symbol with
  | none => exact builds
  | some symbol =>
    cases anyoneMissed with
    | true => exact builds
    | false => exact remembers symbol

/-- **A lookup leaves the settings and the membership** of its session as they are. -/
theorem leaves_lookup (kernel : Kernel) : Leaves origin (lookup kernel) := by
  refine .get fun session => ?_
  cases session.cache.remembered? kernel.hash with
  | some symbol => exact .pure symbol
  | none =>
    refine .get fun session => ?_
    cases session.cache.probed with
    | true => exact leaves_find kernel
    | false => exact .bind leaves_probeLibrary fun _ => leaves_find kernel

end Session

end KernelCache
