import KernelCache.Proofs.Group.Joint
import KernelCache.Proofs.Session.Inert

/-
**After the worker of a group is gone.**

When a command has failed, or was waited for too long, the root of a group builds nothing any more.
The other members learn of it in the exchange about the build.

* `Session.Gathered members sessions`: members that met in every lookup so far.
* `Session.together_gone`: a lookup that somebody misses fails for all; who has no failure of its own
  fails because of the group.
* **`Session.Run.inert`** — every later lookup that is neither remembered nor found by all fails. The
  root hands nothing over and keeps its session, and touches no files but those of that kernel's
  build. When it can prepare the commands and write the source, its failure is that the worker is
  gone, and where there were no such files, there are none afterwards.
* `Session.Deserted.clears_files`: where there were such files, they are removed.
-/

namespace KernelCache

open KernelCache.Action

namespace Joint

variable {size : Nat} {α : Type}

/-- What a member has come through is a run of its own. -/
theorem Run.yields {before : Fin size → Action α} {values : Fin size → α}
    (run : Run before fun member => .done (values member)) (member : Fin size) :
    (before member).Yields (.only fun _ => True) () (values member) () := by
  induction run using Relation.ReflTransGen.head_induction_on with
  | refl => exact .done _ _
  | head step _ ih =>
    cases step with
    | answer other effect next own here reply =>
      by_cases same : member = other
      · subst same
        rw [Function.update_self] at ih
        rw [here]
        exact .ask trivial ih
      · rwa [Function.update_of_ne same] at ih
    | exchange someone flags next here =>
      rw [here]
      exact .ask trivial ih

/-- A member that is alone comes through with any answers, when exchanges return its own flag. -/
theorem run_single {σ : Type} {handle : (effect : Effect) → StateM σ effect.Reply}
    (own : ∀ flag state, ((handle (.combine flag)).run state).1 = flag) (action : Action α)
    (state : σ) :
    Run (fun _ : Fin 1 => action) fun _ => .done ((action.run handle).run state).1 := by
  induction action generalizing state with
  | done value => exact .refl
  | ask effect next ih =>
    let answer := (handle effect).run state
    refine .head ?_ (ih answer.1 answer.2)
    cases effect with
    | combine flag =>
      have combined : anyOf (fun _ : Fin 1 => flag) = answer.1 := by
        rw [own flag state]
        cases flag <;> rfl
      rw [← combined]
      exact .exchange _ 0 (fun _ => flag) (fun _ => next) fun _ => rfl
    | _ =>
      have single : (fun _ : Fin 1 => next answer.1) =
          Function.update (fun _ : Fin 1 => Action.ask _ next) 0 (next answer.1) := by
        funext member
        rw [Subsingleton.elim member 0, Function.update_self]
      rw [single]
      exact .answer _ 0 _ next rfl rfl answer.1

end Joint

namespace Session

variable {session : Session} {coordinator : Coordinator}

/-! ### A build for nothing -/

theorem alone_build_gone (owned : session.coordinator = some coordinator)
    (gone : coordinator.dead = true) (kernel : Kernel) :
    ((build kernel).run.run session).Alone fun result =>
      failed result.1 = true ∧ result.2 = session := by
  unfold build
  rw [run_get, run_bind]
  cases written : session.config.buildSteps kernel with
  | error failure => exact ⟨rfl, rfl⟩
  | ok steps =>
    show Alone _ ((Action.done (Except.ok steps, session)).bind _)
    rw [done_bind]
    dsimp only
    rw [run_bind, run_checkAll]
    cases steps.findSome? fun step => session.unfit? step.2 with
    | some failure => exact ⟨rfl, rfl⟩
    | none =>
      rw [done_bind]
      dsimp only
      rw [run_bind]
      refine ⟨rfl, fun stored => ?_⟩
      cases stored with
      | error fault => exact ⟨rfl, rfl⟩
      | ok value =>
        show Alone _ ((((callAll steps).run.run session).bind _).bind _)
        rw [run_callAll_gone owned gone (Line.buildSteps_ne_nil written)]
        exact ⟨rfl, fun _ => ⟨rfl, fun _ => ⟨rfl, fun _ => ⟨rfl, rfl⟩⟩⟩⟩

theorem run_lookup_unknown {kernel : Kernel} (unknown : session.Unknown kernel.hash)
    (probed : session.cache.probed = true) :
    (lookup kernel).run.run session = (find kernel).run.run session := by
  unfold lookup
  rw [run_get, unknown]
  dsimp only
  rw [run_get, probed]
  rfl

theorem run_agree {α : Type} (outcome : Except Failure α) (session : Session) :
    (agree outcome).run.run session = .ask (.combine (failed outcome)) fun (anyFailed : Bool) =>
      .done (session.member.settle outcome anyFailed, session) := rfl

/-- A build, and then the agreement of the members on what came of it. -/
theorem run_buildAndLoad (kernel : Kernel) (session : Session) :
    (buildAndLoad kernel).run.run session =
      ((if session.member.isRoot then build kernel else pure () :
          SessionM Unit).run.run session).bind fun built =>
        .ask (.combine (failed built.1)) fun (anyFailed : Bool) =>
          match built.2.member.settle built.1 anyFailed with
          | .ok _ => (loadFresh (built.2.cache.layout.image kernel) fun image =>
              match image.find? kernel.symbol with
              | some symbol => .ok symbol
              | none => .error (.symbolMissing kernel.symbol)).run.run built.2
          | .error failure => .done (.error failure, built.2) := by
  show ((observing (if session.member.isRoot then build kernel else pure ()) >>= fun built =>
    agree built >>= fun _ => _ : SessionM KernelSymbol).run.run session) = _
  rw [run_bind]
  show (((if session.member.isRoot then build kernel else pure () :
    SessionM Unit).run.run session).bind _).bind _ = _
  rw [bind_bind]
  refine congrArg (Action.bind _) (funext fun built => ?_)
  show ((agree built.1 >>= fun _ => _ : SessionM KernelSymbol).run.run built.2) = _
  rw [run_bind, run_agree]
  refine congrArg (Action.ask (Effect.combine (failed built.1))) (funext fun anyFailed => ?_)
  rw [done_bind]
  dsimp only
  generalize built.2.member.settle built.1 anyFailed = agreed
  cases agreed with
  | ok value => rfl
  | error failure => rfl

/-- What follows the exchange about a symbol when a member misses it. -/
theorem run_find_missed (kernel : Kernel) (session : Session) :
    ∃ next : Bool → Action (Except Failure KernelSymbol × Session),
      (find kernel).run.run session =
          .ask (.combine (session.cache.resolve? kernel.symbol).isNone) next ∧
        next true = ((buildAndLoad kernel).run.run session).bind fun result =>
          match result.1 with
          | .ok symbol => .done (.ok symbol, { result.2 with
              cache := result.2.cache.remember kernel.hash symbol })
          | .error failure => .done (.error failure, result.2) := by
  refine ⟨_, rfl, ?_⟩
  trans (buildAndLoad kernel >>= fun symbol => do
      modify fun session => { session with cache := session.cache.remember kernel.hash symbol }
      return symbol).run.run session
  · cases session.cache.resolve? kernel.symbol <;> rfl
  · rw [run_bind]
    refine congrArg (Action.bind _) (funext fun result => ?_)
    rcases result with ⟨failure | symbol, later⟩ <;> rfl

/-- Next to a failure elsewhere everybody fails, and who has no failure of its own for that reason. -/
theorem settle_true {α : Type} (member : Member) (outcome : Except Failure α) :
    ∃ failure, member.settle outcome true = .error failure ∧
      (failed outcome = false → failure = .sync member.rank) := by
  cases outcome with
  | ok value => exact ⟨_, rfl, fun _ => rfl⟩
  | error failure => exact ⟨_, rfl, nofun⟩

/-- In a build every member has its part, which fails for a root whose coordinator is dead, and is
none for the members that are no root. -/
theorem alone_parts_gone {count : Nat} {sessions : Fin count → Session} {root : Fin count}
    (isRoot : (sessions root).member.isRoot = true)
    (owned : (sessions root).coordinator = some coordinator) (gone : coordinator.dead = true)
    (kernel : Kernel) (member : Fin count) :
    ((if (sessions member).member.isRoot then build kernel else pure () :
        SessionM Unit).run.run (sessions member)).Alone fun result =>
      result.2.besides = (sessions member).besides ∧
        ((sessions member).member.isRoot = false → failed result.1 = false) ∧
        (member = root → failed result.1 = true ∧ result.2 = sessions root) := by
  by_cases same : member = root
  · subst same
    rw [if_pos isRoot]
    refine (alone_build_gone owned gone kernel).mono fun result ⟨fails, stays⟩ => ?_
    refine ⟨congrArg besides stays, fun other => ?_, fun _ => ⟨fails, stays⟩⟩
    exact absurd (isRoot.symm.trans other) nofun
  · cases role : (sessions member).member.isRoot with
    | true =>
      exact (keeps_build kernel (sessions member)).mono fun result besides =>
        ⟨besides, nofun, fun equal => absurd equal same⟩
    | false => exact ⟨rfl, fun _ => rfl, fun equal => absurd equal same⟩

theorem together_gone {count : Nat} {sessions : Fin count → Session} {kernel : Kernel}
    (aligned : Aligned sessions) {root : Fin count} (isRoot : (sessions root).member.isRoot = true)
    (owned : (sessions root).coordinator = some coordinator) (gone : coordinator.dead = true)
    (probed : (sessions root).cache.probed = true) (unknown : (sessions root).Unknown kernel.hash)
    (missed : ∃ member, (sessions member).cache.resolve? kernel.symbol = none) :
    Joint.Together (fun results => failed (results root).1 = true ∧ (results root).2 = sessions root ∧
        ∀ member, (sessions member).member.isRoot = false →
          (results member).1 = .error (.sync (sessions member).member.rank))
      fun member => (lookup kernel).run.run (sessions member) := by
  have unknown (member) : (sessions member).Unknown kernel.hash := by
    have same := (aligned member root).2 kernel.hash
    rw [show (sessions root).cache.remembered? kernel.hash = none from unknown] at same
    exact Option.isNone_iff_eq_none.mp (Option.isSome_eq_false_iff.mp same)
  have probed (member) : (sessions member).cache.probed = true := (aligned member root).1.trans probed
  choose next searches built using fun member => run_find_missed kernel (sessions member)
  have looks (member) := (run_lookup_unknown (unknown member) (probed member)).trans (searches member)
  have raised : (Joint.anyOf fun member =>
      ((sessions member).cache.resolve? kernel.symbol).isNone) = true := by
    obtain ⟨member, missing⟩ := missed
    exact (Joint.anyOf_eq_true_iff _).mpr ⟨member, by rw [missing]; rfl⟩
  refine .exchange _ _ next looks ?_
  rw [raised]
  simp only [built, run_buildAndLoad, bind_bind]
  refine Joint.Together.bind (.ofAlone (alone_parts_gone isRoot owned gone kernel)) fun results each => ?_
  have raised : (Joint.anyOf fun member => failed (results member).1) = true :=
    (Joint.anyOf_eq_true_iff _).mpr ⟨root, ((each root).2.2 rfl).1⟩
  refine .exchange _ (fun member => failed (results member).1) _ (fun member => rfl) ?_
  rw [raised]
  choose failure settled sync using fun member =>
    settle_true (results member).2.member (results member).1
  refine .done _ (fun member => (.error (failure member), (results member).2)) (fun member => ?_)
    ⟨rfl, ((each root).2.2 rfl).2, fun member other => ?_⟩
  · simp only [settled, done_bind]
  · have same : (results member).2.member = (sessions member).member :=
      congrArg (fun parts => parts.2.1) (each member).1
    show Except.error (failure member) = _
    rw [sync member ((each member).2.1 other), same]

/-! ### Group after group of lookups -/

/-- The members of a group, after lookups in which they met under some order of their steps. -/
inductive Gathered {count : Nat} (members : Fin count → Member) : (Fin count → Session) → Prop where
  | begun (config : Fin count → Config) (coordinator : Fin count → Option Coordinator) :
      Gathered members fun member => assemble (config member) (members member) (coordinator member)
  | lookup {sessions : Fin count → Session}
      {results : Fin count → Except Failure KernelSymbol × Session}
      (gathered : Gathered members sessions) (kernel : Kernel)
      (ran : Joint.Run (fun member => (lookup kernel).run.run (sessions member))
        fun member => .done (results member)) :
      Gathered members fun member => (results member).2

variable {count : Nat} {members : Fin count → Member} {sessions : Fin count → Session}

/-- They are aligned. -/
theorem Gathered.aligned (gathered : Gathered members sessions) : Aligned sessions := by
  induction gathered with
  | begun config coordinator => exact fun _ _ => ⟨rfl, fun _ => rfl⟩
  | lookup gathered kernel ran ih =>
    rcases ((meets_lookup ih kernel).run ran).of_done fun _ => rfl with ⟨_, _, aligned⟩ | ⟨_, aligned⟩
    · exact aligned
    · exact aligned

theorem Gathered.member (gathered : Gathered members sessions) (member : Fin count) :
    (sessions member).member = members member := by
  induction gathered with
  | begun config coordinator => rfl
  | lookup gathered kernel ran ih =>
    exact (congrArg Prod.snd ((leaves_lookup kernel).yields (ran.yields member))).trans ih

namespace Run

variable {ahead : Bool} {config : Config} {rank size : UInt32} {visits : List Visit} {line : Line}
  {kernel : Kernel}

/-- **Lookups after the worker is gone.** In a run where a command was not acknowledged, a lookup
that is not remembered, and that is missed by a member, fails, and leaves all as it is but the files
that live only while its kernel is built. In a group the other members fail because of the root. -/
theorem inert (run : Run ahead config (.ofRank rank size) visits session line)
    (broken : ∃ entry ∈ line.handed, entry.2 ≠ .acknowledged)
    (unknown : session.Unknown kernel.hash) :
    (∀ outcome later last,
      ((Session.lookup kernel).run.run session).Yields Line.dialogue line (outcome, later) last →
      line.asked ++ [line.misses kernel] <+: last.asked →
        ∃ failure, outcome = .error failure ∧ Inert session kernel line failure later last) ∧
    ∀ {count : Nat} {members : Fin count → Member} {sessions : Fin count → Session}
      {results : Fin count → Except Failure KernelSymbol × Session} (root : Fin count),
      Gathered members sessions → sessions root = session →
      (∃ member, (sessions member).cache.resolve? kernel.symbol = none) →
      Joint.Run (fun member => (Session.lookup kernel).run.run (sessions member))
        (fun member => .done (results member)) →
          failed (results root).1 = true ∧ (results root).2 = session ∧
          ∀ member, (members member).isRoot = false →
            (results member).1 = .error (.sync (members member).rank) := by
  obtain ⟨poised, -, -⟩ := run.of_unprobed
  obtain ⟨isRoot, coordinator, owned, gone⟩ := run.gone_of_broken broken
  have probed : session.cache.probed = true := by
    refine Bool.eq_false_imp_eq_true.mp fun fresh => ?_
    obtain ⟨entry, inside, -⟩ := broken
    rw [run.handed_of_unprobed fresh] at inside
    exact (List.not_mem_nil inside).elim
  constructor
  · intro outcome later last looks missed
    rw [run_lookup_unknown unknown probed] at looks
    exact (Line.secures_find_gone poised isRoot owned gone kernel).yields looks missed
  · rintro count members sessions results root gathered rfl missed ran
    have together := (together_gone gathered.aligned isRoot owned gone probed unknown missed).run ran
    obtain ⟨fails, stays, others⟩ := together.of_done fun _ => rfl
    refine ⟨fails, stays, fun member other => ?_⟩
    rw [← gathered.member member] at other ⊢
    exact others member other

end Run

end Session

/-! ### A compiler that is missing -/

namespace Line

/-- Surroundings where every command fails, and all else goes well. -/
def refuse (image : Image) : (effect : Effect) → StateM Line effect.Reply
  | .await policy => fun line =>
    if line.word = Channel.callWord then (.left (some 1),
      (line.waited line.word (.left (some 1))).note ⟨.await policy, .left (some 1)⟩)
    else (oblige image (.await policy)).run line
  | effect => oblige image effect

theorem answers_refuse (image : Image) (line : Line) (effect : Effect) :
    dialogue.answers line effect ((refuse image effect).run line).1
      ((refuse image effect).run line).2 := by
  cases effect with
  | await policy =>
    by_cases called : line.word = Channel.callWord
    · have left : (refuse image (.await policy)).run line = (.left (some 1),
        (line.waited line.word (.left (some 1))).note ⟨.await policy, .left (some 1)⟩) :=
        if_pos called
      rw [left]
      exact ⟨line.word, nofun, rfl⟩
    · have obliged : (refuse image (.await policy)).run line =
        (oblige image (.await policy)).run line := if_neg called
      rw [obliged]
      exact answers_oblige image line (.await policy)
  | _ => exact answers_oblige image line _

theorem refuse_combine (image : Image) (flag : Bool) (line : Line) :
    ((refuse image (.combine flag)).run line).1 = flag := rfl

end Line

namespace Session.Deserted

def image : Image := ⟨7, [("f", ⟨3, "f"⟩)]⟩

def first : Kernel := ⟨1, "f", "int f(void){return 1;}"⟩

def second : Kernel := ⟨2, "g", "int g(void){return 2;}"⟩

/-- The session that is created, -/
def session : Session := assemble {} (.ofRank 0 1) (some { policy := ({} : Config).poll.policy })

def begun : Except Failure Session × Line :=
  ((create false {} (.ofRank 0 1)).run.run (Line.refuse image)).run {}

/-- and two lookups in it, of which the first one loses the worker. -/
def looked (kernel : Kernel) (session : Session) (line : Line) :
    (Except Failure KernelSymbol × Session) × Line :=
  (((lookup kernel).run.run session).run (Line.refuse image)).run line

def lost : (Except Failure KernelSymbol × Session) × Line := looked first session begun.2

def again : (Except Failure KernelSymbol × Session) × Line := looked second lost.1.2 lost.2

theorem yields_looked (kernel : Kernel) (session : Session) (line : Line) :
    ((lookup kernel).run.run session).Yields Line.dialogue line (looked kernel session line).1
      (looked kernel session line).2 :=
  yields_run (Line.answers_refuse image) _ _

theorem run_lost : Run false {} (.ofRank 0 1) [⟨first, session, begun.2, lost.2⟩] lost.1.2 lost.2 :=
  have creates : (create false {} (.ofRank 0 1)).run.Yields Line.dialogue {} begun.1 begun.2 :=
    yields_run (Line.answers_refuse image) _ _
  .lookup (.created creates) first (yields_looked first session begun.2)

/-- What the second lookup asks. -/
def futile : List Event :=
  ⟨.combine true, true⟩ ::
    ⟨.writeSource (({} : Config).sourceFile second) (Bytes.ofString second.source), .ok ()⟩ ::
    ((passing {} second).map fun path => (⟨.remove path, ()⟩ : Event)) ++ [⟨.combine true, true⟩]

/-- One evaluation of the two lookups serves all that is read off them. -/
theorem seen :
    (∃ entry ∈ lost.2.handed, entry.2 ≠ .acknowledged) ∧
      lost.1.2.cache.remembered? second.hash = none ∧
      lost.1.2.cache.resolve? second.symbol = none ∧
      lost.2.misses second = ⟨.combine true, true⟩ ∧
      again.2.asked = lost.2.asked ++ futile ∧ again.1.1 = .error .workerGone := by
  decide +kernel

/-- In a group of one, the first lookup was such a run. -/
theorem gathered_lost : Gathered (fun _ : Fin 1 => .ofRank 0 1) fun _ => lost.1.2 :=
  .lookup (.begun (fun _ => {}) fun _ => some { policy := ({} : Config).poll.policy }) first
    (Joint.run_single (Line.refuse_combine image) _ begun.2)

/-- The second lookup fails, as the worker is gone, and so it does in a group. -/
theorem inert_second :
    again.1.1 = .error .workerGone ∧
      (∃ failure, again.1.1 = .error failure ∧
        Inert lost.1.2 second lost.2 failure again.1.2 again.2) ∧
      ∃ results : Fin 1 → Except Failure KernelSymbol × Session,
        Joint.Run (fun _ => (lookup second).run.run lost.1.2) (fun member => .done (results member)) ∧
          failed (results 0).1 = true ∧ (results 0).2 = lost.1.2 := by
  obtain ⟨broken, unknown, unfound, misses, asked, gone⟩ := seen
  have missed : lost.2.asked ++ [lost.2.misses second] <+: again.2.asked := by
    rw [asked, misses]
    exact (List.prefix_append_right_inj _).mpr ⟨futile.tail, rfl⟩
  obtain ⟨alone, grouped⟩ := run_lost.inert broken unknown
  have together :=
    Joint.run_single (Line.refuse_combine image) ((lookup second).run.run lost.1.2) lost.2
  obtain ⟨fails, stays, -⟩ := grouped 0 gathered_lost rfl ⟨0, unfound⟩ together
  exact ⟨gone, alone _ _ _ (yields_looked second lost.1.2 lost.2) missed, _, together, fails, stays⟩

/-- **An object that lay there is removed** by the second lookup, though the worker is gone. -/
theorem clears_files :
    Run false {} (.ofRank 0 1) [⟨first, session, begun.2, lost.2⟩] lost.1.2 lost.2 ∧
      (∃ entry ∈ lost.2.handed, entry.2 ≠ .acknowledged) ∧ lost.1.2.Unknown second.hash ∧
      ((lookup second).run.run lost.1.2).Yields Line.dialogue lost.2 again.1 again.2 ∧
      again.2.asked = lost.2.asked ++ futile ∧
      ∃ shelf later : Shelf, shelf.Becomes futile later ∧
        shelf.find? (({} : Config).layout.object second) = some .scrap ∧
        later.find? (({} : Config).layout.object second) = none := by
  obtain ⟨broken, unknown, -, -, asked, -⟩ := seen
  refine ⟨run_lost, broken, unknown, yields_looked second lost.1.2 lost.2, asked,
    Shelf.empty.put (({} : Config).layout.object second) (some .scrap), _,
    ⟨_, rfl, _, rfl, _, rfl, _, rfl, _, rfl, _, rfl, rfl⟩, Shelf.find?_put_same rfl, ?_⟩
  have image : (({} : Config).layout.object second).components ≠
      (({} : Config).layout.image second).components := by decide +kernel
  rw [Shelf.find?_put_of_ne image, Shelf.find?_put_same rfl]

end Session.Deserted

end KernelCache
