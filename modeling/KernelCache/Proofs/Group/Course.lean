import KernelCache.Proofs.Group.Joint
import KernelCache.Proofs.Session.March

/-
**The course of a group.**

Members that look the same kernels up share a course: the leg that all of them are on, the kernels
ahead, and the hashes that all remember. Between two exchanges a member may end one lookup and begin
the next, at its own pace; only an exchange changes the course.

* `Course.Rests`: a member between two lookups. `Course.Rides`: a member within one.
* `Course.rests_fresh`, `Course.rides_lookup`, `Course.Rides.answer` and `Course.Rides.rests`: what a
  member does by itself keeps it on the course.
* **`Course.exchange`**: behind an exchange the members share a course again.
* `Course.Rides.opens`: an image is opened on its leg, and then the root has kept to its part.
-/

namespace KernelCache

open KernelCache.Action

/-- What is left of a lookup. -/
abbrev Search := Action (Except Failure KernelSymbol × Session)

/-- What the members of a group have in common between two exchanges. -/
structure Course where
  leg : Leg
  /-- The kernels from the next one on that has to be searched for. -/
  ahead : List Kernel
  /-- The hashes that are remembered. -/
  known : UInt64 → Bool

namespace Course

/-- The kernels from the first one on that is not known. -/
def skip (known : UInt64 → Bool) (kernels : List Kernel) : List Kernel :=
  kernels.dropWhile fun kernel => known kernel.hash

variable {course : Course} {config : Config} {root : Bool} {ahead : List Kernel}
  {before line : Line} {session : Session} {action : Search}

/-- A member between two lookups. -/
structure Rests (course : Course) (config : Config) (root : Bool) (ahead : List Kernel)
    (session : Session) (line : Line) : Prop where
  poised : Session.Poised root session line
  settings : session.config = config
  member : session.member.isRoot = root
  known : ∀ hash, (session.cache.remembered? hash).isSome = course.known hash
  outset : course.leg = Errand.outset session
  ahead : skip course.known ahead = course.ahead
  /-- Before the library was looked at, nothing has happened. -/
  fresh : course.leg = .looking → (∀ hash, course.known hash = false) ∧ (root = true → line.Silent)

/-- A member within a lookup. -/
inductive Rides (course : Course) (config : Config) (root : Bool) (ahead : List Kernel)
    (before line : Line) (action : Search) : Prop where
  /-- It comes to the next exchange of the group. -/
  | within (kernel : Kernel) (session : Session) (here : course.ahead = kernel :: ahead)
      (running : course.leg.isOver = false)
      (known : ∀ hash, (session.cache.remembered? hash).isSome = course.known hash)
      (marches : action.Fulfils (Errand.mk config kernel root before).march
        (fun result => (Errand.mk config kernel root before).Concludes root session result.2)
        ⟨course.leg, line⟩)
      (kept : root = true → (Errand.mk config kernel root before).Kept ⟨course.leg, line⟩) :
      Rides course config root ahead before line action
  /-- It comes to the end of the lookup before any exchange. -/
  | leaving (kernel : Kernel) (found : Bool) (searching : course.leg = .searching)
      (rests : action.Fulfils (Errand.mk config kernel root before).march
        (fun result last => course.Rests config root ahead result.2 last.line)
        ⟨.ended found, line⟩) :
      Rides course config root ahead before line action

/-! ### What a member does by itself -/

/-- The course as the members set out. -/
def fresh (kernels : List Kernel) : Course where
  leg := .looking
  ahead := kernels
  known _ := false

/-- **A new session** is at the beginning of the course. -/
theorem rests_fresh {rank size : UInt32}
    (founds : Session.Founds config (.ofRank rank size) (.done (.ok session)) line) :
    (fresh ahead).Rests config (rank == 0) ahead session line := by
  obtain ⟨poised, handed, settings, probed⟩ := founds.created session rfl
  obtain ⟨member, memo, -⟩ := founds.blank session rfl
  refine ⟨poised, settings, by rw [member]; rfl, fun hash => ?_, ?_, ?_, fun _ =>
    ⟨fun _ => rfl, fun _ => founds.silent⟩⟩
  · rw [Cache.remembered?, memo]
    rfl
  · rw [Errand.outset, probed]
    rfl
  · cases ahead <;> rfl

theorem isOver_outset (session : Session) : (Errand.outset session).isOver = false := by
  unfold Errand.outset
  split <;> rfl

/-- **A lookup begins.** What is remembered is at hand; else it is the next kernel of the group. -/
theorem rides_lookup {kernel : Kernel} (rests : course.Rests config root (kernel :: ahead) session
    line) : course.Rides config root ahead line line ((Session.lookup kernel).run.run session) := by
  cases known : course.known kernel.hash with
  | true =>
    have remembered := (rests.known kernel.hash).trans known
    obtain ⟨symbol, remembered⟩ := Option.isSome_iff_exists.mp remembered
    have skips : skip course.known (kernel :: ahead) = skip course.known ahead :=
      List.dropWhile_cons_of_pos known
    rw [Session.run_lookup_remembered remembered]
    refine .leaving kernel false ?_ ⟨rests.poised, rests.settings, rests.member, rests.known,
      rests.outset, skips.symm.trans rests.ahead, rests.fresh⟩
    have outset := rests.outset
    unfold Errand.outset at outset
    split at outset
    · exact outset
    · rw [(rests.fresh outset).1 kernel.hash] at known
      cases known
  | false =>
    have unknown : session.cache.remembered? kernel.hash = none :=
      Option.isNone_iff_eq_none.mp (Option.isSome_eq_false_iff.mp ((rests.known _).trans known))
    have stays : skip course.known (kernel :: ahead) = kernel :: ahead :=
      List.dropWhile_cons_of_neg (by rw [known]; exact Bool.false_ne_true)
    refine .within kernel session (rests.ahead.symm.trans stays) ?_ rests.known ?_ fun isRoot => ?_
    · exact rests.outset ▸ isOver_outset session
    · rw [rests.outset]
      exact @Errand.secures_lookup ⟨config, kernel, root, line⟩ root session
        ⟨rests.poised, rests.settings, rests.member⟩ unknown
    · cases leg : course.leg with
      | looking => exact (rests.fresh leg).2 isRoot
      | searching => trivial
      | _ =>
        have outset := rests.outset
        unfold Errand.outset at outset
        rw [leg] at outset
        split at outset <;> cases outset

/-- **A question of its own** keeps a member on the course. -/
theorem Rides.answer {effect : Effect} {next : effect.Reply → Search} {reply : effect.Reply}
    {later : Line} (rides : course.Rides config root ahead before line (.ask effect next))
    (own : effect.isExchange = false) (answered : line.Answers effect reply later) :
    course.Rides config root ahead before later (next reply) := by
  cases rides with
  | within kernel session here running known marches kept =>
    have answered : (Errand.mk config kernel root before).Answers ⟨course.leg, line⟩ effect reply
      ⟨course.leg, later⟩ := (Errand.answers_own_iff own).mpr ⟨answered, rfl⟩
    refine .within kernel session here running known (marches.2 reply _ answered) fun isRoot => ?_
    exact Errand.kept_answer isRoot (kept isRoot) marches.1 answered
  | leaving kernel found searching rests =>
    have answered : (Errand.mk config kernel root before).Answers ⟨.ended found, line⟩ effect reply
      ⟨.ended found, later⟩ := (Errand.answers_own_iff own).mpr ⟨answered, rfl⟩
    exact .leaving kernel found searching (rests.2 reply _ answered)

/-- A member that is not the root sends no command. -/
theorem Rides.wordless {effect : Effect} {next : effect.Reply → Search}
    (rides : course.Rides config root ahead before line (.ask effect next)) (other : root = false) :
    effect ≠ .post Channel.callWord := by
  cases rides with
  | within kernel session here running known marches => exact Errand.wordless_of_asks other marches.1
  | leaving kernel found searching rests => exact Errand.wordless_of_asks other rests.1

/-- **A lookup ends** when no exchange is left in it. -/
theorem Rides.rests {result : Except Failure KernelSymbol × Session}
    (rides : course.Rides config root ahead before line (.done result)) :
    course.Rests config root ahead result.2 line := by
  cases rides with
  | within kernel session here running known marches =>
    obtain ⟨found, ended, -⟩ : (Errand.mk config kernel root before).Concludes root session result.2
      ⟨course.leg, line⟩ := marches
    rw [show course.leg = .ended found from ended] at running
    cases running
  | leaving kernel found searching rests => exact rests

/-! ### Exchanges -/

/-- The course behind an exchange. -/
def after (course : Course) (kernel : Kernel) (rest : List Kernel) (anyFailed : Bool) : Course :=
  match course.leg.next anyFailed with
  | .ended found =>
    let known := fun hash => course.known hash || (found && hash == kernel.hash)
    { leg := .searching, ahead := skip known rest, known }
  | leg => { course with leg }

/-- Behind the last exchange of a lookup a member is on its way out of it. -/
theorem Rides.exchange {kernel : Kernel} {anyFailed flag : Bool} {next : Bool → Search}
    (rides : course.Rides config root ahead before line (.ask (.combine flag) next))
    (here : course.ahead = kernel :: ahead) (raised : flag = true → anyFailed = true)
    (told : course.leg = .restored → root = true → anyFailed = flag) :
    (course.after kernel ahead anyFailed).Rides config root ahead before line (next anyFailed) := by
  cases rides with
  | leaving kernel found searching rests =>
    have running := rests.1.1
    cases running
  | within kernel' session here' running known marches kept =>
    obtain rfl : kernel = kernel' := (List.cons.inj (here.symm.trans here')).1
    have answered : (Errand.mk config kernel root before).Answers ⟨course.leg, line⟩
      (.combine flag) anyFailed ⟨course.leg.next anyFailed, line⟩ := ⟨raised, told, rfl⟩
    have asked : (Errand.mk config kernel root before).Asks ⟨course.leg, line⟩ (.combine flag) :=
      marches.1
    have further := marches.2 anyFailed _ answered
    have kept (isRoot : root = true) := Errand.kept_answer isRoot (kept isRoot) asked answered
    unfold after
    split
    case h_1 found ended =>
      rw [ended] at further
      refine .leaving kernel found rfl ((Errand.fulfils_over further rfl).mono ?_)
      rintro result last ⟨ended, found', ended', abides, probed, remembered⟩
      obtain rfl := Leg.ended.inj (ended.symm.trans ended')
      refine ⟨abides.poised, abides.settings, abides.root, fun hash => ?_, ?_, rfl, nofun⟩
      · rw [remembered hash, known hash]
      · unfold Errand.outset
        rw [if_pos probed]
    case h_2 leg running =>
      refine .within kernel session here ?_ known further kept
      cases leg : course.leg.next anyFailed with
      | ended found => exact absurd leg (running found)
      | _ => rfl

/-- A flag that is raised about the restored library is the root's. -/
theorem Rides.raised {flag : Bool} {next : Bool → Search}
    (rides : course.Rides config root ahead before line (.ask (.combine flag) next))
    (leg : course.leg = .restored) (raised : flag = true) : root = true := by
  cases rides with
  | within kernel session here running known marches => exact (marches.1.2.1 leg raised).1
  | leaving kernel found searching => cases leg.symm.trans searching

/-- Who comes to an exchange is at the next kernel of the group. -/
theorem Rides.ahead_eq_cons {flag : Bool} {next : Bool → Search}
    (rides : course.Rides config root ahead before line (.ask (.combine flag) next)) :
    ∃ kernel, course.ahead = kernel :: ahead := by
  cases rides with
  | within kernel session here => exact ⟨kernel, here⟩
  | leaving kernel found searching rests =>
    have running := rests.1.1
    cases running

theorem after_ahead_suffix (course : Course) {kernel : Kernel} {rest : List Kernel}
    (here : course.ahead = kernel :: rest) (anyFailed : Bool) :
    (course.after kernel rest anyFailed).ahead <:+ course.ahead := by
  unfold after
  split
  · rw [here]
    exact (List.dropWhile_suffix _).trans (List.suffix_cons kernel rest)
  · exact List.suffix_rfl

/-- **Behind an exchange the members share a course again**, if one of them at most is the root. -/
theorem exchange {size : Nat} {root : Fin size → Bool} {ahead : Fin size → List Kernel}
    {before line : Fin size → Line} {flags : Fin size → Bool} {next : Fin size → Bool → Search}
    (only : ∀ first second, root first = true → root second = true → first = second)
    (someone : Fin size)
    (rides : ∀ member, course.Rides config (root member) (ahead member) (before member)
      (line member) (.ask (.combine (flags member)) (next member))) :
    ∃ later : Course, later.ahead <:+ course.ahead ∧
      ∀ member, later.Rides config (root member) (ahead member) (before member) (line member)
        (next member (Joint.anyOf flags)) := by
  obtain ⟨kernel, here⟩ := (rides someone).ahead_eq_cons
  refine ⟨course.after kernel (ahead someone) (Joint.anyOf flags),
    course.after_ahead_suffix here _, fun member => ?_⟩
  obtain ⟨kernel', here'⟩ := (rides member).ahead_eq_cons
  obtain ⟨rfl, same⟩ := List.cons.inj (here.symm.trans here')
  rw [same]
  refine (rides member).exchange here' (fun raised => ?_) fun leg isRoot => ?_
  · exact (Joint.anyOf_eq_true_iff _).mpr ⟨member, raised⟩
  · -- On this leg nobody raises a flag but the root, and there is no other root.
    cases flag : flags member with
    | true => exact (Joint.anyOf_eq_true_iff _).mpr ⟨member, flag⟩
    | false =>
      refine (Joint.anyOf_eq_false_iff _).mpr fun other => Bool.eq_false_iff.mpr fun raised => ?_
      obtain rfl := only other member ((rides other).raised leg raised) isRoot
      rw [flag] at raised
      cases raised

/-! ### Openings -/

/-- **An image is opened on its leg.** -/
theorem Rides.opens {path : Path} {next : Except (Path × LoadFault) Image → Search}
    (rides : course.Rides config root ahead before line (.ask (.openImage path) next)) :
    ∃ kernel, course.ahead = kernel :: ahead ∧ course.leg.opens? config kernel = some path := by
  cases rides with
  | within kernel session here running known marches => exact ⟨kernel, here, marches.1⟩
  | leaving kernel found searching rests => cases rests.1

/-- Meanwhile the root is on the same leg of the same lookup, and has kept to its part. -/
theorem Rides.kept {kernel : Kernel} {rest : List Kernel} {path : Path}
    (rides : course.Rides config true ahead before line action) (here : course.ahead = kernel :: rest)
    (opens : course.leg.opens? config kernel = some path) :
    ahead = rest ∧ (Errand.mk config kernel true before).Kept ⟨course.leg, line⟩ := by
  cases rides with
  | within kernel' session here' running known marches kept =>
    obtain ⟨rfl, rfl⟩ := List.cons.inj (here.symm.trans here')
    exact ⟨rfl, kept rfl⟩
  | leaving kernel' found searching =>
    rw [searching] at opens
    cases opens

/-- Or it has not begun its first lookup. -/
theorem Rests.kept {kernel : Kernel} {path : Path}
    (rests : course.Rests config true ahead session line)
    (opens : course.leg.opens? config kernel = some path) :
    course.leg = .looking ∧ line.Silent := by
  cases leg : course.leg with
  | looking => exact ⟨rfl, (rests.fresh leg).2 rfl⟩
  | searching => rw [leg] at opens; cases opens
  | _ =>
    have outset := rests.outset
    unfold Errand.outset at outset
    rw [leg] at outset
    split at outset <;> cases outset

end Course

end KernelCache
