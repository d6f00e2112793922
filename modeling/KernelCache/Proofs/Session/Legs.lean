import KernelCache.Proofs.Session.Founding
import KernelCache.Proofs.Session.Trace

/-
**The legs of a lookup.**

Between two exchanges with the group a member is on one leg of a lookup, and the combined flag of an
exchange alone decides which leg comes next. On some legs images are opened, on others commands are
run; on none both.

* `Leg.next`: the leg behind an exchange.
* `Errand.march`: the contract of a lookup. `Errand.Asks` says what may be asked on each leg, and
  what the flag that a member raises stands for.
* `Line.Made before steps tidied line`: since a line was as it was before, all commands of the steps
  were acknowledged, and only the tidied files were removed.
* `Errand.Kept`: what the root has done on the legs on which images are opened, and
  `Errand.kept_answer`: it keeps to that.
* **`Errand.secures_lookup`**: every lookup fulfils the contract, and ends when its legs are over.
-/

namespace KernelCache

open KernelCache.Action

/-- The legs of a lookup, each of them up to an exchange. -/
inductive Leg where
  /-- The members look at the library. -/
  | looking
  /-- The root restores the library from the archive. -/
  | restoring
  /-- The root is about to tell whether it did. -/
  | restored
  /-- The members open the restored library. -/
  | reloading
  /-- The members search their images. -/
  | searching
  /-- The root builds the kernel. -/
  | building
  /-- The members open the image of the kernel. -/
  | loading
  /-- No exchange is left; the symbol was found or not. -/
  | ended (found : Bool)
  deriving DecidableEq

namespace Leg

/-- The leg behind an exchange, from the combined flag. -/
def next : Leg → Bool → Leg
  | looking, anyFailed => if anyFailed then restoring else searching
  | restoring, anyFailed => if anyFailed then ended false else restored
  | restored, anyRelinked => if anyRelinked then reloading else searching
  | reloading, anyFailed => if anyFailed then ended false else searching
  | searching, anyoneMissed => if anyoneMissed then building else ended true
  | building, anyFailed => if anyFailed then ended false else loading
  | loading, anyFailed => ended (!anyFailed)
  | ended found, _ => ended found

/-- No exchange is left. -/
def isOver : Leg → Bool
  | ended _ => true
  | _ => false

/-- The root runs commands. -/
def Works (leg : Leg) : Prop := leg = restoring ∨ leg = building

/-- The image that is opened. -/
def opens? (config : Config) (kernel : Kernel) : Leg → Option Path
  | looking => some config.layout.library
  | reloading => some config.layout.relinked
  | loading => some (config.layout.image kernel)
  | _ => none

end Leg

/-- Where a member stands in a lookup: its leg, and the line to its worker. -/
structure Stand where
  leg : Leg
  line : Line

namespace Line

/-- What has happened on a line since it was as it was before: commands were handed over, and of the
files only the tidied ones were removed. -/
structure Since (before : Line) (tidied : List Path) (line : Line) : Prop where
  handed : before.handed <+: line.handed
  asked : ∃ events, line.asked = before.asked ++ events ∧
    ∀ event ∈ events, ∀ path, event.effect = .remove path → path ∈ tidied

/-- Every command is acknowledged. -/
structure Calm (line : Line) : Prop where
  word : line.word = Channel.readyWord
  acknowledged : ∀ entry ∈ line.handed, entry.2 = .acknowledged

/-- All commands of the steps were acknowledged, and none has failed or is in flight. -/
structure Made (before : Line) (steps : Except Failure (List (Step × Bytes))) (tidied : List Path)
    (line : Line) : Prop where
  calm : line.Calm
  handed : ∃ listed earlier, steps = .ok listed ∧
    line.handed = before.handed ++ earlier ++ listed.map fun step => (step.2, .acknowledged)
  since : before.Since tidied line

variable {before line : Line} {tidied : List Path} {event : Event}

theorem Since.refl (before : Line) : before.Since tidied before :=
  ⟨List.prefix_rfl, [], (List.append_nil _).symm, fun _ inside => (List.not_mem_nil inside).elim⟩

theorem Since.mono {more : List Path} (since : before.Since tidied line) (fewer : tidied ⊆ more) :
    before.Since more line := by
  obtain ⟨handed, events, asked, removes⟩ := since
  exact ⟨handed, events, asked, fun event inside path same => fewer (removes event inside path same)⟩

/-- Further questions, of which none removes another file. -/
theorem Since.append {later : Line} {events : List Event} (since : before.Since tidied line)
    (handed : line.handed <+: later.handed) (asked : later.asked = line.asked ++ events)
    (removes : ∀ event ∈ events, ∀ path, event.effect = .remove path → path ∈ tidied) :
    before.Since tidied later := by
  obtain ⟨handed', events', asked', removes'⟩ := since
  refine ⟨handed'.trans handed, events' ++ events, by rw [asked, asked', List.append_assoc], ?_⟩
  intro event inside
  exact (List.mem_append.mp inside).elim (removes' event) (removes event)

theorem Since.note (since : before.Since tidied line)
    (removes : ∀ path, event.effect = .remove path → path ∈ tidied) :
    before.Since tidied (line.note event) :=
  since.append List.prefix_rfl rfl fun _ inside => List.mem_singleton.mp inside ▸ removes

section Made

variable {steps : Except Failure (List (Step × Bytes))}

theorem Made.mono {more : List Path} (made : Made before steps tidied line)
    (fewer : tidied ⊆ more) : Made before steps more line :=
  ⟨made.calm, made.handed, made.since.mono fewer⟩

/-- A question that removes no other file changes nothing about it. -/
theorem Made.note (made : Made before steps tidied line)
    (removes : ∀ path, event.effect = .remove path → path ∈ tidied) :
    Made before steps tidied (line.note event) :=
  ⟨⟨made.calm.word, made.calm.acknowledged⟩, made.handed, made.since.note removes⟩

end Made

end Line

/-- A lookup of a member: whether it is the root, and its line as the lookup began. -/
structure Errand where
  config : Config
  kernel : Kernel
  root : Bool
  before : Line

namespace Errand

/-- The files that are removed before the image of the kernel is opened. -/
def tidied (errand : Errand) : List Path :=
  [errand.config.layout.relinked, errand.config.sourceFile errand.kernel,
    errand.config.layout.object errand.kernel]

/-- The library is restored in an image of its own. -/
def Restored (errand : Errand) (line : Line) : Prop :=
  Line.Made errand.before errand.config.relinkSteps [] line

/-- The kernel is built. -/
def Built (errand : Errand) (line : Line) : Prop :=
  Line.Made errand.before (errand.config.buildSteps errand.kernel) errand.tidied line

/-- What a member may ask where it stands. -/
def Asks (errand : Errand) (stand : Stand) : Effect → Prop
  | .combine flag => stand.leg.isOver = false ∧
      (stand.leg = .restored → flag = true → errand.root = true ∧ errand.Restored stand.line) ∧
      (stand.leg = .building → errand.root = true → flag = false → errand.Built stand.line)
  | .openImage path => stand.leg.opens? errand.config errand.kernel = some path
  | .present _ => True
  | .look | .fill _ | .post _ | .await _ | .writeSource _ _ => errand.root = true ∧ stand.leg.Works
  | .remove _ => errand.root = true ∧ stand.leg.opens? errand.config errand.kernel = none
  | .hire _ | .reap | .join | .kill | .release => False

/-- What it may be answered, and where it stands then. An exchange is none of the line's business;
whether the library was restored is what the root says. -/
def Answers (errand : Errand) (stand : Stand) : (effect : Effect) → effect.Reply → Stand → Prop
  | .combine flag, anyFailed, later => (flag = true → anyFailed = true) ∧
      (stand.leg = .restored → errand.root = true → anyFailed = flag) ∧
      later = { stand with leg := stand.leg.next anyFailed }
  | effect, reply, later => stand.line.Answers effect reply later.line ∧ later.leg = stand.leg

/-- The contract of a lookup. -/
def march (errand : Errand) : Contract Stand where
  asks := errand.Asks
  answers := errand.Answers

variable {α : Type} {errand : Errand} {stand later : Stand} {effect : Effect}
  {reply : effect.Reply}

theorem answers_own_iff (own : effect.isExchange = false) :
    errand.Answers stand effect reply later ↔
      stand.line.Answers effect reply later.line ∧ later.leg = stand.leg := by
  cases effect with
  | combine flag => cases own
  | _ => exact Iff.rfl

/-- A member that is not the root sends no command. -/
theorem wordless_of_asks (other : errand.root = false) (asked : errand.Asks stand effect) :
    effect ≠ .post Channel.callWord := by
  rintro rfl
  have root := asked.1
  rw [other] at root
  cases root

/-! ### What the root keeps to -/

/-- What has happened on the line of the root when images are opened. -/
def Kept (errand : Errand) (stand : Stand) : Prop :=
  match stand.leg with
  | .looking => stand.line.Silent
  | .reloading => errand.Restored stand.line
  | .loading => errand.Built stand.line
  | _ => True

/-- **The root keeps to it.** -/
theorem kept_answer (root : errand.root = true) (kept : errand.Kept stand)
    (asked : errand.Asks stand effect) (answered : errand.Answers stand effect reply later) :
    errand.Kept later := by
  obtain ⟨leg, line⟩ := stand
  obtain ⟨leg', line'⟩ := later
  -- On a leg without an opening there is nothing to keep, on the others only looks and openings.
  have quiet (noted : line' = line.note ⟨effect, reply⟩) (speaks : effect ≠ .post Channel.callWord)
      (keeps : ∀ path, effect ≠ .remove path) (same : leg' = leg) :
      errand.Kept ⟨leg', line'⟩ := by
    subst noted same
    cases leg' with
    | looking => exact Line.Silent.note kept speaks
    | reloading => exact Line.Made.note kept fun path same => absurd same (keeps path)
    | loading => exact Line.Made.note kept fun path same => absurd same (keeps path)
    | _ => trivial
  have idle (closed : leg.opens? errand.config errand.kernel = none) (same : leg' = leg) :
      errand.Kept ⟨leg', line'⟩ := by
    subst same
    cases leg' with
    | looking => cases closed
    | reloading => cases closed
    | loading => cases closed
    | _ => trivial
  have working (works : leg.Works) : leg.opens? errand.config errand.kernel = none := by
    rcases works with rfl | rfl <;> rfl
  cases effect with
  | combine flag =>
    obtain ⟨running, restored, built⟩ := asked
    obtain ⟨raised, told, same⟩ := answered
    obtain ⟨rfl, rfl⟩ := Stand.mk.inj same
    cases leg with
    | ended => cases running
    | restored =>
      cases reply with
      | false => trivial
      | true => exact (restored rfl (told rfl root).symm).2
    | building =>
      cases reply with
      | true => trivial
      | false =>
        refine built rfl root (Bool.eq_false_iff.mpr fun raises => ?_)
        exact absurd (raised raises) Bool.false_ne_true
    | _ => cases reply <;> trivial
  | openImage path => exact quiet answered.1 nofun nofun answered.2
  | present path => exact quiet answered.1 nofun nofun answered.2
  | remove path => exact idle asked.2 answered.2
  | look => exact idle (working asked.2) answered.2
  | fill command => exact idle (working asked.2) answered.2
  | post word => exact idle (working asked.2) answered.2
  | await policy => exact idle (working asked.2) answered.2
  | writeSource path text => exact idle (working asked.2) answered.2
  | _ => exact asked.elim

/-- Where no exchange is left, the leg stays. -/
theorem fulfils_over {post : α → Stand → Prop} {action : Action α} {found : Bool}
    (fulfils : action.Fulfils errand.march post stand) (ended : stand.leg = .ended found) :
    action.Fulfils errand.march (fun value last => last.leg = .ended found ∧ post value last)
      stand := by
  induction action generalizing stand with
  | done value => exact ⟨ended, fulfils⟩
  | ask effect next ih =>
    refine ⟨fulfils.1, fun reply later answered => ih reply (fulfils.2 reply later answered) ?_⟩
    cases own : effect.isExchange with
    | false => exact ((answers_own_iff own).mp answered).2.trans ended
    | true =>
      cases effect with
      | combine flag =>
        have running := fulfils.1.1
        rw [ended] at running
        cases running
      | _ => cases own

end Errand

end KernelCache
