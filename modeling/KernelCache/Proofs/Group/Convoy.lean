import KernelCache.Proofs.Group.Course
import KernelCache.Proofs.Group.Gathering

/-
**A group under every interleaving.**

The members of a group create sessions of their own and look the same kernels up. A member asks a
question of its own at any time; in an exchange it takes the lock, as in a gathering, and either
completes the round or sleeps until the round is over.

* `Convoy.Step` is one step of one member, `Convoy.Run` are several.
* `Convoy.Inv config kernels completed present course`: so many rounds are completed, the members in
  `present` have arrived in the current one, all members share the course, and nobody but the root
  has sent a command.
* **`Convoy.inv_step`** keeps it, and `Convoy.inv_run` holds it in every state that a group reaches.
-/

namespace KernelCache

open KernelCache.Action Session

/-- Where a member of a group stands. -/
inductive Station where
  /-- Its session is being created. -/
  | creating (creation : Action (Except Failure Session))
  /-- Between two lookups. -/
  | resting (session : Session)
  /-- Within a lookup, and in no exchange. -/
  | acting (search : Search)
  /-- It arrived at an exchange in a generation, with a flag, and sleeps. -/
  | asleep (generation : UInt64) (flag : Bool) (next : Bool → Search)
  /-- It arrived, was woken, and is about to take the lock again. -/
  | awake (generation : UInt64) (flag : Bool) (next : Bool → Search)

namespace Station

/-- A member that sleeps is woken. -/
def rouse : Station → Station
  | asleep generation flag next => awake generation flag next
  | place => place

/-- The flag that was raised in the exchange that goes on. -/
def raises : Station → Bool
  | asleep _ flag _ | awake _ flag _ => flag
  | _ => false

end Station

/-- A member of a group with the lookups that it has yet to begin. -/
structure Traveller where
  ahead : List Kernel
  /-- The line as it was when the last lookup began. -/
  before : Line
  /-- What the member has asked on its own, and the commands that it handed over. -/
  line : Line
  place : Station

namespace Traveller

/-- The member, woken if it sleeps. -/
def rouse (traveller : Traveller) : Traveller :=
  { traveller with place := traveller.place.rouse }

end Traveller

/-- The members of a group around the round that they share. -/
structure Convoy (size : UInt32) where
  round : Round
  members : Fin (Round.count size) → Traveller

namespace Convoy

variable {size : UInt32}

/-- A group whose members are about to create sessions of their own, with a worker that is hired
ahead of the group or not. -/
def start (kernels : List Kernel) (config : Config) (ahead : Fin (Round.count size) → Bool) :
    Convoy size where
  round := {}
  members member := ⟨kernels, {}, {}, .creating (create (ahead member) config
    (.ofRank (.ofNat member) (Round.groupSize size))).run⟩

/-- One member is somewhere else. -/
def move (convoy : Convoy size) (member : Fin (Round.count size)) (traveller : Traveller) :
    Convoy size :=
  { convoy with members := Function.update convoy.members member traveller }

@[simp] theorem move_self (convoy : Convoy size) (member : Fin (Round.count size))
    (traveller : Traveller) : (convoy.move member traveller).members member = traveller :=
  Function.update_self ..

/-- One step of a member. -/
inductive Step : Convoy size → Convoy size → Prop
  /-- A member goes on with the creation of its session. -/
  | prepare (convoy : Convoy size) (member : Fin (Round.count size)) (ahead : List Kernel)
      (former line later : Line) (effect : Effect)
      (next : effect.Reply → Action (Except Failure Session)) (reply : effect.Reply)
      (here : convoy.members member = ⟨ahead, former, line, .creating (.ask effect next)⟩)
      (answered : line.Answers effect reply later) :
      Step convoy (convoy.move member ⟨ahead, former, later, .creating (next reply)⟩)
  /-- A member has created its session. -/
  | enter (convoy : Convoy size) (member : Fin (Round.count size)) (ahead : List Kernel)
      (former line : Line) (session : Session)
      (here : convoy.members member = ⟨ahead, former, line, .creating (.done (.ok session))⟩) :
      Step convoy (convoy.move member ⟨ahead, former, line, .resting session⟩)
  /-- A member begins its next lookup. -/
  | look (convoy : Convoy size) (member : Fin (Round.count size)) (kernel : Kernel)
      (ahead : List Kernel) (former line : Line) (session : Session)
      (here : convoy.members member = ⟨kernel :: ahead, former, line, .resting session⟩) :
      Step convoy (convoy.move member
        ⟨ahead, line, line, .acting ((lookup kernel).run.run session)⟩)
  /-- A member goes on with an answer to a question of its own. -/
  | answer (convoy : Convoy size) (member : Fin (Round.count size)) (ahead : List Kernel)
      (former line later : Line) (effect : Effect) (next : effect.Reply → Search)
      (reply : effect.Reply) (own : effect.isExchange = false)
      (here : convoy.members member = ⟨ahead, former, line, .acting (.ask effect next)⟩)
      (answered : line.Answers effect reply later) :
      Step convoy (convoy.move member ⟨ahead, former, later, .acting (next reply)⟩)
  /-- A member ends a lookup. -/
  | rest (convoy : Convoy size) (member : Fin (Round.count size)) (ahead : List Kernel)
      (former line : Line) (outcome : Except Failure KernelSymbol) (session : Session)
      (here : convoy.members member = ⟨ahead, former, line, .acting (.done (outcome, session))⟩) :
      Step convoy (convoy.move member ⟨ahead, former, line, .resting session⟩)
  /-- A member arrives at an exchange, and falls asleep. -/
  | arrive (convoy : Convoy size) (member : Fin (Round.count size)) (ahead : List Kernel)
      (former line : Line) (flag : Bool) (next : Bool → Search) (round : Round)
      (here : convoy.members member = ⟨ahead, former, line, .acting (.ask (.combine flag) next)⟩)
      (early : convoy.round.arrive (Round.groupSize size) flag = (none, round)) :
      Step convoy ⟨round, Function.update convoy.members member
        ⟨ahead, former, line, .asleep convoy.round.generation flag next⟩⟩
  /-- A member arrives as the last one, wakes the others, and goes on. -/
  | complete (convoy : Convoy size) (member : Fin (Round.count size)) (ahead : List Kernel)
      (former line : Line) (flag anyFailed : Bool) (next : Bool → Search) (round : Round)
      (here : convoy.members member = ⟨ahead, former, line, .acting (.ask (.combine flag) next)⟩)
      (last : convoy.round.arrive (Round.groupSize size) flag = (some anyFailed, round)) :
      Step convoy ⟨round, Function.update (fun other => (convoy.members other).rouse) member
        ⟨ahead, former, line, .acting (next anyFailed)⟩⟩
  /-- A sleeper wakes, for whatever reason. -/
  | wake (convoy : Convoy size) (member : Fin (Round.count size)) (ahead : List Kernel)
      (former line : Line) (generation : UInt64) (flag : Bool) (next : Bool → Search)
      (here : convoy.members member = ⟨ahead, former, line, .asleep generation flag next⟩) :
      Step convoy (convoy.move member ⟨ahead, former, line, .awake generation flag next⟩)
  /-- A woken member takes the lock, finds its round open, and falls asleep again. -/
  | sleep (convoy : Convoy size) (member : Fin (Round.count size)) (ahead : List Kernel)
      (former line : Line) (generation : UInt64) (flag : Bool) (next : Bool → Search)
      (here : convoy.members member = ⟨ahead, former, line, .awake generation flag next⟩)
      (stays : convoy.round.leave? generation = none) :
      Step convoy (convoy.move member ⟨ahead, former, line, .asleep generation flag next⟩)
  /-- A woken member takes the lock, finds its round over, and goes on. -/
  | leave (convoy : Convoy size) (member : Fin (Round.count size)) (ahead : List Kernel)
      (former line : Line) (generation : UInt64) (flag anyFailed : Bool) (next : Bool → Search)
      (here : convoy.members member = ⟨ahead, former, line, .awake generation flag next⟩)
      (elapsed : convoy.round.leave? generation = some anyFailed) :
      Step convoy (convoy.move member ⟨ahead, former, line, .acting (next anyFailed)⟩)

/-- Several steps of a group. -/
abbrev Run : Convoy size → Convoy size → Prop := Relation.ReflTransGen Step

/-! ### The invariant -/

/-- Whether a member is the root of its group. -/
def isRoot (member : Fin (Round.count size)) : Bool :=
  UInt32.ofNat member == 0

/-- Where a member can stand when so many rounds are completed, with that outcome of the last one,
and the members in `present` have arrived in the current one. -/
inductive Stands (config : Config) (course : Course) (completed : Nat) (outcome : Bool)
    (present : Finset (Fin (Round.count size))) (member : Fin (Round.count size)) :
    Traveller → Prop where
  /-- Nothing has happened in the group yet. -/
  | creating {ahead : List Kernel} {before line : Line} {creation : Action (Except Failure Session)}
      (absent : member ∉ present) (untouched : course = .fresh ahead)
      (founds : Founds config (.ofRank (.ofNat member) (Round.groupSize size)) creation line) :
      Stands config course completed outcome present member
        ⟨ahead, before, line, .creating creation⟩
  | resting {ahead : List Kernel} {before line : Line} {session : Session}
      (absent : member ∉ present) (rests : course.Rests config (isRoot member) ahead session line) :
      Stands config course completed outcome present member ⟨ahead, before, line, .resting session⟩
  | acting {ahead : List Kernel} {before line : Line} {search : Search} (absent : member ∉ present)
      (rides : course.Rides config (isRoot member) ahead before line search) :
      Stands config course completed outcome present member ⟨ahead, before, line, .acting search⟩
  /-- It has arrived in the current round. -/
  | arrived {ahead : List Kernel} {before line : Line} {flag : Bool} {next : Bool → Search}
      (inside : member ∈ present) (place : Station)
      (within : place = .asleep (.ofNat completed) flag next ∨
        place = .awake (.ofNat completed) flag next)
      (rides : course.Rides config (isRoot member) ahead before line (.ask (.combine flag) next)) :
      Stands config course completed outcome present member ⟨ahead, before, line, place⟩
  /-- It has been woken, and has yet to leave the last completed round. -/
  | late {ahead : List Kernel} {before line : Line} {flag : Bool} {next : Bool → Search}
      (absent : member ∉ present) (previous : Nat) (last : completed = previous + 1)
      (rides : course.Rides config (isRoot member) ahead before line (next outcome)) :
      Stands config course completed outcome present member
        ⟨ahead, before, line, .awake (.ofNat previous) flag next⟩

/-- So many rounds are completed, the members in `present` have arrived in the current one, and all
share the course. -/
structure Inv (config : Config) (kernels : List Kernel) (completed : Nat)
    (present : Finset (Fin (Round.count size))) (course : Course) (convoy : Convoy size) :
    Prop where
  generation : convoy.round.generation = .ofNat completed
  arrived : convoy.round.arrived.toNat = present.card
  room : present.card < Round.count size
  raised : convoy.round.failed = true ↔ ∃ member ∈ present, (convoy.members member).place.raises
  ahead : course.ahead <:+ kernels
  stands : ∀ member, Stands config course completed convoy.round.outcome present member
    (convoy.members member)
  /-- Nobody but the root sends a command. -/
  silent : ∀ member, isRoot member = false → (convoy.members member).line.Silent

variable {config : Config} {kernels : List Kernel} {completed : Nat}
  {present : Finset (Fin (Round.count size))} {course : Course} {convoy : Convoy size}
  {member : Fin (Round.count size)} {ahead : List Kernel} {former line : Line}

theorem isRoot_iff (member : Fin (Round.count size)) : isRoot member = true ↔ member.val = 0 := by
  have small : member.val < 2 ^ 32 := member.isLt.trans (Round.groupSize size).toNat_lt
  rw [isRoot, beq_iff_eq, ← UInt32.toNat_inj, UInt32.toNat_ofNat', Nat.mod_eq_of_lt small]
  exact Iff.rfl

theorem eq_of_isRoot {first second : Fin (Round.count size)} (root : isRoot first = true)
    (other : isRoot second = true) : first = second :=
  Fin.ext (((isRoot_iff first).mp root).trans ((isRoot_iff second).mp other).symm)

theorem Inv.creating (inv : Inv config kernels completed present course convoy)
    {creation : Action (Except Failure Session)}
    (here : convoy.members member = ⟨ahead, former, line, .creating creation⟩) :
    member ∉ present ∧ course = .fresh ahead ∧
      Founds config (.ofRank (.ofNat member) (Round.groupSize size)) creation line := by
  have stands := inv.stands member
  rw [here] at stands
  cases stands with
  | creating absent untouched founds => exact ⟨absent, untouched, founds⟩
  | arrived _ _ within => rcases within with place | place <;> cases place

theorem Inv.resting (inv : Inv config kernels completed present course convoy) {session : Session}
    (here : convoy.members member = ⟨ahead, former, line, .resting session⟩) :
    member ∉ present ∧ course.Rests config (isRoot member) ahead session line := by
  have stands := inv.stands member
  rw [here] at stands
  cases stands with
  | resting absent rests => exact ⟨absent, rests⟩
  | arrived _ _ within => rcases within with place | place <;> cases place

theorem Inv.acting (inv : Inv config kernels completed present course convoy) {search : Search}
    (here : convoy.members member = ⟨ahead, former, line, .acting search⟩) :
    member ∉ present ∧ course.Rides config (isRoot member) ahead former line search := by
  have stands := inv.stands member
  rw [here] at stands
  cases stands with
  | acting absent rides => exact ⟨absent, rides⟩
  | arrived _ _ within => rcases within with place | place <;> cases place

/-- A member asleep has arrived in the current round. -/
theorem Inv.asleep (inv : Inv config kernels completed present course convoy)
    {generation : UInt64} {flag : Bool} {next : Bool → Search}
    (here : convoy.members member = ⟨ahead, former, line, .asleep generation flag next⟩) :
    member ∈ present ∧ generation = .ofNat completed ∧
      course.Rides config (isRoot member) ahead former line (.ask (.combine flag) next) := by
  have stands := inv.stands member
  rw [here] at stands
  cases stands with
  | arrived inside _ within rides =>
    rcases within with place | place <;> cases place
    exact ⟨inside, rfl, rides⟩

/-- A woken member has arrived in the current round, or is late. -/
theorem Inv.awake (inv : Inv config kernels completed present course convoy)
    {generation : UInt64} {flag : Bool} {next : Bool → Search}
    (here : convoy.members member = ⟨ahead, former, line, .awake generation flag next⟩) :
    (member ∈ present ∧ generation = .ofNat completed ∧
        course.Rides config (isRoot member) ahead former line (.ask (.combine flag) next)) ∨
      ∃ previous, completed = previous + 1 ∧ member ∉ present ∧ generation = .ofNat previous ∧
        course.Rides config (isRoot member) ahead former line (next convoy.round.outcome) := by
  have stands := inv.stands member
  rw [here] at stands
  cases stands with
  | arrived inside _ within rides =>
    rcases within with place | place <;> cases place
    exact .inl ⟨inside, rfl, rides⟩
  | late absent previous last rides => exact .inr ⟨previous, last, absent, rfl, rides⟩

theorem Inv.silence (inv : Inv config kernels completed present course convoy) {place : Station}
    (here : convoy.members member = ⟨ahead, former, line, place⟩) (other : isRoot member = false) :
    line.Silent := by
  have silent := inv.silent member other
  rw [here] at silent
  exact silent

theorem Inv.silent_update (inv : Inv config kernels completed present course convoy)
    {traveller : Traveller} (silent : isRoot member = false → traveller.line.Silent) :
    ∀ other, isRoot other = false →
      (Function.update convoy.members member traveller other).line.Silent :=
  (Function.forall_update_iff convoy.members fun other traveller =>
    isRoot other = false → traveller.line.Silent).mpr ⟨silent, fun other _ => inv.silent other⟩

/-- A step of one member that leaves the round as it is, and does not raise another flag. -/
theorem Inv.moved (inv : Inv config kernels completed present course convoy) {traveller : Traveller}
    (flag : member ∈ present → traveller.place.raises = (convoy.members member).place.raises)
    (silent : isRoot member = false → traveller.line.Silent)
    (stands : Stands config course completed convoy.round.outcome present member traveller) :
    Inv config kernels completed present course (convoy.move member traveller) := by
  have same : ∀ other ∈ present, (Function.update convoy.members member traveller other).place.raises
      = (convoy.members other).place.raises := by
    intro other inside
    by_cases equal : other = member
    · subst equal
      rw [Function.update_self, flag inside]
    · rw [Function.update_of_ne equal]
  refine { inv with
    raised := ?_
    stands := (Function.forall_update_iff _ _).mpr ⟨stands, fun other _ => inv.stands other⟩
    silent := inv.silent_update silent }
  show convoy.round.failed = true ↔ ∃ other ∈ present,
    (Function.update convoy.members member traveller other).place.raises = true
  rw [inv.raised]
  exact exists_congr fun other => and_congr_right fun inside => by rw [same other inside]

/-- The arrival of another member leaves a member where it stands. -/
theorem Stands.grown {outcome : Bool} {other : Fin (Round.count size)} {traveller : Traveller}
    (stands : Stands config course completed outcome present other traveller)
    (different : other ≠ member) :
    Stands config course completed outcome (insert member present) other traveller := by
  have absent (outside : other ∉ present) : other ∉ insert member present :=
    fun inside => (Finset.mem_insert.mp inside).elim different outside
  cases stands with
  | creating outside untouched founds => exact .creating (absent outside) untouched founds
  | resting outside rests => exact .resting (absent outside) rests
  | acting outside rides => exact .acting (absent outside) rides
  | arrived inside place within rides =>
    exact .arrived (Finset.mem_insert_of_mem inside) place within rides
  | late outside previous last rides => exact .late (absent outside) previous last rides

theorem inv_arrive (inv : Inv config kernels completed present course convoy) {flag : Bool}
    {next : Bool → Search} {round : Round}
    (here : convoy.members member = ⟨ahead, former, line, .acting (.ask (.combine flag) next)⟩)
    (early : convoy.round.arrive (Round.groupSize size) flag = (none, round)) :
    Inv config kernels completed (insert member present) course ⟨round,
      Function.update convoy.members member
        ⟨ahead, former, line, .asleep convoy.round.generation flag next⟩⟩ := by
  obtain ⟨absent, rides⟩ := inv.acting here
  obtain ⟨different, rfl⟩ := Round.arrive_early early
  obtain ⟨counted, room⟩ := Round.card_insert_of_early inv.arrived inv.room absent different
  refine ⟨inv.generation, counted, room, ?_, inv.ahead,
    (Function.forall_update_iff _ _).mpr ⟨?_, fun other distinct => ?_⟩,
    inv.silent_update (inv.silence here)⟩
  · show (convoy.round.failed || flag) = true ↔ _
    rw [Bool.or_eq_true, inv.raised, Finset.exists_mem_insert, or_comm]
    dsimp only
    rw [Function.update_self]
    refine or_congr Iff.rfl (exists_congr fun other => and_congr_right fun inside => ?_)
    have differ : other ≠ member := fun same => absent (same ▸ inside)
    rw [Function.update_of_ne differ]
  · rw [inv.generation]
    exact .arrived (Finset.mem_insert_self member present) _ (.inl rfl) rides
  · exact (inv.stands other).grown distinct

/-- A member that has arrived waits for the combined flag. -/
theorem Inv.waits (inv : Inv config kernels completed present course convoy)
    (inside : member ∈ present) : ∃ ahead before line flag next,
      (convoy.members member).rouse = ⟨ahead, before, line, .awake (.ofNat completed) flag next⟩ ∧
      (convoy.members member).place.raises = flag ∧
      course.Rides config (isRoot member) ahead before line (.ask (.combine flag) next) := by
  have stands := inv.stands member
  generalize convoy.members member = traveller at stands ⊢
  cases stands with
  | creating absent => exact absurd inside absent
  | resting absent => exact absurd inside absent
  | acting absent => exact absurd inside absent
  | late absent => exact absurd inside absent
  | @arrived ahead before line flag next _ place within rides =>
    refine ⟨ahead, before, line, flag, next, ?_, ?_, rides⟩
    · rcases within with rfl | rfl <;> rfl
    · rcases within with rfl | rfl <;> rfl

theorem inv_complete (inv : Inv config kernels completed present course convoy)
    {flag anyFailed : Bool} {next : Bool → Search} {round : Round}
    (here : convoy.members member = ⟨ahead, former, line, .acting (.ask (.combine flag) next)⟩)
    (last : convoy.round.arrive (Round.groupSize size) flag = (some anyFailed, round)) :
    ∃ later : Course, Inv config kernels (completed + 1) ∅ later ⟨round,
      Function.update (fun other => (convoy.members other).rouse) member
        ⟨ahead, former, line, .acting (next anyFailed)⟩⟩ := by
  obtain ⟨absent, rides⟩ := inv.acting here
  obtain ⟨full, rfl, rfl⟩ := Round.arrive_last last
  have others := Round.mem_of_last inv.arrived inv.room absent full
  -- Every member has come to the exchange, the last one included.
  have each (other : Fin (Round.count size)) : ∃ ahead' before line' flag' next',
      Function.update (fun other => (convoy.members other).rouse) member
        ⟨ahead, former, line, .awake (.ofNat completed) flag next⟩ other =
        ⟨ahead', before, line', .awake (.ofNat completed) flag' next'⟩ ∧
      (other ≠ member → (convoy.members other).place.raises = flag') ∧
      course.Rides config (isRoot other) ahead' before line' (.ask (.combine flag') next') := by
    by_cases same : other = member
    · subst same
      exact ⟨ahead, former, line, flag, next, Function.update_self .., fun differ => absurd rfl differ,
        rides⟩
    · obtain ⟨ahead', before, line', flag', next', roused, raises, rides'⟩ :=
        inv.waits (others other same)
      exact ⟨ahead', before, line', flag', next', (Function.update_of_ne same ..).trans roused,
        fun _ => raises, rides'⟩
  choose aheads befores lines flags nexts stood raises meets using each
  obtain ⟨rfl, rfl, rfl, rfl, rfl⟩ : ahead = aheads member ∧ former = befores member ∧
      line = lines member ∧ flag = flags member ∧ next = nexts member := by
    have own := stood member
    rw [Function.update_self] at own
    simpa using own
  have combined : (convoy.round.failed || flags member) = Joint.anyOf flags := by
    rw [Bool.eq_iff_iff, Bool.or_eq_true, inv.raised, Joint.anyOf_eq_true_iff]
    constructor
    · rintro (⟨other, inside, raised⟩ | raised)
      · rw [raises other fun same => absent (same ▸ inside)] at raised
        exact ⟨other, raised⟩
      · exact ⟨member, raised⟩
    · rintro ⟨other, raised⟩
      by_cases same : other = member
      · exact .inr (same ▸ raised)
      · rw [← raises other same] at raised
        exact .inl ⟨other, others other same, raised⟩
  obtain ⟨later, suffix, rides⟩ := Course.exchange (fun _ _ => eq_of_isRoot) member meets
  rw [combined]
  refine ⟨later, ?_, rfl, Round.count_pos size, by simp, suffix.trans inv.ahead,
    (Function.forall_update_iff _ _).mpr ⟨?_, fun other different => ?_⟩,
    (Function.forall_update_iff _ fun other (traveller : Traveller) =>
      isRoot other = false → traveller.line.Silent).mpr
        ⟨inv.silence here, fun other _ => inv.silent other⟩⟩
  · show convoy.round.generation + 1 = _
    rw [inv.generation]
    exact (UInt64.ofNat_add completed 1).symm
  · exact .acting (Finset.notMem_empty member) (rides member)
  · have stood := stood other
    rw [Function.update_of_ne different] at stood
    rw [stood]
    exact .late (Finset.notMem_empty other) completed rfl (rides other)

/-- **Every step keeps the invariant.** -/
theorem inv_step {after : Convoy size} (inv : Inv config kernels completed present course convoy)
    (step : Step convoy after) :
    ∃ completed present course, Inv config kernels completed present course after := by
  cases step with
  | prepare member ahead former line later effect next reply here answered =>
    obtain ⟨absent, untouched, founds⟩ := inv.creating here
    have founds := founds.answer answered
    exact ⟨_, _, _, inv.moved (fun inside => absurd inside absent) (fun _ => founds.silent)
      (.creating absent untouched founds)⟩
  | enter member ahead former line session here =>
    obtain ⟨absent, rfl, founds⟩ := inv.creating here
    exact ⟨_, _, _, inv.moved (fun inside => absurd inside absent) (inv.silence here)
      (.resting absent (Course.rests_fresh founds))⟩
  | look member kernel ahead former line session here =>
    obtain ⟨absent, rests⟩ := inv.resting here
    refine ⟨_, _, _, inv.moved (fun inside => absurd inside absent) (inv.silence here) ?_⟩
    exact .acting absent (Course.rides_lookup rests)
  | answer member ahead former line later effect next reply own here answered =>
    obtain ⟨absent, rides⟩ := inv.acting here
    have silent (other : isRoot member = false) : later.Silent :=
      (inv.silence here other).answer (rides.wordless other) answered
    refine ⟨_, _, _, inv.moved (fun inside => absurd inside absent) silent ?_⟩
    exact .acting absent (rides.answer own answered)
  | rest member ahead former line outcome session here =>
    obtain ⟨absent, rides⟩ := inv.acting here
    exact ⟨_, _, _, inv.moved (fun inside => absurd inside absent) (inv.silence here)
      (.resting absent rides.rests)⟩
  | arrive member ahead former line flag next round here early =>
    exact ⟨_, _, _, inv_arrive inv here early⟩
  | complete member ahead former line flag anyFailed next round here last =>
    obtain ⟨later, inv⟩ := inv_complete inv here last
    exact ⟨_, _, later, inv⟩
  | wake member ahead former line generation flag next here =>
    obtain ⟨inside, rfl, rides⟩ := inv.asleep here
    refine ⟨_, _, _, inv.moved (fun _ => ?_) (inv.silence here)
      (.arrived inside _ (.inr rfl) rides)⟩
    rw [here]
    rfl
  | sleep member ahead former line generation flag next here stays =>
    unfold Round.leave? at stays
    split at stays
    case isFalse => cases stays
    case isTrue current =>
      rcases inv.awake here with ⟨inside, rfl, rides⟩ | ⟨previous, rfl, -, rfl, -⟩
      · refine ⟨_, _, _, inv.moved (fun _ => ?_) (inv.silence here)
          (.arrived inside _ (.inl rfl) rides)⟩
        rw [here]
        rfl
      · rw [inv.generation] at current
        exact absurd current (Gathering.generation_succ_ne previous)
  | leave member ahead former line generation flag anyFailed next here elapsed =>
    unfold Round.leave? at elapsed
    split at elapsed
    case isTrue => cases elapsed
    case isFalse gone =>
      cases elapsed
      rcases inv.awake here with ⟨-, rfl, -⟩ | ⟨previous, rfl, absent, rfl, rides⟩
      · exact absurd inv.generation gone
      · exact ⟨_, _, _, inv.moved (fun inside => absurd inside absent) (inv.silence here)
          (.acting absent rides)⟩

/-! ### Runs -/

theorem inv_start (kernels : List Kernel) (config : Config)
    (ahead : Fin (Round.count size) → Bool) :
    Inv config kernels 0 ∅ (.fresh kernels) (start kernels config ahead) := by
  have founds (member : Fin (Round.count size)) :=
    founds_create (ahead member) config (.ofNat member) (Round.groupSize size)
  exact ⟨rfl, rfl, Round.count_pos size, by simp [start], List.suffix_rfl,
    fun member => .creating (Finset.notMem_empty member) rfl (founds member),
    fun member _ => (founds member).silent⟩

theorem inv_run {later : Convoy size} (inv : Inv config kernels completed present course convoy)
    (run : Run convoy later) :
    ∃ completed present course, Inv config kernels completed present course later := by
  induction run with
  | refl => exact ⟨_, _, _, inv⟩
  | tail _ last ih =>
    obtain ⟨_, _, _, inv⟩ := ih
    exact inv_step inv last

end Convoy

end KernelCache
