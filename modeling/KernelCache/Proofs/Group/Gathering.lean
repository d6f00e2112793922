import KernelCache.Group.Round
import KernelCache.Proofs.Group.Joint
import Mathlib.Data.Fintype.Card

/-
**Rounds between threads, under every interleaving.**

The members of a group take the lock one at a time. A member arrives under the lock, and either
completes the round, wakes all others and leaves, or falls asleep; a sleeper may be woken at any
time, also for no reason; a woken member takes the lock again, and leaves once the generation has
moved on.

* `Gathering.Step` is one such step, `Gathering.Run` are several.
* `Gathering.Inv rounds completed present` is the invariant: so many rounds are completed, and
  exactly the members in `present` have arrived in the current one. A member that has not left the
  last round has not arrived in the current one, so the current one cannot be completed before it
  leaves.
* `Gathering.inv_step` keeps it.
* `Gathering.rounds_answered` — **the main statement**: every exchange is answered with the combined
  flag of its own round, and the group is never stuck.
-/

namespace KernelCache

open Joint

namespace Round

/-- The number of members of a group. -/
abbrev count (size : UInt32) : Nat := (groupSize size).toNat

/-- A group always has a member. -/
theorem count_pos (size : UInt32) : 0 < count size := by
  show 0 < (if size ≤ 1 then 1 else size).toNat
  split
  · decide
  · rename_i larger
    exact Nat.lt_of_le_of_lt (Nat.zero_le _) (UInt32.not_le.mp larger)

/-- A member that is not the last one to arrive. -/
theorem arrive_early {size : UInt32} {round later : Round} {flag : Bool}
    (early : round.arrive size flag = (none, later)) :
    round.arrived + 1 ≠ size ∧
      later = { round with failed := round.failed || flag, arrived := round.arrived + 1 } := by
  dsimp only [arrive] at early
  split at early
  · cases early
  · rename_i different
    cases early
    exact ⟨different, rfl⟩

/-- The last member to arrive. -/
theorem arrive_last {size : UInt32} {round later : Round} {flag anyFailed : Bool}
    (last : round.arrive size flag = (some anyFailed, later)) :
    round.arrived + 1 = size ∧ anyFailed = (round.failed || flag) ∧
      later = { generation := round.generation + 1, outcome := round.failed || flag } := by
  dsimp only [arrive] at last
  split at last
  · rename_i same
    cases last
    exact ⟨same, rfl, rfl⟩
  · cases last

/-- The next arrival is counted without an overflow. -/
theorem toNat_arrived_succ {size : UInt32} {round : Round}
    (room : round.arrived.toNat < count size) :
    (round.arrived + 1).toNat = round.arrived.toNat + 1 := by
  have bound : count size < 2 ^ 32 := (groupSize size).toNat_lt
  rw [UInt32.toNat_add, UInt32.toNat_one]
  exact Nat.mod_eq_of_lt (by omega)

section Present

variable {size : UInt32} {round : Round} {present : Finset (Fin (count size))}
  {member : Fin (count size)}

/-- An arrival that does not complete the round is counted, and leaves room for another. -/
theorem card_insert_of_early (arrived : round.arrived.toNat = present.card)
    (room : present.card < count size) (absent : member ∉ present)
    (early : round.arrived + 1 ≠ groupSize size) :
    (round.arrived + 1).toNat = (insert member present).card ∧
      (insert member present).card < count size := by
  have counted := toNat_arrived_succ (arrived ▸ room)
  have grown : (insert member present).card = present.card + 1 :=
    Finset.card_insert_of_notMem absent
  have unequal : (round.arrived + 1).toNat ≠ count size := fun same => early (UInt32.toNat_inj.mp same)
  rw [counted, arrived] at unequal ⊢
  rw [grown]
  exact ⟨rfl, lt_of_le_of_ne room unequal⟩

/-- When the last member arrives, all others have. -/
theorem mem_of_last (arrived : round.arrived.toNat = present.card) (room : present.card < count size)
    (absent : member ∉ present) (last : round.arrived + 1 = groupSize size)
    (other : Fin (count size)) (different : other ≠ member) : other ∈ present := by
  have full : present.card + 1 = count size := by
    rw [← arrived, ← toNat_arrived_succ (arrived ▸ room), last]
  have everybody : insert member present = Finset.univ := by
    rw [← Finset.card_eq_iff_eq_univ, Finset.card_insert_of_notMem absent, full, Fintype.card_fin]
  have inside : other ∈ insert member present := everybody ▸ Finset.mem_univ other
  exact (Finset.mem_insert.mp inside).resolve_left different

end Present

end Round

/-- Where a member of a group stands. -/
inductive Whereabouts where
  /-- It is in no exchange. -/
  | outside
  /-- It arrived in a generation and sleeps. -/
  | asleep (generation : UInt64)
  /-- It arrived in a generation, was woken, and is about to take the lock again. -/
  | awake (generation : UInt64)
  deriving DecidableEq

/-- A member of a group at work. -/
structure Attendee where
  /-- The flags of the exchanges it has yet to enter. -/
  flags : List Bool
  /-- The answers of the exchanges it has left. -/
  answers : List Bool
  place : Whereabouts

/-- A member, woken if it sleeps. -/
def Attendee.roused (attendee : Attendee) : Attendee :=
  match attendee.place with
  | .asleep generation => { attendee with place := .awake generation }
  | _ => attendee

/-- The members of a group around the state they share. -/
structure Gathering (size : UInt32) where
  round : Round
  members : Fin (Round.count size) → Attendee

namespace Attendee

/-- A member with no exchange left. -/
def Finished (attendee : Attendee) : Prop :=
  attendee.flags = [] ∧ attendee.place = .outside

/-- A member that goes on when it gets the lock, instead of waiting: it enters its next exchange, or
leaves one that is over. -/
def Ready (attendee : Attendee) (round : Round) : Prop :=
  (attendee.flags ≠ [] ∧ attendee.place = .outside) ∨
    ∃ generation, attendee.place = .awake generation ∧ (round.leave? generation).isSome

end Attendee

namespace Gathering

variable {size : UInt32}

/-- A gathering before its first exchange, where every member has a flag for every round. -/
def start (rounds : List (Fin (Round.count size) → Bool)) : Gathering size where
  round := {}
  members member := ⟨rounds.map fun flags => flags member, [], .outside⟩

/-- What one member does while it has the lock, or the end of a sleep. -/
inductive Step : Gathering size → Gathering size → Prop where
  /-- A member arrives, and falls asleep. -/
  | arrive (before : Gathering size) (member : Fin (Round.count size)) (flag : Bool)
      (flags answers : List Bool) (round : Round)
      (here : before.members member = ⟨flag :: flags, answers, .outside⟩)
      (early : before.round.arrive (Round.groupSize size) flag = (none, round)) :
      Step before ⟨round, Function.update before.members member
        ⟨flags, answers, .asleep before.round.generation⟩⟩
  /-- A member arrives as the last one, wakes the others, and leaves. -/
  | complete (before : Gathering size) (member : Fin (Round.count size)) (flag : Bool)
      (flags answers : List Bool) (round : Round) (anyFailed : Bool)
      (here : before.members member = ⟨flag :: flags, answers, .outside⟩)
      (last : before.round.arrive (Round.groupSize size) flag = (some anyFailed, round)) :
      Step before ⟨round, Function.update (fun other => (before.members other).roused) member
        ⟨flags, answers ++ [anyFailed], .outside⟩⟩
  /-- A sleeper wakes, for whatever reason. -/
  | wake (before : Gathering size) (member : Fin (Round.count size)) (flags answers : List Bool)
      (generation : UInt64)
      (here : before.members member = ⟨flags, answers, .asleep generation⟩) :
      Step before ⟨before.round, Function.update before.members member
        ⟨flags, answers, .awake generation⟩⟩
  /-- A woken member takes the lock, finds its round open, and falls asleep again. -/
  | sleep (before : Gathering size) (member : Fin (Round.count size)) (flags answers : List Bool)
      (generation : UInt64)
      (here : before.members member = ⟨flags, answers, .awake generation⟩)
      (stays : before.round.leave? generation = none) :
      Step before ⟨before.round, Function.update before.members member
        ⟨flags, answers, .asleep generation⟩⟩
  /-- A woken member takes the lock, finds its round over, and leaves. -/
  | leave (before : Gathering size) (member : Fin (Round.count size)) (flags answers : List Bool)
      (generation : UInt64) (anyFailed : Bool)
      (here : before.members member = ⟨flags, answers, .awake generation⟩)
      (elapsed : before.round.leave? generation = some anyFailed) :
      Step before ⟨before.round, Function.update before.members member
        ⟨flags, answers ++ [anyFailed], .outside⟩⟩

/-- Several steps of a gathering. -/
abbrev Run : Gathering size → Gathering size → Prop := Relation.ReflTransGen Step

/-! ### The invariant -/

section Invariant

variable {count : Nat}

/-- The flags of a member from a round on. -/
def flagsFrom (rounds : List (Fin count → Bool)) (member : Fin count) (round : Nat) : List Bool :=
  (rounds.drop round).map fun flags => flags member

/-- The combined flags of the rounds before a round. -/
def combinedBefore (rounds : List (Fin count → Bool)) (round : Nat) : List Bool :=
  (rounds.take round).map anyOf

theorem flagsFrom_eq_cons {rounds : List (Fin count → Bool)} {member : Fin count} {round : Nat}
    {flag : Bool} {rest : List Bool} (begins : flagsFrom rounds member round = flag :: rest) :
    ∃ flags, rounds[round]? = some flags ∧ flags member = flag ∧
      flagsFrom rounds member (round + 1) = rest := by
  unfold flagsFrom at begins ⊢
  obtain ⟨flags, later, dropped, same, following⟩ := List.map_eq_cons_iff.mp begins
  refine ⟨flags, ?_, same, ?_⟩
  · rw [← List.head?_drop, dropped]
    rfl
  · rw [← List.tail_drop, dropped]
    exact following

theorem combinedBefore_succ {rounds : List (Fin count → Bool)} {round : Nat}
    {flags : Fin count → Bool} (there : rounds[round]? = some flags) :
    combinedBefore rounds (round + 1) = combinedBefore rounds round ++ [anyOf flags] := by
  unfold combinedBefore
  rw [List.take_add_one, there, List.map_append]
  rfl

/-- Where a member can stand when so many rounds are completed and the members in `present` have
arrived in the current one. -/
inductive Stands (rounds : List (Fin count → Bool)) (completed : Nat) (present : Finset (Fin count))
    (member : Fin count) : Attendee → Prop where
  /-- It has left all completed rounds, and has not arrived in the current one. -/
  | outside (absent : member ∉ present) :
      Stands rounds completed present member
        ⟨flagsFrom rounds member completed, combinedBefore rounds completed, .outside⟩
  /-- It has arrived in the current round. -/
  | arrived (inside : member ∈ present) (place : Whereabouts)
      (within : place = .asleep (.ofNat completed) ∨ place = .awake (.ofNat completed)) :
      Stands rounds completed present member
        ⟨flagsFrom rounds member (completed + 1), combinedBefore rounds completed, place⟩
  /-- It has been woken, and has yet to leave the last completed round. -/
  | late (absent : member ∉ present) (previous : Nat) (next : completed = previous + 1) :
      Stands rounds completed present member
        ⟨flagsFrom rounds member completed, combinedBefore rounds previous,
          .awake (.ofNat previous)⟩

end Invariant

/-- So many rounds are completed, and the members in `present` have arrived in the current one. -/
structure Inv (rounds : List (Fin (Round.count size) → Bool)) (completed : Nat)
    (present : Finset (Fin (Round.count size))) (gathering : Gathering size) : Prop where
  generation : gathering.round.generation = .ofNat completed
  arrived : gathering.round.arrived.toNat = present.card
  room : present.card < Round.count size
  raised : gathering.round.failed = true ↔
    ∃ member ∈ present, ∃ flags, rounds[completed]? = some flags ∧ flags member = true
  outcome : ∀ previous flags, completed = previous + 1 → rounds[previous]? = some flags →
    gathering.round.outcome = anyOf flags
  /-- A round that somebody has arrived in is one of the rounds. -/
  opened : present.Nonempty → completed < rounds.length
  closed : completed ≤ rounds.length
  stands : ∀ member, Stands rounds completed present member (gathering.members member)

theorem inv_start (rounds : List (Fin (Round.count size) → Bool)) :
    Inv rounds 0 ∅ (start rounds) where
  generation := rfl
  arrived := rfl
  room := Round.count_pos size
  raised := by simp [start]
  outcome previous flags next _ := by omega
  opened nonempty := by simp at nonempty
  closed := Nat.zero_le _
  stands member := by
    have outside : Stands rounds 0 ∅ member _ := .outside (Finset.notMem_empty member)
    exact outside

/-! ### Steps keep the invariant -/

variable {rounds : List (Fin (Round.count size) → Bool)} {completed : Nat}
  {present : Finset (Fin (Round.count size))} {before : Gathering size}

/-- Consecutive generations differ, also where the counter wraps around. -/
theorem generation_succ_ne (completed : Nat) :
    UInt64.ofNat (completed + 1) ≠ UInt64.ofNat completed := by
  intro same
  have equal := congrArg UInt64.toNat same
  rw [UInt64.toNat_ofNat', UInt64.toNat_ofNat'] at equal
  omega

/-- A member outside is late with nothing: its next flag is its flag of the current round. -/
theorem Inv.outside (inv : Inv rounds completed present before) {member : Fin (Round.count size)}
    {flag : Bool} {flags answers : List Bool}
    (here : before.members member = ⟨flag :: flags, answers, .outside⟩) :
    member ∉ present ∧ answers = combinedBefore rounds completed ∧
      flags = flagsFrom rounds member (completed + 1) ∧
      ∃ round, rounds[completed]? = some round ∧ round member = flag := by
  have stands := inv.stands member
  rw [here] at stands
  generalize attendee : (⟨flag :: flags, answers, .outside⟩ : Attendee) = stood at stands
  cases stands with
  | outside absent =>
    injection attendee with sameFlags sameAnswers
    obtain ⟨round, there, own, rest⟩ := flagsFrom_eq_cons sameFlags.symm
    exact ⟨absent, sameAnswers, rest.symm, round, there, own⟩
  | arrived inside place within =>
    injection attendee with _ _ samePlace
    subst samePlace
    rcases within with asleep | awake
    · cases asleep
    · cases awake
  | late => injection attendee with _ _ samePlace; cases samePlace

/-- The arrival of another member leaves a member where it stands. -/
theorem Stands.grown {member other : Fin (Round.count size)} {attendee : Attendee}
    (stands : Stands rounds completed present other attendee) (different : other ≠ member) :
    Stands rounds completed (insert member present) other attendee := by
  have absent (outside : other ∉ present) : other ∉ insert member present :=
    fun inside => (Finset.mem_insert.mp inside).elim different outside
  cases stands with
  | outside outside => exact .outside (absent outside)
  | arrived inside place within => exact .arrived (Finset.mem_insert_of_mem inside) place within
  | late outside previous next => exact .late (absent outside) previous next

theorem inv_arrive (inv : Inv rounds completed present before) {member : Fin (Round.count size)}
    {flag : Bool} {flags answers : List Bool} {round : Round}
    (here : before.members member = ⟨flag :: flags, answers, .outside⟩)
    (early : before.round.arrive (Round.groupSize size) flag = (none, round)) :
    Inv rounds completed (insert member present) ⟨round, Function.update before.members member
      ⟨flags, answers, .asleep before.round.generation⟩⟩ := by
  obtain ⟨absent, rfl, rfl, flagsNow, there, own⟩ := inv.outside here
  obtain ⟨different, rfl⟩ := Round.arrive_early early
  obtain ⟨counted, room⟩ := Round.card_insert_of_early inv.arrived inv.room absent different
  refine ⟨inv.generation, counted, room, ?_, inv.outcome, fun _ => ?_, inv.closed,
    (Function.forall_update_iff _ _).mpr ⟨?_, fun other distinct => ?_⟩⟩
  · show (before.round.failed || flag) = true ↔ _
    rw [Bool.or_eq_true, inv.raised]
    constructor
    · rintro (⟨other, inside, raises⟩ | rfl)
      · exact ⟨other, Finset.mem_insert_of_mem inside, raises⟩
      · exact ⟨member, Finset.mem_insert_self member present, flagsNow, there, own⟩
    · rintro ⟨other, inside, flags, now, raises⟩
      rcases Finset.mem_insert.mp inside with rfl | inside
      · rw [there] at now
        cases now
        exact .inr (own.symm.trans raises)
      · exact .inl ⟨other, inside, flags, now, raises⟩
  · exact (List.getElem?_eq_some_iff.mp there).1
  · rw [inv.generation]
    exact .arrived (Finset.mem_insert_self member present) _ (.inl rfl)
  · exact (inv.stands other).grown distinct

/-- A member that arrived in a round is late once the round is completed. -/
theorem Stands.roused_late {member : Fin (Round.count size)} {attendee : Attendee}
    (stands : Stands rounds completed present member attendee) (inside : member ∈ present) :
    Stands rounds (completed + 1) ∅ member attendee.roused := by
  cases stands with
  | outside absent => exact absurd inside absent
  | late absent => exact absurd inside absent
  | arrived inside place within =>
    rcases within with rfl | rfl
    · exact .late (Finset.notMem_empty member) completed rfl
    · exact .late (Finset.notMem_empty member) completed rfl

theorem inv_complete (inv : Inv rounds completed present before)
    {member : Fin (Round.count size)} {flag anyFailed : Bool} {flags answers : List Bool}
    {round : Round} (here : before.members member = ⟨flag :: flags, answers, .outside⟩)
    (last : before.round.arrive (Round.groupSize size) flag = (some anyFailed, round)) :
    Inv rounds (completed + 1) ∅ ⟨round,
      Function.update (fun other => (before.members other).roused) member
        ⟨flags, answers ++ [anyFailed], .outside⟩⟩ := by
  obtain ⟨absent, rfl, rfl, flagsNow, there, own⟩ := inv.outside here
  obtain ⟨same, rfl, rfl⟩ := Round.arrive_last last
  have others := Round.mem_of_last inv.arrived inv.room absent same
  have combined : (before.round.failed || flag) = anyOf flagsNow := by
    rw [Bool.eq_iff_iff, Bool.or_eq_true, inv.raised, anyOf_eq_true_iff]
    constructor
    · rintro (⟨other, _, flags, now, raises⟩ | rfl)
      · rw [there] at now
        cases now
        exact ⟨other, raises⟩
      · exact ⟨member, own⟩
    · rintro ⟨other, raises⟩
      by_cases equal : other = member
      · subst equal
        exact .inr (own.symm.trans raises)
      · exact .inl ⟨other, others other equal, flagsNow, there, raises⟩
  refine ⟨?_, rfl, Round.count_pos size, ?_, fun previous flags next now => ?_, fun nonempty => ?_,
    (List.getElem?_eq_some_iff.mp there).1,
    (Function.forall_update_iff _ _).mpr ⟨?_, fun other different => ?_⟩⟩
  · show before.round.generation + 1 = _
    rw [inv.generation]
    exact (UInt64.ofNat_add completed 1).symm
  · simp
  · obtain rfl : completed = previous := Nat.succ.inj next
    rw [there] at now
    cases now
    exact combined
  · simp at nonempty
  · rw [combined, ← combinedBefore_succ there]
    exact .outside (Finset.notMem_empty member)
  · exact (inv.stands other).roused_late (others other different)

/-- A step of one member that leaves the shared state as it is. -/
theorem Inv.moved (inv : Inv rounds completed present before) (member : Fin (Round.count size))
    {attendee : Attendee} (stands : Stands rounds completed present member attendee) :
    Inv rounds completed present
      ⟨before.round, Function.update before.members member attendee⟩ := by
  exact { inv with
    stands := (Function.forall_update_iff _ _).mpr ⟨stands, fun other _ => inv.stands other⟩ }

/-- A member asleep has arrived in the current round. -/
theorem Inv.asleep (inv : Inv rounds completed present before) {member : Fin (Round.count size)}
    {flags answers : List Bool} {generation : UInt64}
    (here : before.members member = ⟨flags, answers, .asleep generation⟩) :
    member ∈ present ∧ flags = flagsFrom rounds member (completed + 1) ∧
      answers = combinedBefore rounds completed ∧ generation = .ofNat completed := by
  have stands := inv.stands member
  rw [here] at stands
  generalize attendee : (⟨flags, answers, .asleep generation⟩ : Attendee) = stood at stands
  cases stands with
  | outside => cases attendee
  | late => cases attendee
  | arrived inside place within =>
    cases attendee
    rcases within with asleep | awake
    · cases asleep
      exact ⟨inside, rfl, rfl, rfl⟩
    · cases awake

/-- A woken member has arrived in the current round, or is late. -/
theorem Inv.awake (inv : Inv rounds completed present before) {member : Fin (Round.count size)}
    {flags answers : List Bool} {generation : UInt64}
    (here : before.members member = ⟨flags, answers, .awake generation⟩) :
    (member ∈ present ∧ flags = flagsFrom rounds member (completed + 1) ∧
        answers = combinedBefore rounds completed ∧ generation = .ofNat completed) ∨
      ∃ previous, completed = previous + 1 ∧ member ∉ present ∧
        flags = flagsFrom rounds member completed ∧
        answers = combinedBefore rounds previous ∧ generation = .ofNat previous := by
  have stands := inv.stands member
  rw [here] at stands
  generalize attendee : (⟨flags, answers, .awake generation⟩ : Attendee) = stood at stands
  cases stands with
  | outside => cases attendee
  | late absent previous next =>
    cases attendee
    exact .inr ⟨previous, next, absent, rfl, rfl, rfl⟩
  | arrived inside place within =>
    cases attendee
    rcases within with asleep | awake
    · cases asleep
    · cases awake
      exact .inl ⟨inside, rfl, rfl, rfl⟩

/-- **Every step keeps the invariant.** -/
theorem inv_step {after : Gathering size} (inv : Inv rounds completed present before)
    (step : Step before after) :
    ∃ completed present, Inv rounds completed present after := by
  cases step with
  | arrive member flag flags answers round here early =>
    exact ⟨_, _, inv_arrive inv here early⟩
  | complete member flag flags answers round anyFailed here last =>
    exact ⟨_, _, inv_complete inv here last⟩
  | wake member flags answers generation here =>
    obtain ⟨inside, rfl, rfl, rfl⟩ := inv.asleep here
    exact ⟨_, _, inv.moved member (.arrived inside _ (.inr rfl))⟩
  | sleep member flags answers generation here stays =>
    unfold Round.leave? at stays
    split at stays
    · rename_i current
      rcases inv.awake here with ⟨inside, rfl, rfl, rfl⟩ | ⟨previous, rfl, _, _, _, rfl⟩
      · exact ⟨_, _, inv.moved member (.arrived inside _ (.inl rfl))⟩
      · rw [inv.generation] at current
        exact absurd current (generation_succ_ne previous)
    · cases stays
  | leave member flags answers generation anyFailed here elapsed =>
    unfold Round.leave? at elapsed
    split at elapsed
    · cases elapsed
    · rename_i moved
      cases elapsed
      rcases inv.awake here with ⟨_, _, _, rfl⟩ | ⟨previous, rfl, absent, rfl, rfl, rfl⟩
      · exact absurd inv.generation moved
      · have there : previous < rounds.length := inv.closed
        rw [inv.outcome previous _ rfl (List.getElem?_eq_getElem there),
          ← combinedBefore_succ (List.getElem?_eq_getElem there)]
        exact ⟨_, _, inv.moved member (.outside absent)⟩

theorem inv_run {reached : Gathering size} (run : Run (start rounds) reached) :
    ∃ completed present, Inv rounds completed present reached := by
  induction run with
  | refl => exact ⟨0, ∅, inv_start rounds⟩
  | tail _ last ih =>
    obtain ⟨_, _, inv⟩ := ih
    exact inv_step inv last

/-! ### What the invariant says -/

theorem combinedBefore_prefix {count : Nat} (rounds : List (Fin count → Bool)) (round : Nat) :
    combinedBefore rounds round <+: rounds.map anyOf :=
  (List.take_prefix round rounds).map anyOf

/-- Every answer is the combined flag of its own round. -/
theorem Inv.answers (inv : Inv rounds completed present before) (member : Fin (Round.count size)) :
    (before.members member).answers <+: rounds.map anyOf := by
  have stands := inv.stands member
  generalize before.members member = attendee at stands ⊢
  cases stands with
  | outside => exact combinedBefore_prefix rounds completed
  | arrived => exact combinedBefore_prefix rounds completed
  | late _ previous => exact combinedBefore_prefix rounds previous

/-- A member that has finished has all answers. -/
theorem Inv.finished (inv : Inv rounds completed present before) {member : Fin (Round.count size)}
    (finished : (before.members member).Finished) :
    (before.members member).answers = rounds.map anyOf := by
  have stands := inv.stands member
  generalize before.members member = attendee at stands finished ⊢
  obtain ⟨none, outside⟩ := finished
  cases stands with
  | outside =>
    have past : rounds.length ≤ completed :=
      List.drop_eq_nil_iff.mp (List.map_eq_nil_iff.mp none)
    exact congrArg (List.map anyOf) (List.take_of_length_le past)
  | arrived _ _ within => rcases within with rfl | rfl <;> cases outside
  | late => cases outside

/-- A late member leaves when it gets the lock. -/
theorem Inv.late_ready (inv : Inv rounds completed present before) {previous : Nat}
    (next : completed = previous + 1) : (before.round.leave? (.ofNat previous)).isSome := by
  have moved : before.round.generation ≠ .ofNat previous := by
    rw [inv.generation, next]
    exact generation_succ_ne previous
  rw [Round.leave?, if_neg moved]
  rfl

/-- **The group is never stuck**: all have finished, or somebody goes on. -/
theorem Inv.progress (inv : Inv rounds completed present before) :
    (∀ member, (before.members member).Finished) ∨
      ∃ member, (before.members member).Ready before.round := by
  by_cases anybody : ∃ member, (before.members member).Ready before.round
  · exact .inr anybody
  · have waits : ∀ member, ¬(before.members member).Ready before.round :=
      fun member ready => anybody ⟨member, ready⟩
    -- A member that has not arrived in the current round is outside and has no round left.
    have absent : ∀ member ∉ present,
        (before.members member).Finished ∧ rounds.length ≤ completed := by
      intro member absent
      have stands := inv.stands member
      have waiting := waits member
      generalize before.members member = attendee at stands waiting ⊢
      cases stands with
      | outside =>
        by_cases none : flagsFrom rounds member completed = []
        · exact ⟨⟨none, rfl⟩, List.drop_eq_nil_iff.mp (List.map_eq_nil_iff.mp none)⟩
        · exact absurd (.inl ⟨none, rfl⟩) waiting
      | arrived inside => exact absurd inside absent
      | late _ previous next => exact absurd (.inr ⟨_, rfl, inv.late_ready next⟩) waiting
    refine .inl fun member => ?_
    by_cases inside : member ∈ present
    · obtain ⟨other, outside⟩ : ∃ other, other ∉ present := by
        by_contra everybody
        have full : present = Finset.univ :=
          Finset.eq_univ_iff_forall.mpr fun other => not_not.mp (not_exists.mp everybody other)
        have room := inv.room
        rw [full, Finset.card_univ, Fintype.card_fin] at room
        exact absurd room (lt_irrefl _)
      have opened := inv.opened ⟨member, inside⟩
      exact absurd (absent other outside).2 (not_le.mpr opened)
    · exact (absent member inside).1

/-! ### Agreement on outcomes -/

/-- What the members of a group take out of an agreement on their outcomes. -/
structure Agreed {α : Type} {count : Nat} (outcomes results : Fin count → Except Failure α) :
    Prop where
  /-- All succeed with their own values, or all fail. -/
  unanimous : (∀ rank, results rank = outcomes rank ∧ failed (outcomes rank) = false) ∨
    ∀ rank, failed (results rank) = true
  /-- An own failure stays as it is. -/
  own : ∀ rank failure, outcomes rank = .error failure → results rank = .error failure
  /-- An own success next to a failure elsewhere becomes a failure with the member's own rank. -/
  remote : ∀ rank value, outcomes rank = .ok value → (∃ other, failed (outcomes other) = true) →
    results rank = .error (.sync (.ofNat rank))

/-- Members that settle their outcomes under the combined flag agree on them. -/
theorem agreed_settle {α : Type} (outcomes : Fin (Round.count size) → Except Failure α) :
    Agreed outcomes fun rank => (Member.ofRank (.ofNat rank) (Round.groupSize size)).settle
      (outcomes rank) (anyOf fun other => failed (outcomes other)) := by
  refine ⟨?_, fun rank failure fails => ?_, fun rank value succeeds elsewhere => ?_⟩
  · cases flag : anyOf fun other => failed (outcomes other) with
    | false =>
      have succeeded := (anyOf_eq_false_iff _).mp flag
      refine .inl fun rank => ⟨?_, succeeded rank⟩
      cases outcomes rank <;> rfl
    | true =>
      refine .inr fun rank => ?_
      cases outcomes rank <;> rfl
  · simp only [fails]
    rfl
  · simp only [succeeds, (anyOf_eq_true_iff _).mpr elsewhere]
    rfl

/-- The members of a group in the order of their ranks. -/
theorem member_of_rank {rank : Fin (Round.count size)} {member : Member}
    (there : (Round.members size)[rank.val]? = some member) :
    member = Member.ofRank (.ofNat rank) (Round.groupSize size) := by
  unfold Round.members at there
  rw [List.getElem?_map, List.getElem?_range rank.isLt] at there
  exact (Option.some.inj there).symm

/-- **Rounds between threads.** In every state that a group reaches, in whatever order its members
get the lock and wake: the answers of every member are the combined flags of its rounds in order,
and a member that has finished has all of them; fewer members have arrived than there are; all have
finished, or one of them goes on when it gets the lock. Where the flags come from outcomes, the
members agree on them. -/
theorem rounds_answered (size : UInt32) (rounds : List (Fin (Round.count size) → Bool))
    (reached : Gathering size) (run : Run (start rounds) reached) :
    (∀ member, (reached.members member).answers <+: rounds.map anyOf) ∧
    (∀ member, (reached.members member).Finished →
      (reached.members member).answers = rounds.map anyOf) ∧
    reached.round.arrived < Round.groupSize size ∧
    ((∀ member, (reached.members member).Finished) ∨
      ∃ member, (reached.members member).Ready reached.round) ∧
    ∀ (α : Type) (outcomes : List (Fin (Round.count size) → Except Failure α)),
      rounds = outcomes.map (fun each rank => failed (each rank)) →
      ∀ (index : Nat) (each : Fin (Round.count size) → Except Failure α),
        outcomes[index]? = some each →
        ∃ results, Agreed each results ∧
          ∀ rank member answer, (Round.members size)[rank.val]? = some member →
            (reached.members rank).answers[index]? = some answer →
            member.settle (each rank) answer = results rank := by
  obtain ⟨completed, present, inv⟩ := inv_run run
  refine ⟨inv.answers, fun member => inv.finished, ?_, inv.progress, ?_⟩
  · rw [UInt32.lt_iff_toNat_lt, inv.arrived]
    exact inv.room
  · rintro α outcomes rfl index each there
    refine ⟨_, agreed_settle each, fun rank member answer known answered => ?_⟩
    have combined : ((outcomes.map fun each rank => failed (each rank)).map anyOf)[index]? =
        some (anyOf fun rank => failed (each rank)) := by
      rw [List.getElem?_map, List.getElem?_map, there]
      rfl
    obtain ⟨later, whole⟩ := inv.answers rank
    have inside := (List.getElem?_eq_some_iff.mp answered).1
    rw [← whole, List.getElem?_append_left inside, answered] at combined
    cases combined
    rw [member_of_rank known]

/-- The second of two members completes the first round and enters the second one, before the first
member, which raised its flag in the first round, has left it. -/
theorem rounds_answered_overlapping :
    let first : Fin (Round.count 2) := ⟨0, by decide⟩
    let second : Fin (Round.count 2) := ⟨1, by decide⟩
    let rounds := [fun rank => rank == first, fun _ => false]
    ∃ reached : Gathering 2, Run (start rounds) reached ∧
      (reached.members first).place = .awake 0 ∧ (reached.members second).place = .asleep 1 ∧
      (reached.members second).answers = [true] ∧
      ∀ member, (reached.members member).answers <+: [true, false] := by
  intro first second rounds
  have arrived : Run (start rounds) _ := .single (.arrive (start rounds) first true [false] []
    { failed := true, arrived := 1 } rfl rfl)
  have completed := arrived.tail (.complete _ second false [false] []
    { generation := 1, outcome := true } true rfl rfl)
  have run := completed.tail (.arrive _ second false [] [true]
    { generation := 1, outcome := true, arrived := 1 } rfl rfl)
  exact ⟨_, run, rfl, rfl, rfl, (rounds_answered 2 rounds _ run).1⟩

end Gathering

end KernelCache
