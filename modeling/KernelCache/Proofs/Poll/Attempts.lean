import KernelCache.Poll
import Mathlib.Data.List.Basic
import Mathlib.Logic.Function.Iterate

/-
**The attempts of a wait.**

A wait probes, and pauses between two probes. Both may keep a state of their own, and in what follows
everything that a wait does is put on record.

* `PollPolicy.waitFrom_succ` is one turn of the loop.
* `Watch` is a probe and a pause; `Watch.found?` is what its probes find one after the other, and
  `Watch.FindsAt` says which of them is the first to find something.
* `PollPolicy.run_waitFrom_misses`: probes that find nothing, and a pause behind each of them.
* **`PollPolicy.waitFor_exact`**: a wait ends with the first probe that finds something, if that is
  among the attempts it has, and with its last attempt otherwise; it never pauses in vain.
-/

namespace KernelCache

namespace PollPolicy

/-- One more attempt that found nothing: the number of attempts, or the end of the wait. -/
def missed (policy : PollPolicy) (attempts : Nat) : Except Exhausted Nat :=
  let attempts := min (attempts + 1) attemptLimit
  if policy.spent attempts then .error ⟨attempts⟩ else .ok attempts

/-- One turn of the loop of a wait. -/
theorem waitFrom_succ {m : Type → Type} [Monad m] {α : Type} (policy : PollPolicy)
    (probe : m (Option α)) (pause : Nat → m Unit) (fuel attempts : Nat) :
    policy.waitFrom probe pause (fuel + 1) attempts =
      probe >>= fun
        | some value => pure (some (.ok value))
        | none =>
          match policy.missed attempts with
          | .error exhausted => pure (some (.error exhausted))
          | .ok later => pause policy.interval >>= fun _ =>
            policy.waitFrom probe pause fuel later := by
  refine congrArg (probe >>= ·) (funext fun found => ?_)
  cases found with
  | some value => rfl
  | none =>
    unfold missed
    by_cases spent : policy.spent (min (attempts + 1) attemptLimit)
    · simp only [if_pos spent]
    · simp only [if_neg spent]

/-- The number of probes that a limit allows: there is always one. -/
def allowance (limit : UInt32) : Nat := max 1 limit.toNat

theorem allowance_pos (limit : UInt32) : 0 < allowance limit := Nat.le_max_left _ _

theorem allowance_le (limit : UInt32) : allowance limit ≤ attemptLimit :=
  Nat.max_le.mpr ⟨by decide,  Nat.le_sub_one_of_lt limit.toNat_lt⟩

/-- Before the last attempt that a limit allows, there is a next one. -/
theorem missed_of_lt {policy : PollPolicy} {misses : Nat}
    (left : ∀ limit, policy.maxAttempts = some limit → misses + 1 < allowance limit) :
    policy.missed (min misses attemptLimit) = .ok (min (misses + 1) attemptLimit) := by
  have counted : min (min misses attemptLimit + 1) attemptLimit = min (misses + 1) attemptLimit := by
    omega
  have unspent : ¬ policy.spent (min (misses + 1) attemptLimit) = true := by
    unfold spent
    cases limited : policy.maxAttempts with
    | none => exact Bool.false_ne_true
    | some limit =>
      have below := left limit limited
      have small := allowance_le limit
      unfold allowance at below small
      simp only [decide_eq_true_eq]
      omega
  rw [missed, counted, if_neg unspent]

/-- The last attempt that a limit allows is the end. -/
theorem missed_of_eq {policy : PollPolicy} {limit : UInt32} {misses : Nat}
    (limited : policy.maxAttempts = some limit) (last : misses + 1 = allowance limit) :
    policy.missed (min misses attemptLimit) = .error ⟨allowance limit⟩ := by
  have small := allowance_le limit
  have counted : min (min misses attemptLimit + 1) attemptLimit = allowance limit := by omega
  have spent : policy.spent (allowance limit) = true := by
    rw [PollPolicy.spent, limited]
    exact decide_eq_true (Nat.le_max_right _ _)
  rw [missed, counted, if_pos spent]

end PollPolicy

/-! ### What is done in a wait -/

/-- A probe and a pause, which may change a state. -/
structure Watch (σ α : Type) where
  probe : StateM σ (Option α)
  pause : Nat → StateM σ Unit

namespace Watch

variable {σ α : Type}

/-- What a wait does. -/
inductive Act (α : Type) where
  | probed (found : Option α)
  | paused (interval : Nat)

namespace Act

/-- It is a probe. -/
def isProbe : Act α → Bool
  | probed _ => true
  | paused _ => false

/-- The length of a pause. -/
def pause? : Act α → Option Nat
  | probed _ => none
  | paused interval => some interval

end Act

/-- The probe, put on record. -/
def recordedProbe (watch : Watch σ α) : StateM (σ × List (Act α)) (Option α) :=
  fun (state, acts) =>
    let (found, later) := watch.probe.run state
    (found, later, acts ++ [.probed found])

/-- The pause, put on record. -/
def recordedPause (watch : Watch σ α) (interval : Nat) : StateM (σ × List (Act α)) Unit :=
  fun (state, acts) => ((), ((watch.pause interval).run state).2, acts ++ [.paused interval])

theorem run_recordedProbe (watch : Watch σ α) (state : σ) (acts : List (Act α)) :
    watch.recordedProbe.run (state, acts) = ((watch.probe.run state).1,
      (watch.probe.run state).2, acts ++ [.probed (watch.probe.run state).1]) := rfl

/-- A whole wait, with all that it does; `none` when the probes that are followed do not suffice. -/
def wait (watch : Watch σ α) (policy : PollPolicy) (fuel : Nat) (start : σ) :
    Option (Except Exhausted α) × σ × List (Act α) :=
  (policy.waitFor watch.recordedProbe watch.recordedPause fuel).run (start, [])

/-- The state behind a probe and a pause. -/
def turn (watch : Watch σ α) (interval : Nat) (state : σ) : σ :=
  ((watch.pause interval).run (watch.probe.run state).2).2

/-- The state behind some probes, each with its pause. -/
def behind (watch : Watch σ α) (interval : Nat) (start : σ) (misses : Nat) : σ :=
  (watch.turn interval)^[misses] start

/-- What is found by the probe behind some others. -/
def found? (watch : Watch σ α) (interval : Nat) (start : σ) (misses : Nat) : Option α :=
  (watch.probe.run (watch.behind interval start misses)).1

/-- The first probe that finds something; probes are counted from one. -/
structure FindsAt (watch : Watch σ α) (interval : Nat) (start : σ) (count : Nat) (value : α) :
    Prop where
  positive : 0 < count
  found : watch.found? interval start (count - 1) = some value
  missed : ∀ earlier < count - 1, watch.found? interval start earlier = none

/-- The record of probes that found nothing, each with its pause. -/
def misses (α : Type) (interval : Nat) : Nat → List (Act α)
  | 0 => []
  | count + 1 => misses α interval count ++ [.probed none, .paused interval]

/-- The record of some probes: a pause of the interval between two of them, and what the last of them
has found at the end. -/
structure Tally (interval count : Nat) (found : Option α) (acts : List (Act α)) : Prop where
  probes : acts.countP Act.isProbe = count
  pauses : acts.filterMap Act.pause? = List.replicate (count - 1) interval
  last : acts.getLast? = some (.probed found)

theorem tally_misses (interval count : Nat) (found : Option α) :
    Tally interval (count + 1) found (misses α interval count ++ [.probed found]) := by
  obtain ⟨probes, pauses⟩ : (misses α interval count).countP Act.isProbe = count ∧
      (misses α interval count).filterMap Act.pause? = List.replicate count interval := by
    induction count with
    | zero => exact ⟨rfl, rfl⟩
    | succ count ih =>
      rw [misses, List.countP_append, List.filterMap_append, ih.1, ih.2, List.replicate_succ']
      exact ⟨rfl, rfl⟩
  refine ⟨?_, ?_, List.getLast?_concat⟩
  · rw [List.countP_append, probes]
    rfl
  · rw [List.filterMap_append, pauses]
    exact List.append_nil _

/-- Nothing is found by the first probes, if none of them is the first to find something. -/
theorem found?_eq_none {watch : Watch σ α} {interval : Nat} {start : σ} {count : Nat}
    (vain : ∀ first value, first ≤ count → ¬ watch.FindsAt interval start first value) :
    ∀ earlier < count, watch.found? interval start earlier = none := by
  intro earlier
  induction earlier using Nat.strongRecOn with
  | ind earlier ih =>
    intro below
    cases found : watch.found? interval start earlier with
    | none => rfl
    | some value =>
      exact absurd ⟨Nat.succ_pos earlier, found, fun other less => ih other less (Nat.lt_trans less below)⟩
        (vain (earlier + 1) value below)

end Watch

/-! ### The turns of a wait -/

namespace PollPolicy

open Watch

variable {σ α : Type} {watch : Watch σ α} {policy : PollPolicy} {state start : σ}
  {acts : List (Act α)} {fuel attempts : Nat}

theorem run_waitFrom_found {value : α} (found : (watch.probe.run state).1 = some value) :
    (policy.waitFrom watch.recordedProbe watch.recordedPause (fuel + 1) attempts).run (state, acts) =
      (some (.ok value), (watch.probe.run state).2, acts ++ [.probed (some value)]) := by
  rw [waitFrom_succ, StateT.run_bind, run_recordedProbe, found]
  rfl

theorem run_waitFrom_exhausted {exhausted : Exhausted} (nothing : (watch.probe.run state).1 = none)
    (missed : policy.missed attempts = .error exhausted) :
    (policy.waitFrom watch.recordedProbe watch.recordedPause (fuel + 1) attempts).run (state, acts) =
      (some (.error exhausted), (watch.probe.run state).2, acts ++ [.probed none]) := by
  rw [waitFrom_succ, missed, StateT.run_bind, run_recordedProbe, nothing]
  rfl

theorem run_waitFrom_missed {later : Nat} (nothing : (watch.probe.run state).1 = none)
    (missed : policy.missed attempts = .ok later) :
    (policy.waitFrom watch.recordedProbe watch.recordedPause (fuel + 1) attempts).run (state, acts) =
      (policy.waitFrom watch.recordedProbe watch.recordedPause fuel later).run
        (watch.turn policy.interval state, acts ++ [.probed none, .paused policy.interval]) := by
  have pauses : acts ++ [Act.probed none, .paused policy.interval] =
      (acts ++ [.probed none]) ++ [.paused policy.interval] := by rw [List.append_assoc]; rfl
  rw [waitFrom_succ, missed, StateT.run_bind, run_recordedProbe, nothing, pauses]
  rfl

/-- **Probes that find nothing**, while there are attempts left: a pause behind each of them. -/
theorem run_waitFrom_misses {count : Nat} (fuel : Nat)
    (nothing : ∀ earlier < count, watch.found? policy.interval start earlier = none)
    (left : ∀ limit, policy.maxAttempts = some limit → count < allowance limit) :
    (policy.waitFrom watch.recordedProbe watch.recordedPause (count + fuel) 0).run (start, []) =
      (policy.waitFrom watch.recordedProbe watch.recordedPause fuel (min count attemptLimit)).run
        (watch.behind policy.interval start count, misses α policy.interval count) := by
  induction count generalizing fuel with
  | zero => rw [Nat.zero_add, Nat.zero_min]; rfl
  | succ count ih =>
    have before := ih (fuel + 1) (fun earlier less => nothing earlier (Nat.lt_succ_of_lt less))
      fun limit limited => Nat.lt_of_succ_lt (left limit limited)
    have next : watch.behind policy.interval start (count + 1) =
        watch.turn policy.interval (watch.behind policy.interval start count) :=
      Function.iterate_succ_apply' _ _ _
    rw [Nat.succ_add_eq_add_succ, before, run_waitFrom_missed (nothing count count.lt_succ_self)
      (missed_of_lt left), next]
    rfl

/-- A wait that finds something behind some probes that found nothing. -/
theorem wait_found {count : Nat} {value : α} (fuel : Nat)
    (finds : watch.FindsAt policy.interval start (count + 1) value)
    (left : ∀ limit, policy.maxAttempts = some limit → count < allowance limit) :
    ∃ last acts, watch.wait policy (count + 1 + fuel) start = (some (.ok value), last, acts) ∧
      Tally policy.interval (count + 1) (some value) acts := by
  have run := run_waitFrom_misses (fuel + 1) finds.missed left
  rw [run_waitFrom_found finds.found, ← Nat.succ_add_eq_add_succ] at run
  exact ⟨_, _, run, tally_misses _ _ _⟩

/-- A wait that finds nothing as often as its limit allows. -/
theorem wait_exhausted {limit : UInt32} {count : Nat} (fuel : Nat)
    (limited : policy.maxAttempts = some limit) (last : count + 1 = allowance limit)
    (nothing : ∀ earlier < count + 1, watch.found? policy.interval start earlier = none) :
    ∃ last acts, watch.wait policy (count + 1 + fuel) start =
        (some (.error ⟨allowance limit⟩), last, acts) ∧
      Tally policy.interval (count + 1) none acts := by
  have left (other : UInt32) (same : policy.maxAttempts = some other) : count < allowance other := by
    obtain rfl : limit = other := Option.some.inj (limited.symm.trans same)
    exact Nat.lt_of_succ_le (Nat.le_of_eq last)
  have run := run_waitFrom_misses (fuel + 1)
    (fun earlier less => nothing earlier (Nat.lt_succ_of_lt less)) left
  rw [run_waitFrom_exhausted (nothing count count.lt_succ_self) (missed_of_eq limited last),
    ← Nat.succ_add_eq_add_succ] at run
  exact ⟨_, _, run, tally_misses _ _ _⟩

/-- **A wait is exact.** The first probe that finds something ends it, if the limit allows that many
probes or there is none; otherwise it ends with the last probe that the limit allows, which is one at
least. It pauses between two probes for the interval of the policy, and nowhere else. -/
theorem waitFor_exact (policy : PollPolicy) (watch : Watch σ α) (start : σ) :
    (∀ count value fuel, watch.FindsAt policy.interval start count value →
      (∀ limit, policy.maxAttempts = some limit → count ≤ max 1 limit.toNat) → count ≤ fuel →
      ∃ last acts, watch.wait policy fuel start = (some (.ok value), last, acts) ∧
        Tally policy.interval count (some value) acts) ∧
    ∀ limit fuel, policy.maxAttempts = some limit →
      (∀ count value, count ≤ max 1 limit.toNat →
        ¬ watch.FindsAt policy.interval start count value) → max 1 limit.toNat ≤ fuel →
      ∃ last acts,
        watch.wait policy fuel start = (some (.error ⟨max 1 limit.toNat⟩), last, acts) ∧
        Tally policy.interval (max 1 limit.toNat) none acts := by
  constructor
  · rintro count value fuel finds allowed enough
    obtain ⟨spare, rfl⟩ := Nat.exists_eq_add_of_le enough
    obtain ⟨count, rfl⟩ := Nat.exists_eq_add_one.mpr finds.positive
    exact wait_found spare finds allowed
  · rintro limit fuel limited vain enough
    have nothing := found?_eq_none vain
    obtain ⟨spare, rfl⟩ := Nat.exists_eq_add_of_le enough
    obtain ⟨count, last⟩ := Nat.exists_eq_add_one.mpr (allowance_pos limit)
    show ∃ last acts, watch.wait policy (allowance limit + spare) start =
      (some (.error ⟨allowance limit⟩), last, acts) ∧ Tally _ (allowance limit) _ _
    have ends := wait_exhausted spare limited last.symm
      fun earlier less => nothing earlier (Nat.lt_of_lt_of_eq less last.symm)
    rwa [← last] at ends

/-- A probe that finds something when it is made for the third time: three attempts are enough, and a
limit of zero allows one. -/
theorem waitFor_exact_third :
    let watch : Watch Nat Nat :=
      { probe := fun calls => (if calls = 2 then some calls else none, calls + 1)
        pause := fun _ => pure () }
    watch.FindsAt 1000 0 3 2 ∧
    (∃ last acts, watch.wait ⟨1000, some 3⟩ 3 0 = (some (.ok 2), last, acts) ∧
      Tally 1000 3 (some 2) acts) ∧
    ∃ last acts, watch.wait ⟨1000, some 0⟩ 1 0 = (some (.error ⟨1⟩), last, acts) ∧
      Tally 1000 1 none acts := by
  intro watch
  have finds : watch.FindsAt 1000 0 3 2 := ⟨by decide, by decide, by decide⟩
  refine ⟨finds, (waitFor_exact ⟨1000, some 3⟩ watch 0).1 3 2 3 finds ?_ (Nat.le_refl _),
    (waitFor_exact ⟨1000, some 0⟩ watch 0).2 0 1 rfl ?_ (Nat.le_refl _)⟩
  · rintro _ ⟨⟩
    decide
  · rintro count value (few : count ≤ 1) early
    obtain rfl : count = 1 := Nat.le_antisymm few early.positive
    exact nomatch early.found

end PollPolicy

end KernelCache
