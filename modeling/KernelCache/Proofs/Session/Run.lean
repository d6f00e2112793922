import KernelCache.Proofs.Session.Creation
import KernelCache.Proofs.Session.Trace

/-
**The commands of a run.**

A run is a new session and the lookups in it, one after the other, however the surroundings answer.

* `Session.Traced config kernel first line last`: the commands of one lookup. The root may restore
  the library, in the first lookup that has to search, and then may build the kernel; either series
  ends with the first command that fails.
* `Session.Run ahead config member visits session line`: a run that came to a session and its line.
* **`Session.Run.commands_traced`** — every lookup of every run is traced, no command follows one
  that failed, only rank zero sends any, and the session counts them.
-/

namespace KernelCache

open KernelCache.Action

namespace Session

/-- The commands of one lookup, between two lines; `first` says that it is the first in its run that
has to search. -/
def Traced (config : Config) (kernel : Kernel) (first : Prop) (line last : Line) : Prop :=
  ∃ middle restore build,
    line.asked <+: middle.asked ∧ middle.asked <+: last.asked ∧
    middle.handed = line.handed ++ restore ∧ last.handed = middle.handed ++ build ∧
    Pursued config.relinkSteps restore ∧ Pursued (config.buildSteps kernel) build ∧
    (restore ≠ [] → first ∧ Line.Restores config line middle) ∧
    (build ≠ [] → Unbroken config.relinkSteps restore ∧
      middle.asked ++ [middle.misses kernel] <+: last.asked)

/-- The session has to search for a hash. -/
def Unknown (session : Session) (hash : UInt64) : Prop :=
  session.cache.remembered? hash = none

variable {config : Config} {owner : Bool} {session : Session} {line : Line}

/-- No command at all. -/
theorem Traced.none (config : Config) (kernel : Kernel) (first : Prop) (line : Line) :
    Traced config kernel first line line :=
  ⟨line, [], [], List.prefix_rfl, List.prefix_rfl, (List.append_nil _).symm,
    (List.append_nil _).symm, .inl rfl, .inl rfl, fun some => absurd rfl some,
    fun some => absurd rfl some⟩

end Session

namespace Line

open Session

variable {owner : Bool} {session : Session} {line : Line}

/-- **One lookup.** -/
theorem secures_lookup (poised : Poised owner session line) (kernel : Kernel) :
    Secures dialogue (lookup kernel) (fun _ later last => Poised owner later last ∧
        later.config = session.config ∧
        Traced session.config kernel (session.Unknown kernel.hash ∧ session.cache.probed = false)
          line last ∧
        (later.cache.probed = false → session.cache.probed = false ∧ ¬ session.Unknown kernel.hash))
      session line := by
  refine Secures.get ?_
  cases known : session.cache.remembered? kernel.hash with
  | some symbol =>
    have remembered : ¬ session.Unknown kernel.hash := by
      unfold Unknown
      rw [known]
      exact Option.some_ne_none symbol
    exact Secures.pure ⟨poised, rfl, .none _ _ _ _, fun fresh => ⟨fresh, remembered⟩⟩
  | none =>
    refine Secures.get ?_
    cases probed : session.cache.probed with
    | true =>
      refine (secures_find poised kernel).mono ?_
      rintro _ later last ⟨built, missed, -⟩
      obtain ⟨build, handed, pursued⟩ := built.commands
      refine ⟨built.poised, built.config, ⟨line, [], build, List.prefix_rfl, built.asked,
        (List.append_nil _).symm, handed, .inl rfl, pursued, fun some => absurd rfl some,
        fun some => ⟨.inl rfl, missed ?_⟩⟩, ?_⟩
      · rw [handed]
        exact fun same => some (List.append_cancel_left (same.trans (List.append_nil _).symm))
      · rw [built.probed, probed]
        exact fun same => nomatch same
    | false =>
      have looked : ∀ {later : Session} {last : Line} {failing : Bool} {paths : List Path},
          Probed owner session line failing paths later last → later.cache.probed = true :=
        fun probed => congrArg Prod.fst probed.decisive
      refine Secures.bind _ (secures_probeLibrary poised) ?_ ?_
      · rintro value between middle probe
        obtain ⟨restore, handed, pursued, unbroken, restores⟩ := probe.commands
        refine (secures_find probe.poised kernel).mono ?_
        rintro _ later last ⟨built, missed, -⟩
        obtain ⟨build, handed', pursued'⟩ := built.commands
        rw [probe.config] at pursued'
        refine ⟨built.poised, built.config.trans probe.config, ⟨middle, restore, build, probe.asked,
          built.asked, handed, handed', pursued, pursued', fun some => ⟨⟨known, rfl⟩, restores some⟩,
          fun some => ⟨unbroken rfl, missed ?_⟩⟩, ?_⟩
        · rw [handed']
          exact fun same => some (List.append_cancel_left (same.trans (List.append_nil _).symm))
        · rw [built.probed, looked probe]
          exact fun same => nomatch same
      · rintro failure later last probe
        obtain ⟨restore, handed, pursued, unbroken, restores⟩ := probe.commands
        refine ⟨probe.poised, probe.config, ⟨last, restore, [], probe.asked, List.prefix_rfl, handed,
          (List.append_nil _).symm, pursued, .inl rfl, fun some => ⟨⟨known, rfl⟩, restores some⟩,
          fun some => absurd rfl some⟩, ?_⟩
        rw [looked probe]
        exact fun same => nomatch same

end Line

namespace Session

/-- A lookup in a run: what was looked up, and the session and the line as it found them, and the
line as it left it. -/
structure Visit where
  kernel : Kernel
  session : Session
  line : Line
  last : Line

namespace Visit

/-- The lookup had to search. -/
def Searches (visit : Visit) : Prop := visit.session.Unknown visit.kernel.hash

end Visit

/-- A run of a member, with the lookups in it, that came to a session and its line. -/
inductive Run (ahead : Bool) (config : Config) (member : Member) :
    List Visit → Session → Line → Prop where
  | created {session : Session} {line : Line}
      (creates : (create ahead config member).run.Yields Line.dialogue {} (.ok session) line) :
      Run ahead config member [] session line
  | lookup {visits : List Visit} {session later : Session} {line last : Line}
      {outcome : Except Failure KernelSymbol} (run : Run ahead config member visits session line)
      (kernel : Kernel)
      (looks : ((lookup kernel).run.run session).Yields Line.dialogue line (outcome, later) last) :
      Run ahead config member (visits ++ [⟨kernel, session, line, last⟩]) later last

namespace Run

variable {ahead owner : Bool} {config : Config} {rank size : UInt32} {visits : List Visit}
  {session : Session} {line : Line}

/-- The first search looks at the library. -/
theorem of_unprobed (run : Run ahead config (.ofRank rank size) visits session line) :
    Poised (rank == 0) session line ∧ session.config = config ∧
      (session.cache.probed = false → ∀ visit ∈ visits, ¬ visit.Searches) := by
  induction run with
  | created creates =>
    obtain ⟨poised, -, settings, -⟩ := (fulfils_create ahead config rank size).yields creates _ rfl
    exact ⟨poised, settings, fun _ _ inside => (List.not_mem_nil inside).elim⟩
  | lookup run kernel looks ih =>
    obtain ⟨poised, settings, unprobed⟩ := ih
    obtain ⟨poised', settings', -, fresh⟩ := (Line.secures_lookup poised kernel).yields looks
    refine ⟨poised', settings'.trans settings, fun probed visit inside => ?_⟩
    rcases List.mem_append.mp inside with earlier | here
    · exact unprobed (fresh probed).1 visit earlier
    · rw [List.mem_singleton.mp here]
      exact (fresh probed).2

/-- Every lookup is traced. -/
theorem traced_of_mem (run : Run ahead config (.ofRank rank size) visits session line)
    {front back : List Visit} {visit : Visit} (here : visits = front ++ visit :: back) :
    Traced config visit.kernel (visit.Searches ∧ ∀ earlier ∈ front, ¬ earlier.Searches)
      visit.line visit.last := by
  induction run generalizing back with
  | created creates => exact absurd here.symm (List.append_ne_nil_of_right_ne_nil _ (by simp))
  | lookup run kernel looks ih =>
    obtain ⟨poised, settings, unprobed⟩ := run.of_unprobed
    obtain ⟨-, -, traced, -⟩ := (Line.secures_lookup poised kernel).yields looks
    rcases back.eq_nil_or_concat with rfl | ⟨earlier, last, rfl⟩
    · obtain ⟨rfl, same⟩ := List.append_inj' here rfl
      obtain rfl := (List.cons.inj same).1
      rw [settings] at traced
      obtain ⟨middle, restore, build, asked, asked', handed, handed', pursued, pursued', restores,
        builds⟩ := traced
      refine ⟨middle, restore, build, asked, asked', handed, handed', pursued, pursued',
        fun some => ?_, builds⟩
      obtain ⟨⟨unknown, fresh⟩, restored⟩ := restores some
      exact ⟨⟨unknown, unprobed fresh⟩, restored⟩
    · have split : front ++ visit :: (earlier ++ [last]) = (front ++ visit :: earlier) ++ [last] := by
        simp
      rw [List.concat_eq_append, split] at here
      exact ih (List.append_inj' here rfl).1

/-- A member without a coordinator has handed nothing over. -/
theorem handed_nil_of_none (poised : Poised owner session line)
    (bare : session.coordinator = none) : line.handed = [] := by
  have counted := poised.counted
  rw [sent, bare] at counted
  exact List.eq_nil_of_length_eq_zero counted.symm

/-- Nothing is handed over behind a command that failed. -/
theorem nothing_behind (poised : Poised owner session line) {front back : List (Bytes × Verdict)}
    {entry : Bytes × Verdict} (here : line.handed = front ++ entry :: back)
    (fails : entry.2 ≠ .acknowledged) : back = [] := by
  have inside : entry ∈ line.handed := here ▸ List.mem_append_right _ List.mem_cons_self
  cases owns : session.coordinator with
  | none =>
    rw [handed_nil_of_none poised owns] at inside
    exact (List.not_mem_nil inside).elim
  | some coordinator =>
    cases dead : coordinator.dead with
    | false => exact absurd ((poised.alive coordinator owns dead).2 entry inside) fails
    | true =>
      obtain ⟨good, last, handed, acknowledged, -⟩ := poised.dead coordinator owns dead
      rcases back.eq_nil_or_concat with rfl | ⟨others, final, rfl⟩
      · rfl
      · have split : front ++ entry :: (others ++ [final]) = (front ++ entry :: others) ++ [final] :=
          by simp
        rw [List.concat_eq_append, split, handed] at here
        obtain ⟨rfl, -⟩ := List.append_inj' here rfl
        exact absurd (acknowledged entry (List.mem_append_right _ List.mem_cons_self)) fails

/-- **The commands of a run.** Every lookup sends a prefix of the commands that restore the library,
if it is the first that searches, and then a prefix of those that build its kernel; nothing follows
a command that failed; only rank zero sends commands, and the session counts them. -/
theorem commands_traced (run : Run ahead config (.ofRank rank size) visits session line) :
    (∀ front visit back, visits = front ++ visit :: back →
      Traced config visit.kernel (visit.Searches ∧ ∀ earlier ∈ front, ¬ earlier.Searches)
        visit.line visit.last) ∧
    (∀ front entry back, line.handed = front ++ entry :: back → entry.2 ≠ .acknowledged →
      back = []) ∧
    (rank ≠ 0 → line.handed = []) ∧
    session.sent = line.handed.length := by
  obtain ⟨poised, -, -⟩ := run.of_unprobed
  refine ⟨fun front visit back here => run.traced_of_mem here,
    fun front entry back here fails => nothing_behind poised here fails, fun other => ?_,
    poised.counted⟩
  have bare : session.coordinator = none := by
    have owned := poised.owned
    rw [beq_eq_false_iff_ne.mpr other] at owned
    exact Option.isNone_iff_eq_none.mp (Option.isSome_eq_false_iff.mp owned)
  exact handed_nil_of_none poised bare

end Run

end Session

/-! ### A run where all goes well -/

namespace Line

/-- Obliging surroundings: no library and no archive yet, and every command succeeds; the fresh image
is the given one. -/
def oblige (image : Image) : (effect : Effect) → StateM Line effect.Reply
  | .combine flag => fun line => (flag, line.note ⟨.combine flag, flag⟩)
  | .hire log => fun line =>
    (.ok (), { line.note ⟨.hire log, .ok ()⟩ with word := Channel.readyWord })
  | .look => fun line => (line.word, line.note ⟨.look, line.word⟩)
  | .fill command => fun line => ((), { line.note ⟨.fill command, ()⟩ with buffer := command })
  | .post word => fun line => ((), { line.note ⟨.post word, ()⟩ with word })
  | .await policy => fun line => (.acknowledged,
      (line.waited Channel.readyWord .acknowledged).note ⟨.await policy, .acknowledged⟩)
  | .reap => fun line => (.ok none, line.note ⟨.reap, .ok none⟩)
  | .join => fun line => (.ok none, line.note ⟨.join, .ok none⟩)
  | .kill => fun line => ((), line.note ⟨.kill, ()⟩)
  | .release => fun line => (.ok (), line.note ⟨.release, .ok ()⟩)
  | .present path => fun line => (false, line.note ⟨.present path, false⟩)
  | .openImage path => fun line => (.ok image, line.note ⟨.openImage path, .ok image⟩)
  | .writeSource path text => fun line => (.ok (), line.note ⟨.writeSource path text, .ok ()⟩)
  | .remove path => fun line => ((), line.note ⟨.remove path, ()⟩)

theorem answers_oblige (image : Image) (line : Line) (effect : Effect) :
    dialogue.answers line effect ((oblige image effect).run line).1
      ((oblige image effect).run line).2 := by
  cases effect with
  | combine flag => exact ⟨id, rfl⟩
  | look => exact ⟨rfl, rfl⟩
  | await policy => exact ⟨_, fun _ => rfl, rfl⟩
  | _ => exact rfl

end Line

namespace Session

/-- One kernel is looked up, with nothing in the cache: four commands are sent. -/
theorem commands_traced_build :
    let image : Image := ⟨7, [("f", ⟨3, "f"⟩)]⟩
    let kernel : Kernel := ⟨1, "f", "int f(void){return 1;}"⟩
    let begun := ((create false {} (.ofRank 0 1)).run.run (Line.oblige image)).run {}
    let session := assemble {} (.ofRank 0 1) (some { policy := ({} : Config).poll.policy })
    let ended := (((lookup kernel).run.run session).run (Line.oblige image)).run begun.2
    let visit : Visit := ⟨kernel, session, begun.2, ended.2⟩
    Run false {} (.ofRank 0 1) [visit] ended.1.2 ended.2 ∧ ended.2.handed.length = 4 ∧
      Traced {} kernel (visit.Searches ∧ ∀ earlier ∈ ([] : List Visit), ¬ earlier.Searches)
        begun.2 ended.2 ∧
      ended.1.2.sent = ended.2.handed.length := by
  intro image kernel begun session ended visit
  have creates : (create false {} (.ofRank 0 1)).run.Yields Line.dialogue {} (.ok session) begun.2 :=
    yields_run (Line.answers_oblige image) (create false {} (.ofRank 0 1)).run {}
  have looks : ((lookup kernel).run.run session).Yields Line.dialogue begun.2 ended.1 ended.2 :=
    yields_run (Line.answers_oblige image) _ _
  have run : Run false {} (.ofRank 0 1) [visit] ended.1.2 ended.2 :=
    .lookup (.created creates) kernel looks
  obtain ⟨traced, -, -, counted⟩ := run.commands_traced
  exact ⟨run, by decide +kernel, traced [] visit [] rfl, counted⟩

end Session

end KernelCache
