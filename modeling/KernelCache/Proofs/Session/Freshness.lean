import KernelCache.Proofs.Session.Founding
import KernelCache.Proofs.Session.Run
import KernelCache.Proofs.Workshop.Keeping

/-
**Images under fresh names.**

A loader that has a path open hands out the mapping that it has, whatever lies there now. A run looks
at the library and at its restored image once, and at the image of a kernel when it is built; so it
opens a path twice only when a kernel is built twice.

* `Session.reach session kernel`: the images that a lookup may open. `Line.ventures_lookup`: it opens
  no others, and none of them twice.
* `Session.Visit.Strands`: a lookup that has opened the image of its kernel, and fails.
* **`Session.Run.opens_once`**: in a run that does not repeat such a lookup, no path is opened twice,
  so every image that was opened is that of its file, and a fresh image answers for its kernel.
* **`Session.Reopening.opens_again`**: a run that repeats one is given the old image.
-/

namespace KernelCache

open KernelCache.Action

namespace Session

/-- The images that a lookup may open, in this order. -/
def reach (session : Session) (kernel : Kernel) : List Path :=
  match session.cache.remembered? kernel.hash, session.cache.probed with
  | some _, _ => []
  | none, true => [session.config.layout.image kernel]
  | none, false => [session.config.layout.library, session.config.layout.relinked,
      session.config.layout.image kernel]

/-- What a lookup leads to, as far as openings go. -/
structure Ventured (kernel : Kernel) (session : Session) (line : Line)
    (outcome : Except Failure KernelSymbol) (later : Session) (last : Line) : Prop where
  opens : line.Opens (session.reach kernel) last
  probed : session.cache.probed = true ∨ session.Unknown kernel.hash → later.cache.probed = true
  memo : session.cache.memo <:+ later.cache.memo
  answer : ∀ symbol, outcome = .ok symbol → later.cache.remembered? kernel.hash = some symbol
  fresh : line.Opens [session.config.layout.library, session.config.layout.relinked] last ∨
    last.Exports kernel session outcome

/-- What a session remembers it does not forget. -/
theorem Unknown.of_suffix {session later : Session} {hash : UInt64}
    (memo : session.cache.memo <:+ later.cache.memo) (unknown : later.Unknown hash) :
    session.Unknown hash := by
  obtain ⟨newer, same⟩ := memo
  have behind : (newer ++ session.cache.memo).lookup hash = none := same.symm ▸ unknown
  rw [List.lookup_append, Option.or_eq_none_iff] at behind
  exact behind.2

end Session

namespace Line

open Session

variable {owner : Bool} {session : Session} {line : Line}

/-- **A lookup opens only what is in its reach**, in that order. -/
theorem ventures_lookup (poised : Poised owner session line) (kernel : Kernel) :
    Secures dialogue (lookup kernel) (Ventured kernel session line) session line := by
  refine Secures.get ?_
  cases known : session.cache.remembered? kernel.hash with
  | some symbol =>
    have unasked : line.Opens [] line := (Goes.refl line).opens
    refine Secures.pure ⟨unasked.mono (List.nil_sublist _), fun probed => ?_, List.suffix_rfl, ?_,
      .inl (unasked.mono (List.nil_sublist _))⟩
    · exact probed.resolve_right fun unknown => nomatch known.symm.trans unknown
    · rintro _ ⟨⟩
      exact known
  | none =>
    refine Secures.get ?_
    cases probed : session.cache.probed with
    | true =>
      have reach : session.reach kernel = [session.config.layout.image kernel] := by
        rw [Session.reach, known, probed]
      refine (secures_find poised kernel).mono fun outcome later last searched => ?_
      have built := searched.built
      exact ⟨reach ▸ built.opens, fun _ => built.probed.trans probed, built.memo, searched.remembered,
        searched.fresh.imp_left fun opens => opens.mono (List.nil_sublist _)⟩
    | false =>
      have reach : session.reach kernel = [session.config.layout.library,
          session.config.layout.relinked] ++ [session.config.layout.image kernel] := by
        rw [Session.reach, known, probed]
        rfl
      have looked : ∀ {later : Session} {last : Line} {failing : Bool} {paths : List Path},
          Probed owner session line failing paths later last →
            later.cache.probed = true ∧ later.cache.memo = session.cache.memo :=
        fun probed => Prod.mk.inj probed.decisive
      refine Secures.bind _ (secures_probeLibrary poised) ?_ ?_
      · rintro value between middle probe
        refine (secures_find probe.poised kernel).mono fun outcome later last searched => ?_
        have built := searched.built
        have opens := probe.opens.trans built.opens
        rw [probe.config, ← reach] at opens
        refine ⟨opens, fun _ => built.probed.trans (looked probe).1, (looked probe).2 ▸ built.memo,
          searched.remembered, searched.fresh.imp (fun still => ?_) fun exports => ?_⟩
        · exact probe.opens.trans still
        · rwa [Exports, probe.config] at exports
      · rintro failure later last probe
        refine ⟨reach ▸ probe.opens.mono (List.sublist_append_left _ _), fun _ => (looked probe).1, ?_,
          fun _ same => (nomatch same), .inl probe.opens⟩
        rw [(looked probe).2]

end Line

namespace Session

variable {config : Config} {kernels : Kernel → Prop} {kernel : Kernel}

/-- Kernels with the same image have the same hash. -/
theorem image_inj {other : Kernel}
    (same : (config.layout.image kernel).components = (config.layout.image other).components) :
    kernel.hash = other.hash := by
  rw [Config.image_eq, Config.image_eq] at same
  exact (Config.kernelFile_inj Config.slash_notMem_so Config.slash_notMem_so same).1

/-- The images that a lookup may open are distinct. -/
theorem pairwise_images (distinct : config.Distinct kernels) (listed : kernels kernel) :
    [config.layout.library, config.layout.relinked, config.layout.image kernel].Pairwise
      fun first second => first.components ≠ second.components := by
  refine ((distinct.apart listed).sublist ?_).imp beq_eq_false_iff_ne.mp
  exact .cons _ (.cons_cons _ (.cons_cons _ (.cons _ (.cons _ (.cons_cons _ .slnil)))))

/-- The image of a kernel is neither the library nor the restored image. -/
theorem image_ne_shared (distinct : config.Distinct kernels) (listed : kernels kernel) {path : Path}
    (shared : path ∈ [config.layout.library, config.layout.relinked]) :
    path.components ≠ (config.layout.image kernel).components := by
  have images := pairwise_images distinct listed
  rw [List.pairwise_cons, List.pairwise_cons] at images
  obtain ⟨library, relinked, -⟩ := images
  rcases List.mem_pair.mp shared with rfl | rfl
  · exact library _ (List.mem_cons_of_mem _ (List.mem_singleton_self _))
  · exact relinked _ (List.mem_singleton_self _)

theorem reach_sublist (session : Session) (kernel : Kernel) :
    (session.reach kernel).Sublist [session.config.layout.library, session.config.layout.relinked,
      session.config.layout.image kernel] := by
  unfold reach
  split
  · exact List.nil_sublist _
  · exact List.sublist_append_right [session.config.layout.library, session.config.layout.relinked] _
  · exact List.Sublist.refl _

/-- A lookup opens something only when it has to search, and the library and the restored image only
in the first search. -/
theorem mem_reach {session : Session} {path : Path} (inside : path ∈ session.reach kernel) :
    session.Unknown kernel.hash ∧
      (path ∈ [session.config.layout.library, session.config.layout.relinked] ∧
          session.cache.probed = false ∨
        path = session.config.layout.image kernel) := by
  unfold reach at inside
  split at inside
  · exact (List.not_mem_nil inside).elim
  · rename_i unknown _
    exact ⟨unknown, .inr (List.mem_singleton.mp inside)⟩
  · rename_i unknown unprobed
    refine ⟨unknown, ?_⟩
    rw [List.mem_cons, List.mem_cons, List.mem_singleton] at inside
    rw [← or_assoc, ← List.mem_pair] at inside
    exact inside.imp_left fun shared => ⟨shared, unprobed⟩

namespace Visit

/-- The paths that were opened in the lookup. -/
def opened (visit : Visit) : List Path :=
  (visit.last.openings.drop visit.line.openings.length).map Prod.fst

/-- The lookup fails. -/
def Fails (visit : Visit) : Prop :=
  ∃ failure later, ((lookup visit.kernel).run.run visit.session).Yields Line.dialogue visit.line
    (.error failure, later) visit.last

/-- The lookup has opened the image of its kernel, and fails. -/
def Strands (config : Config) (visit : Visit) : Prop :=
  visit.Fails ∧ config.layout.image visit.kernel ∈ visit.opened

/-- The lookup answers this symbol. -/
def Answers (visit : Visit) (symbol : KernelSymbol) : Prop :=
  ∃ later, ((lookup visit.kernel).run.run visit.session).Yields Line.dialogue visit.line
    (.ok symbol, later) visit.last

theorem opened_of_openings {visit : Visit} {fresh : List (Path × Image)}
    (openings : visit.last.openings = visit.line.openings ++ fresh) :
    visit.opened = fresh.map Prod.fst := by
  rw [opened, openings, List.drop_left]

end Visit

/-- Why a path is open: the library and the restored image are opened in the first search, and the
image of a kernel in a lookup that then remembers the kernel or fails. -/
def Accounted (config : Config) (visits : List Visit) (session : Session) (path : Path) : Prop :=
  path ∈ [config.layout.library, config.layout.relinked] ∧ session.cache.probed = true ∨
    ∃ visit ∈ visits, path = config.layout.image visit.kernel ∧
      (¬ session.Unknown visit.kernel.hash ∨ visit.Strands config)

namespace Accounted

variable {visits more : List Visit} {session last : Session} {path : Path}

/-- It stays so. -/
theorem later (accounted : Accounted config visits session path)
    (probed : session.cache.probed = true → last.cache.probed = true)
    (memo : session.cache.memo <:+ last.cache.memo) :
    Accounted config (visits ++ more) last path := by
  rcases accounted with ⟨shared, looked⟩ | ⟨visit, inside, same, reason⟩
  · exact .inl ⟨shared, probed looked⟩
  · exact .inr ⟨visit, List.mem_append_left _ inside, same,
      reason.imp_left (mt (Unknown.of_suffix memo))⟩

/-- A lookup opens nothing that is open, unless one of the same hash opened its image and failed. -/
theorem apart {old : Path} (accounted : Accounted config visits session old)
    (distinct : config.Distinct kernels) (listed : ∀ visit ∈ visits, kernels visit.kernel)
    (here : kernels kernel) (settings : session.config = config)
    (unrepeated : ∀ visit ∈ visits, visit.Strands config → kernel.hash ≠ visit.kernel.hash)
    (inside : path ∈ session.reach kernel) : old.components ≠ path.components := by
  obtain ⟨unknown, place⟩ := mem_reach inside
  rw [settings] at place
  rcases accounted with ⟨shared, probed⟩ | ⟨visit, visited, image, reason⟩
  · rcases place with ⟨-, unprobed⟩ | own
    · exact absurd (unprobed.symm.trans probed) Bool.false_ne_true
    · rw [own]
      exact image_ne_shared distinct here shared
  · rw [image]
    rcases place with ⟨shared, -⟩ | own
    · exact (image_ne_shared distinct (listed visit visited) shared).symm
    · rw [own]
      intro same
      rcases reason with known | strands
      · exact known (image_inj same ▸ unknown)
      · exact unrepeated visit visited strands (image_inj same).symm

/-- What a lookup opens is accounted for when it is over. -/
theorem of_opened (visit : Visit) {outcome : Except Failure KernelSymbol}
    (looks : ((lookup visit.kernel).run.run visit.session).Yields Line.dialogue visit.line
      (outcome, last) visit.last)
    (ventured : Ventured visit.kernel visit.session visit.line outcome last visit.last)
    (reached : path ∈ visit.session.reach visit.kernel) (opened : path ∈ visit.opened) :
    Accounted visit.session.config (visits ++ [visit]) last path := by
  obtain ⟨unknown, ⟨shared, -⟩ | own⟩ := mem_reach reached
  · exact .inl ⟨shared, ventured.probed (.inr unknown)⟩
  · refine .inr ⟨visit, List.mem_append_right _ (List.mem_singleton_self _), own, ?_⟩
    cases outcome with
    | ok symbol =>
      exact .inl fun forgotten => nomatch (ventured.answer symbol rfl).symm.trans forgotten
    | error failure => exact .inr ⟨⟨failure, last, looks⟩, own ▸ opened⟩

end Accounted

/-- The paths of two openings differ. -/
def Apart (first second : Path × Image) : Prop :=
  first.1.components ≠ second.1.components

instance : DecidableRel Apart := fun first second =>
  inferInstanceAs (Decidable (first.1.components ≠ second.1.components))

section
variable {held : Nat → Image} {openings : List (Path × Image)}

/-- A loader maps the image that the file at a path holds, except that a path which is open keeps the
image of its first opening. `held` tells what the file holds at each opening. -/
def Sticky (held : Nat → Image) (openings : List (Path × Image)) : Prop :=
  ∀ index (bound : index < openings.length),
    openings[index].2 = held (openings.findIdx fun first => first.1.same openings[index].1)

instance : Decidable (Sticky held openings) :=
  inferInstanceAs (Decidable (∀ index (bound : index < openings.length),
    openings[index].2 = held (openings.findIdx fun first => first.1.same openings[index].1)))

/-- Every opening has given the image that its file held then. -/
def Current (held : Nat → Image) (openings : List (Path × Image)) : Prop :=
  ∀ index (bound : index < openings.length), openings[index].2 = held index

instance : Decidable (Current held openings) :=
  inferInstanceAs (Decidable (∀ index (bound : index < openings.length),
    openings[index].2 = held index))

/-- What the file at a path held, when it was opened, has this symbol under this name. -/
def Offers (held : Nat → Image) (openings : List (Path × Image)) (path : Path) (name : String)
    (symbol : KernelSymbol) : Prop :=
  ∃ index, ∃ bound : index < openings.length, openings[index].1 = path ∧
    (held index).find? name = some symbol

/-- When every path is opened once, it does not matter that the loader keeps images. -/
theorem Sticky.current (sticky : Sticky held openings) (apart : openings.Pairwise Apart) :
    Current held openings := by
  intro index bound
  have first : openings.findIdx (fun first => first.1.same openings[index].1) = index := by
    refine (List.findIdx_eq bound).mpr ⟨beq_self_eq_true _, fun before earlier => ?_⟩
    exact beq_eq_false_iff_ne.mpr (List.pairwise_iff_getElem.mp apart before index _ bound earlier)
  rw [sticky index bound, first]

theorem Current.offers (current : Current held openings) {path : Path} {image : Image}
    {name : String} {symbol : KernelSymbol} (known : (path, image) ∈ openings)
    (found : image.find? name = some symbol) : Offers held openings path name symbol := by
  obtain ⟨index, bound, here⟩ := List.getElem_of_mem known
  have same := current index bound
  rw [here] at same
  exact ⟨index, bound, by rw [here], same ▸ found⟩

end

namespace Run

variable {ahead : Bool} {rank size : UInt32} {visits : List Visit} {session : Session} {line : Line}

/-- A new session has opened nothing. -/
theorem openings_nil
    (creates : (create ahead config (.ofRank rank size)).run.Yields Line.dialogue {} (.ok session)
      line) : line.openings = [] := by
  obtain ⟨poised, -⟩ := (fulfils_create ahead config rank size).yields creates session rfl
  obtain ⟨-, -, images⟩ :=
    (fulfils_blank_create ahead config (.ofRank rank size) {}).yields creates session rfl
  have goes : Line.Goes {} line := ⟨List.nil_prefix, poised.images.symm.trans images⟩
  obtain ⟨fresh, same, none⟩ := goes.opens
  rw [same, List.map_eq_nil_iff.mp (List.sublist_nil.mp none)]
  rfl

/-- Every path that is open is accounted for, and no path was opened twice. -/
theorem accounted (run : Run ahead config (.ofRank rank size) visits session line)
    (distinct : config.Distinct kernels) (listed : ∀ visit ∈ visits, kernels visit.kernel)
    (unrepeated : visits.Pairwise fun visit again =>
      visit.Strands config → again.kernel.hash ≠ visit.kernel.hash) :
    line.openings.Pairwise Apart ∧
      ∀ opening ∈ line.openings, Accounted config visits session opening.1 := by
  induction run with
  | created creates =>
    rw [openings_nil creates]
    exact ⟨.nil, fun _ inside => (List.not_mem_nil inside).elim⟩
  | @lookup visits session later line last outcome run kernel looks ih =>
    obtain ⟨others, -, repeated⟩ := List.pairwise_append.mp unrepeated
    have before : ∀ visit ∈ visits, kernels visit.kernel := fun visit inside =>
      listed visit (List.mem_append_left _ inside)
    obtain ⟨apart, accounted⟩ := ih before others
    obtain ⟨poised, rfl, -⟩ := run.of_unprobed
    have ventured := (Line.ventures_lookup poised kernel).yields looks
    obtain ⟨fresh, openings, inside⟩ := ventured.opens
    let visit : Visit := ⟨kernel, session, line, last⟩
    have here : kernels kernel := listed visit (List.mem_append_right _ (List.mem_singleton_self _))
    have reached : ∀ opening ∈ fresh, opening.1 ∈ session.reach kernel := fun opening new =>
      inside.subset (List.mem_map_of_mem new)
    rw [openings]
    constructor
    · have images := List.pairwise_map.mp
        ((pairwise_images distinct here).sublist (inside.trans (reach_sublist _ _)))
      refine List.pairwise_append.mpr ⟨apart, images, fun old known new opened => ?_⟩
      exact (accounted old known).apart distinct before here rfl
        (fun visit inside => repeated visit inside _ (List.mem_singleton_self _)) (reached new opened)
    · intro opening opened
      rcases List.mem_append.mp opened with old | new
      · exact (accounted opening old).later (fun looked => ventured.probed (.inl looked)) ventured.memo
      · have taken : visit.opened = fresh.map Prod.fst := Visit.opened_of_openings openings
        exact .of_opened visit looks ventured (reached opening new) (taken ▸ List.mem_map_of_mem new)

/-- A lookup that has opened the image of its kernel answers a symbol of that image. -/
theorem exports (run : Run ahead config (.ofRank rank size) visits session line)
    (distinct : config.Distinct kernels) (listed : ∀ visit ∈ visits, kernels visit.kernel)
    {visit : Visit} (visited : visit ∈ visits) {symbol : KernelSymbol}
    (answers : visit.Answers symbol) (opened : config.layout.image visit.kernel ∈ visit.opened) :
    ∃ image, (config.layout.image visit.kernel, image) ∈ line.openings ∧
      image.find? visit.kernel.symbol = some symbol := by
  induction run with
  | created creates => exact (List.not_mem_nil visited).elim
  | @lookup visits session later line last outcome run kernel looks ih =>
    obtain ⟨poised, rfl, -⟩ := run.of_unprobed
    rcases List.mem_append.mp visited with earlier | here
    · have ventured := (Line.ventures_lookup poised kernel).yields looks
      obtain ⟨image, known, found⟩ :=
        ih (fun visit inside => listed visit (List.mem_append_left _ inside)) earlier
      exact ⟨image, ventured.opens.subset known, found⟩
    · obtain rfl := List.mem_singleton.mp here
      obtain ⟨_, answered⟩ := answers
      rcases ((Line.ventures_lookup poised kernel).yields answered).fresh with opens | exports
      · -- The library and the restored image are not the image of a kernel.
        obtain ⟨fresh, openings, inside⟩ := opens
        rw [Visit.opened_of_openings openings] at opened
        exact absurd rfl (image_ne_shared distinct (listed _ visited) (inside.subset opened))
      · exact exports symbol rfl

/-- **Images are opened under fresh names.** When the generated names are distinct, a run that never
looks a hash up again whose image it has opened in a lookup that failed opens no path twice. So every
image that it is given is the one that the file holds when it is opened, though the loader keeps what
is open; and a lookup that has opened a fresh image answers a symbol of what the file held. -/
theorem opens_once (run : Run ahead config (.ofRank rank size) visits session line)
    (distinct : config.Distinct kernels) (listed : ∀ visit ∈ visits, kernels visit.kernel)
    (unrepeated : visits.Pairwise fun visit again =>
      visit.Strands config → again.kernel.hash ≠ visit.kernel.hash) :
    line.openings.Pairwise Apart ∧
      ∀ held, Sticky held line.openings → Current held line.openings ∧
        ∀ visit ∈ visits, ∀ symbol, visit.Answers symbol →
          config.layout.image visit.kernel ∈ visit.opened →
            Offers held line.openings (config.layout.image visit.kernel) visit.kernel.symbol
              symbol := by
  have apart := (run.accounted distinct listed unrepeated).1
  refine ⟨apart, fun held sticky => ?_⟩
  have current := sticky.current apart
  refine ⟨current, fun visit visited symbol answers opened => ?_⟩
  obtain ⟨image, known, found⟩ := run.exports distinct listed visited answers opened
  exact current.offers known found

end Run

/-! ### A name that is used again -/

namespace Reopening

/-- Obliging surroundings with a loader that keeps what is open; `held` tells what the file holds at
each opening. -/
def keep (held : Nat → Image) : (effect : Effect) → StateM Line effect.Reply
  | .openImage path => fun line =>
    let image := held (line.openings.findIdx fun first => first.1.same path)
    (.ok image, line.note ⟨.openImage path, .ok image⟩)
  | effect => Line.oblige ⟨0, []⟩ effect

theorem answers_keep (held : Nat → Image) (line : Line) (effect : Effect) :
    Line.dialogue.answers line effect ((keep held effect).run line).1
      ((keep held effect).run line).2 := by
  cases effect with
  | openImage path => exact rfl
  | _ => exact Line.answers_oblige ⟨0, []⟩ line _

/-- Two kernels; the first one has its function only when it is compiled for the second time. -/
def first : Kernel := ⟨1, "f", "#include \"h.h\""⟩

def second : Kernel := ⟨2, "g", "int g(void){return 2;}"⟩

/-- What the openings find, when the image that is opened second has this function. -/
def held (symbol : String) : Nat → Image
  | 1 => ⟨1, [(symbol, ⟨1, symbol⟩)]⟩
  | serial => ⟨serial, []⟩

/-- A new session. -/
def begun (held : Nat → Image) : Except Failure Session × Line :=
  ((create false {} (.ofRank 0 1)).run.run (keep held)).run {}

def session : Session := assemble {} (.ofRank 0 1) (some { policy := ({} : Config).poll.policy })

/-- The first kernel is looked up, in vain. -/
def missed (held : Nat → Image) : (Except Failure KernelSymbol × Session) × Line :=
  (((lookup first).run.run session).run (keep held)).run (begun held).2

/-- Another lookup. -/
def further (held : Nat → Image) (kernel : Kernel) :
    (Except Failure KernelSymbol × Session) × Line :=
  (((lookup kernel).run.run (missed held).1.2).run (keep held)).run (missed held).2

def visits (held : Nat → Image) (kernel : Kernel) : List Visit :=
  [⟨first, session, (begun held).2, (missed held).2⟩,
    ⟨kernel, (missed held).1.2, (missed held).2, (further held kernel).2⟩]

theorem run (held : Nat → Image) (kernel : Kernel) :
    Run false {} (.ofRank 0 1) (visits held kernel) (further held kernel).1.2
      (further held kernel).2 := by
  have creates : (create false {} (.ofRank 0 1)).run.Yields Line.dialogue {} (.ok session)
      (begun held).2 :=
    yields_run (answers_keep held) (create false {} (.ofRank 0 1)).run {}
  exact .lookup (.lookup (.created creates) first (yields_run (answers_keep held) _ _)) kernel
    (yields_run (answers_keep held) _ _)

theorem distinct : Config.Distinct {} fun kernel => kernel = first ∨ kernel = second where
  accepted := by decide
  extension := by decide
  separated := by
    rintro kernel (rfl | rfl)
    · decide
    · decide

/-- After a lookup that failed, another kernel is found in its own image. -/
theorem opens_once_second :
    let last := (further (held "g") second).2
    let symbol : KernelSymbol := { entry := ⟨1, "g"⟩, image := 1 }
    (further (held "g") second).1.1 = .ok symbol ∧ Sticky (held "g") last.openings ∧
      last.openings.Pairwise Apart ∧ Current (held "g") last.openings ∧
      Offers (held "g") last.openings (({} : Config).layout.image second) "g" symbol := by
  intro last symbol
  let visit : Visit := ⟨second, (missed (held "g")).1.2, (missed (held "g")).2, last⟩
  have listed : ∀ visit ∈ visits (held "g") second, visit.kernel = first ∨ visit.kernel = second := by
    intro visit inside
    rcases List.mem_pair.mp inside with rfl | rfl
    · exact .inl rfl
    · exact .inr rfl
  have unrepeated : (visits (held "g") second).Pairwise fun visit again =>
      visit.Strands {} → again.kernel.hash ≠ visit.kernel.hash :=
    List.pairwise_pair.mpr fun _ => by decide
  have visited : visit ∈ visits (held "g") second := List.mem_pair.mpr (.inr rfl)
  have seen : (further (held "g") second).1.1 = .ok symbol ∧ Sticky (held "g") last.openings ∧
      ({} : Config).layout.image second ∈ visit.opened := by decide +kernel
  have answers : visit.Answers symbol := by
    have looks : ((lookup second).run.run (missed (held "g")).1.2).Yields Line.dialogue
        (missed (held "g")).2 (further (held "g") second).1 last := yields_run (answers_keep _) _ _
    rw [← Prod.eta (further (held "g") second).1, seen.1] at looks
    exact ⟨_, looks⟩
  obtain ⟨apart, sticks⟩ := (run (held "g") second).opens_once distinct listed unrepeated
  obtain ⟨current, offers⟩ := sticks _ seen.2.1
  exact ⟨seen.1, seen.2.1, apart, current, offers visit visited symbol answers seen.2.2⟩

/-- **The old image is handed out** when a lookup is repeated after it has opened its image and
failed: the file holds the function by now, and the lookup fails again. -/
theorem opens_again :
    let last := (further (held "f") first).2
    Run false {} (.ofRank 0 1) (visits (held "f") first) (further (held "f") first).1.2 last ∧
      Config.Distinct {} (fun kernel => kernel = first ∨ kernel = second) ∧
      Sticky (held "f") last.openings ∧
      ¬ last.openings.Pairwise Apart ∧ ¬ Current (held "f") last.openings ∧
      (held "f" 1).find? first.symbol ≠ none ∧
      (further (held "f") first).1.1 = .error (.symbolMissing "f") := by
  refine ⟨run _ _, distinct, ?_⟩
  decide +kernel

end Reopening

end Session

end KernelCache
