import KernelCache.Proofs.Cache.Steps

/-
**Images are retained.**

Four operations work on the cache of a run: the library is looked at, an image is loaded, a name is
resolved, and a symbol is remembered. This module says what a series of them leads to, however the
loader answers.

* `Cache.Admits kernels cache operation`: an operation, as lookups of some kernels issue it. The
  library is looked at once, other images are loaded under the names of generated files, and only what
  is not known is remembered, by the newest definition of a kernel's symbol. `Cache.after` is the cache
  behind it (`Cache.run_load_after`, `Cache.run_probe_after` and `Cache.remember_eq_after`), and
  `Cache.Undergoes kernels first operations last` a series of them.
* `Image.Newest` and `Cache.Resolved`: the last of the opened images that exports a name, and what a
  name is resolved to.
* **`Cache.Undergoes.lasts`**: images are only added, and what is remembered stays as it is.
* **`Cache.Undergoes.accounted`**: a cache that was empty holds the opened images, one for each
  success; what it remembers belongs to one of them; and the library was looked at at most once.
* `Cache.Undergoes.attempts_library`: the library is opened in no other way, unless the image of a
  kernel leads to it.
-/

namespace KernelCache

/-! ### Images and their functions -/

namespace Image

variable {image : Image} {name : String} {symbol : KernelSymbol}

/-- The symbol is a function of this image. -/
def Owns (image : Image) (symbol : KernelSymbol) : Prop :=
  symbol.image = image.serial ∧ ∃ name, (name, symbol.entry) ∈ image.exports

theorem owns_of_find? (found : image.find? name = some symbol) : image.Owns symbol := by
  obtain ⟨entry, here, rfl⟩ := Option.map_eq_some_iff.mp found
  obtain ⟨front, back, exports, -⟩ := List.lookup_eq_some_iff.mp here
  exact ⟨rfl, plainName name, exports ▸ List.mem_append_right _ List.mem_cons_self⟩

/-- The image is the last of some, in the order in which they were opened, that exports a name. -/
def Newest (opened : List Image) (name : String) (image : Image) : Prop :=
  ∃ earlier later, opened = earlier ++ image :: later ∧ image.Exports (plainName name) ∧
    ∀ newer ∈ later, ¬ newer.Exports (plainName name)

end Image

/-! ### Operations -/

/-- The path is that of a generated image: the restored library, or the image of a kernel. -/
def Layout.Generates (layout : Layout) (kernels : Kernel → Prop) (path : Path) : Prop :=
  path = layout.relinked ∨ ∃ kernel, kernels kernel ∧ path = layout.image kernel

/-- What a loader answers. -/
abbrev Loading := Except (Path × LoadFault) Image

namespace Cache

/-- An operation on a cache, with what came of it. -/
inductive Operation where
  /-- The library is looked at, and opened when it is there. -/
  | probe (loading? : Option Loading)
  | load (path : Path) (loading : Loading)
  | resolve (name : String) (found : Option KernelSymbol)
  | remember (hash : UInt64) (symbol : KernelSymbol)

namespace Operation

/-- The path that was handed to the loader, and the loader's answer. -/
def attempt? (library : Path) : Operation → Option (Path × Loading)
  | probe loading? => loading?.map fun loading => (library, loading)
  | load path loading => some (path, loading)
  | resolve _ _ | remember _ _ => none

/-- The image that was opened. -/
def opened? : Operation → Option Image
  | probe loading? => loading?.bind Except.toOption
  | load _ loading => loading.toOption
  | resolve _ _ | remember _ _ => none

/-- What was remembered. -/
def entry? : Operation → Option (UInt64 × KernelSymbol)
  | remember hash symbol => some (hash, symbol)
  | probe _ | load _ _ | resolve _ _ => none

/-- Whether the library was looked at. -/
def isProbe : Operation → Bool
  | probe _ => true
  | load _ _ | resolve _ _ | remember _ _ => false

end Operation

/-- A retained image has the symbol. -/
def Holds (cache : Cache) (symbol : KernelSymbol) : Prop :=
  ∃ image ∈ cache.images, image.Owns symbol

/-- The cache after an operation. -/
def after (cache : Cache) (operation : Operation) : Cache where
  layout := cache.layout
  probed := operation.isProbe || cache.probed
  images := operation.opened?.toList ++ cache.images
  memo := operation.entry?.toList ++ cache.memo

/-- What lookups of some kernels do to a cache. -/
def Admits (kernels : Kernel → Prop) (cache : Cache) : Operation → Prop
  | .probe _ => cache.probed = false
  | .load path _ => cache.layout.Generates kernels path
  | .resolve name found => found = cache.resolve? name
  | .remember hash symbol => cache.remembered? hash = none ∧
      ∃ kernel, kernels kernel ∧ kernel.hash = hash ∧ cache.resolve? kernel.symbol = some symbol

/-- A series of operations, in the order in which they were issued. -/
inductive Undergoes (kernels : Kernel → Prop) (first : Cache) : List Operation → Cache → Prop where
  | refl : Undergoes kernels first [] first
  | snoc {operations : List Operation} {cache : Cache} {operation : Operation}
      (undergoes : Undergoes kernels first operations cache)
      (admits : cache.Admits kernels operation) :
      Undergoes kernels first (operations ++ [operation]) (cache.after operation)

variable {kernels wider : Kernel → Prop} {first cache later last : Cache} {operation : Operation}
  {operations others front back : List Operation} {name : String} {symbol : KernelSymbol}

/-! ### What a name is resolved to -/

/-- What a name is resolved to, when these images were opened. -/
def Resolved (opened : List Image) (name : String) : Option KernelSymbol → Prop
  | some symbol => ∃ image, Image.Newest opened name image ∧ image.find? name = some symbol
  | none => ∀ image ∈ opened, ¬ image.Exports (Image.plainName name)

/-- **The newest definition wins**, and a name is unresolved only if no image exports it. -/
theorem resolved_resolve? (cache : Cache) (name : String) :
    Resolved cache.images.reverse name (cache.resolve? name) := by
  cases found : cache.resolve? name with
  | some symbol =>
    obtain ⟨newer, image, older, images, here, silent⟩ := List.findSome?_eq_some_iff.mp found
    refine ⟨image, ⟨older.reverse, newer.reverse, ?_, Image.exports_of_find? here, ?_⟩, here⟩
    · rw [images, List.reverse_append, List.reverse_cons, List.append_assoc, List.singleton_append]
    · exact fun other inside =>
        Image.find?_eq_none_iff.mp (silent other (List.mem_reverse.mp inside))
  | none =>
    have silent := List.findSome?_eq_none_iff.mp found
    exact fun image inside => Image.find?_eq_none_iff.mp (silent image (List.mem_reverse.mp inside))

theorem holds_of_resolve? (found : cache.resolve? name = some symbol) : cache.Holds symbol := by
  obtain ⟨image, inside, here⟩ := List.exists_of_findSome?_eq_some found
  exact ⟨image, inside, Image.owns_of_find? here⟩

/-- What the newest image exports is found there. -/
theorem resolve?_of_newest {image : Image} (newest : cache.images.head? = some image)
    (found : image.find? name = some symbol) : cache.resolve? name = some symbol := by
  obtain ⟨older, images⟩ := List.head?_eq_some_iff.mp newest
  rw [resolve?, images, List.findSome?_cons, found]

/-! ### One operation -/

/-- Loading is an operation. -/
theorem run_load_after (path : Path) (cache : Cache) :
    (load path).run.run cache = .ask (.openImage path) fun (loading : Loading) =>
      .done (loading.mapError fun failure => .load failure.1 failure.2,
        cache.after (.load path loading)) := by
  rw [run_load]
  refine congrArg (Action.ask (Effect.openImage path)) (funext fun loading => ?_)
  rcases loading with ⟨place, fault⟩ | image
  · rfl
  · rfl

/-- To look at the library is an operation. -/
theorem run_probe_after (cache : Cache) :
    probe.run.run cache = .ask (.present cache.layout.library) fun (there : Bool) =>
      if there = true then .ask (.openImage cache.layout.library) fun (loading : Loading) =>
        .done (.ok loading.toBool, cache.after (.probe (some loading)))
      else .done (.ok false, cache.after (.probe none)) := by
  rw [run_probe]
  refine congrArg (Action.ask (Effect.present cache.layout.library)) (funext fun there => ?_)
  cases there with
  | false => rfl
  | true =>
    refine congrArg (Action.ask (Effect.openImage cache.layout.library)) (funext fun loading => ?_)
    cases loading with
    | error failure => rfl
    | ok image => rfl

theorem remember_eq_after (cache : Cache) (hash : UInt64) (symbol : KernelSymbol) :
    cache.remember hash symbol = cache.after (.remember hash symbol) := rfl

namespace Admits

variable (admits : cache.Admits kernels operation)
include admits

theorem mono (implied : ∀ kernel, kernels kernel → wider kernel) : cache.Admits wider operation := by
  cases operation with
  | probe loading? => exact admits
  | load path loading =>
    exact Or.imp_right (fun ⟨kernel, listed, same⟩ => ⟨kernel, implied kernel listed, same⟩) admits
  | resolve name found => exact admits
  | remember hash symbol =>
    obtain ⟨unknown, kernel, listed, newest⟩ := admits
    exact ⟨unknown, kernel, implied kernel listed, newest⟩

/-- What is remembered is neither replaced nor removed. -/
theorem remembered {hash : UInt64} (known : cache.remembered? hash = some symbol) :
    (cache.after operation).remembered? hash = some symbol := by
  cases operation with
  | remember other symbol =>
    rw [← remember_eq_after, remembered?_remember_of_ne ?_]
    · exact known
    · rintro rfl
      rw [admits.1] at known
      cases known
  | _ => exact known

/-- The library is looked at once. -/
theorem probed : (cache.after operation).probed.toNat =
    cache.probed.toNat + operation.isProbe.toNat := by
  cases operation with
  | probe loading? =>
    have unprobed : cache.probed = false := admits
    rw [unprobed]
    rfl
  | _ => rfl

end Admits

/-! ### A series of operations -/

/-- A cache and what it becomes: images are only added, and what is remembered stays. -/
structure Lasts (cache later : Cache) : Prop where
  layout : later.layout = cache.layout
  images : cache.images <:+ later.images
  memo : cache.memo <:+ later.memo
  remembered : ∀ hash symbol, cache.remembered? hash = some symbol →
    later.remembered? hash = some symbol

namespace Lasts

theorem refl (cache : Cache) : cache.Lasts cache :=
  ⟨rfl, List.suffix_rfl, List.suffix_rfl, fun _ _ => id⟩

theorem trans (lasts : first.Lasts cache) (further : cache.Lasts later) : first.Lasts later where
  layout := further.layout.trans lasts.layout
  images := lasts.images.trans further.images
  memo := lasts.memo.trans further.memo
  remembered hash symbol known := further.remembered hash symbol (lasts.remembered hash symbol known)

theorem holds (lasts : cache.Lasts later) (holds : cache.Holds symbol) : later.Holds symbol :=
  holds.imp fun _ => And.imp_left fun inside => lasts.images.subset inside

end Lasts

/-- **One operation** adds what it opens to the images, and what it remembers to the rest. -/
theorem Admits.lasts (admits : cache.Admits kernels operation) :
    cache.Lasts (cache.after operation) where
  layout := rfl
  images := List.suffix_append _ _
  memo := List.suffix_append _ _
  remembered _ _ known := admits.remembered known

/-- What a cache that was empty has become of operations. -/
structure Accounted (operations : List Operation) (cache : Cache) : Prop where
  /-- One image for every opening that succeeded, the newest first. -/
  images : cache.images = (operations.filterMap Operation.opened?).reverse
  memo : cache.memo = (operations.filterMap Operation.entry?).reverse
  /-- No hash is remembered twice. -/
  unique : (cache.memo.map Prod.fst).Nodup
  held : ∀ entry ∈ cache.memo, cache.Holds entry.2
  probed : operations.countP Operation.isProbe = cache.probed.toNat

namespace Accounted

theorem empty (layout : Layout) : Accounted [] { layout } where
  images := rfl
  memo := rfl
  unique := List.nodup_nil
  held _ inside := (List.not_mem_nil inside).elim
  probed := rfl

/-- One more operation. -/
theorem snoc (accounted : Accounted operations cache) (admits : cache.Admits kernels operation) :
    Accounted (operations ++ [operation]) (cache.after operation) where
  images := by
    rw [after, accounted.images, List.filterMap_append, List.reverse_append]
    cases here : operation.opened? <;> simp [here]
  memo := by
    rw [after, accounted.memo, List.filterMap_append, List.reverse_append]
    cases here : operation.entry? <;> simp [here]
  unique := by
    cases operation with
    | remember hash symbol =>
      refine List.nodup_cons.mpr ⟨fun inside => ?_, accounted.unique⟩
      obtain ⟨entry, kept, same⟩ := List.mem_map.mp inside
      have differ := List.lookup_eq_none_iff.mp admits.1 entry kept
      exact bne_iff_ne.mp differ same.symm
    | _ => exact accounted.unique
  held := by
    intro entry inside
    rcases List.mem_append.mp inside with fresh | kept
    · cases operation with
      | remember hash symbol =>
        obtain rfl := List.mem_singleton.mp fresh
        obtain ⟨-, kernel, -, -, newest⟩ := admits
        exact holds_of_resolve? newest
      | _ => exact (List.not_mem_nil fresh).elim
    · exact admits.lasts.holds (accounted.held entry kept)
  probed := by
    rw [List.countP_append, accounted.probed, admits.probed]
    cases operation <;> rfl

end Accounted

namespace Undergoes

theorem trans (undergoes : first.Undergoes kernels operations cache)
    (further : cache.Undergoes kernels others later) :
    first.Undergoes kernels (operations ++ others) later := by
  induction further with
  | refl =>
    rw [List.append_nil]
    exact undergoes
  | snoc _ admits ih =>
    rw [← List.append_assoc]
    exact ih.snoc admits

theorem single (admits : cache.Admits kernels operation) :
    cache.Undergoes kernels [operation] (cache.after operation) :=
  .snoc .refl admits

theorem mono (undergoes : first.Undergoes kernels operations last)
    (implied : ∀ kernel, kernels kernel → wider kernel) : first.Undergoes wider operations last := by
  induction undergoes with
  | refl => exact .refl
  | snoc _ admits ih => exact ih.snoc (admits.mono implied)

/-- A series has come to a cache after any number of its operations. -/
theorem split (undergoes : first.Undergoes kernels (front ++ back) last) :
    ∃ cache, first.Undergoes kernels front cache ∧ cache.Undergoes kernels back last := by
  generalize joined : front ++ back = operations at undergoes
  induction undergoes generalizing back with
  | refl =>
    obtain ⟨rfl, rfl⟩ := List.append_eq_nil_iff.mp joined
    exact ⟨first, .refl, .refl⟩
  | @snoc operations cache operation undergoes admits ih =>
    rcases back.eq_nil_or_concat with rfl | ⟨rest, final, rfl⟩
    · rw [List.append_nil] at joined
      exact ⟨_, joined ▸ undergoes.snoc admits, .refl⟩
    · rw [List.concat_eq_append, ← List.append_assoc] at joined
      obtain ⟨same, final⟩ := List.append_inj' joined rfl
      obtain ⟨between, before, behind⟩ := ih same
      rw [List.concat_eq_append, final]
      exact ⟨between, before, behind.snoc admits⟩

/-- The cache that an operation in the midst of others finds. -/
theorem admits (undergoes : first.Undergoes kernels (front ++ operation :: back) last) :
    ∃ cache, first.Undergoes kernels front cache ∧ cache.Admits kernels operation := by
  rw [← List.singleton_append, ← List.append_assoc] at undergoes
  obtain ⟨later, before, -⟩ := undergoes.split
  generalize joined : front ++ [operation] = operations at before
  cases before with
  | refl => exact absurd joined (List.append_ne_nil_of_right_ne_nil _ (List.cons_ne_nil _ _))
  | snoc undergoes admits =>
    obtain ⟨rfl, same⟩ := List.append_inj' joined rfl
    obtain rfl := List.singleton_inj.mp same
    exact ⟨_, undergoes, admits⟩

/-- **Images are only added, and what is remembered stays**, in every series. -/
theorem lasts (undergoes : first.Undergoes kernels operations last) : first.Lasts last := by
  induction undergoes with
  | refl => exact .refl first
  | snoc _ admits ih => exact ih.trans admits.lasts

/-- **A cache that was empty holds what was opened**, and what it remembers belongs to it. -/
theorem accounted {layout : Layout} (undergoes : Undergoes kernels { layout } operations cache) :
    Accounted operations cache := by
  induction undergoes with
  | refl => exact .empty layout
  | snoc _ admits ih => exact ih.snoc admits

/-- **Every name is resolved to its newest definition** among the images that were opened. -/
theorem resolved {layout : Layout} (undergoes : Undergoes kernels { layout } operations cache)
    (name : String) :
    Resolved (operations.filterMap Operation.opened?) name (cache.resolve? name) := by
  have resolved := resolved_resolve? cache name
  rwa [undergoes.accounted.images, List.reverse_reverse] at resolved

/-- What is remembered was then the newest definition of a kernel's symbol. -/
theorem remembers {layout : Layout} {hash : UInt64}
    (undergoes : Undergoes kernels { layout } (front ++ .remember hash symbol :: back) last) :
    ∃ kernel, kernels kernel ∧ kernel.hash = hash ∧
      Resolved (front.filterMap Operation.opened?) kernel.symbol (some symbol) := by
  obtain ⟨cache, before, -, kernel, listed, same, newest⟩ := undergoes.admits
  exact ⟨kernel, listed, same, newest ▸ before.resolved kernel.symbol⟩

/-- The library is opened when it is looked at, and in no other way unless a generated file is the
library. -/
theorem attempts_library (undergoes : first.Undergoes kernels operations last)
    (relinked : first.layout.relinked.same first.layout.library = false)
    (images : ∀ kernel, kernels kernel →
      (first.layout.image kernel).same first.layout.library = false) :
    (operations.filterMap (Operation.attempt? first.layout.library)).countP
        (fun attempt => attempt.1.same first.layout.library) ≤
      operations.countP Operation.isProbe := by
  rw [List.countP_filterMap]
  refine List.countP_mono_left fun operation inside led => ?_
  obtain ⟨front, back, rfl⟩ := List.append_of_mem inside
  obtain ⟨cache, before, admits⟩ := undergoes.admits
  cases operation with
  | probe loading? => rfl
  | load path loading =>
    have generated : first.layout.Generates kernels path := before.lasts.layout ▸ admits
    have elsewhere : path.same first.layout.library = false := by
      rcases generated with same | ⟨kernel, listed, same⟩
      · exact same ▸ relinked
      · exact same ▸ images kernel listed
    rw [Operation.attempt?, Option.map_some, Option.getD_some, elsewhere] at led
    cases led
  | resolve name found => cases led
  | remember hash symbol => cases led

end Undergoes

end Cache

end KernelCache
