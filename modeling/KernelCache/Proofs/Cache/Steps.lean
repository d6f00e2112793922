import KernelCache.Cache
import KernelCache.Proofs.Action.Basic

/-
**The steps of a cache as trees of questions.**

* `Image.Exports image name`: the image has a function under a name.
* `Cache.run_load`: one opening, and the image is kept when it succeeds.
* `Cache.run_probe`: the library is opened when it is there; one that cannot be loaded counts as
  absent, and from then on the cache has looked at it.
* `Cache.remembered?_remember_same` and `Cache.remembered?_remember_of_ne`: a new symbol is remembered
  besides those of other hashes.
-/

namespace KernelCache

open KernelCache.Action

namespace Image

variable {image : Image} {name : String} {symbol : KernelSymbol}

/-- The image has a function under a name. -/
def Exports (image : Image) (name : String) : Prop :=
  (image.exports.lookup name).isSome

theorem exports_of_find? (found : image.find? name = some symbol) :
    image.Exports (plainName name) := by
  obtain ⟨entry, here, -⟩ := Option.map_eq_some_iff.mp found
  rw [Exports, here]
  rfl

theorem isSome_find? (exports : image.Exports (plainName name)) : (image.find? name).isSome := by
  rw [find?, Option.isSome_map]
  exact exports

theorem find?_eq_none_iff : image.find? name = none ↔ ¬ image.Exports (plainName name) := by
  rw [find?, Option.map_eq_none_iff, Exports, Option.not_isSome_iff_eq_none]

end Image

namespace Cache

/-- The cache that has looked at the library. -/
def afterProbe (cache : Cache) : Cache := { cache with probed := true }

theorem run_load (path : Path) (cache : Cache) :
    (load path).run.run cache =
      .ask (.openImage path) fun (opened : Except (Path × LoadFault) Image) =>
        match opened with
        | .ok image => .done (.ok image, cache.retain image)
        | .error (place, fault) => .done (.error (.load place fault), cache) := by
  refine congrArg (Action.ask (Effect.openImage path)) (funext fun opened => ?_)
  cases opened with
  | ok image => rfl
  | error fault => rfl

theorem run_probe (cache : Cache) :
    probe.run.run cache =
      .ask (.present cache.layout.library) fun (there : Bool) =>
        if there = true then
          .ask (.openImage cache.layout.library) fun (opened : Except (Path × LoadFault) Image) =>
            match opened with
            | .ok image => .done (.ok true, cache.afterProbe.retain image)
            | .error _ => .done (.ok false, cache.afterProbe)
        else .done (.ok false, cache.afterProbe) := by
  refine congrArg (Action.ask (Effect.present cache.layout.library)) (funext fun there => ?_)
  cases there with
  | false => rfl
  | true =>
    refine congrArg (Action.ask (Effect.openImage cache.layout.library)) (funext fun opened => ?_)
    cases opened with
    | ok image => rfl
    | error fault => rfl

/-! ### Remembering -/

variable {cache : Cache} {hash other : UInt64} {symbol : KernelSymbol}

theorem remembered?_remember_same :
    (cache.remember hash symbol).remembered? hash = some symbol := by
  rw [remembered?, remember, List.lookup_cons, beq_self_eq_true]

theorem remembered?_remember_of_ne (differ : other ≠ hash) :
    (cache.remember hash symbol).remembered? other = cache.remembered? other := by
  rw [remembered?, remember, List.lookup_cons, beq_eq_false_iff_ne.mpr differ]
  rfl

end Cache

end KernelCache
