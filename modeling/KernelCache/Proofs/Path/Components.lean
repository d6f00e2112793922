import KernelCache.Path

/-
**The components of a joined path.**

A name without a slash that is neither one dot nor two is one component more behind the components
of any directory; a name of one dot adds none, and a name of two dots leads out of the directory.

* `Path.pieces_append_slash`: a slash ends a piece, whatever stands before and behind it.
* `Path.components_join_relative`: a relative path behind a directory adds its pieces.
* `Path.components_join`: a file name under a directory is one component more.
* `Path.isChild_join_iff`: among the names without a slash, exactly the file names lead to a child.
* `Path.same_join_iff`: two file names under one directory name the same place only if they are
  equal.
-/

namespace KernelCache

namespace Path

/-- The name of an ordinary file: neither empty nor a dot nor two dots, and without a slash. -/
structure IsFileName (name : Bytes) : Prop where
  slashless : slash ∉ name
  nonempty : name ≠ []
  ne_here : name ≠ [0x2E]
  ne_up : name ≠ [0x2E, 0x2E]

/-- The path leads to something that lies directly in the directory. -/
def IsChild (dir path : Path) : Prop :=
  ∃ name, path.components = dir.components ++ [.name name]

/-! ### Pieces -/

theorem pieces_ne_nil (bytes : Bytes) : pieces bytes ≠ [] := by
  cases bytes with
  | nil => exact List.cons_ne_nil _ _
  | cons octet rest =>
    rw [pieces]
    cases pieces rest with
    | nil => exact List.cons_ne_nil _ _
    | cons piece others => by_cases ends : octet = slash <;> simp [ends]

/-- An octet in front of a text begins its first piece, unless it is a slash. -/
theorem pieces_cons {octet : UInt8} {rest piece : Bytes} {others : List Bytes}
    (behind : pieces rest = piece :: others) :
    pieces (octet :: rest) =
      if octet = slash then [] :: piece :: others else (octet :: piece) :: others := by
  rw [pieces, behind]

/-- **A slash ends a piece.** -/
theorem pieces_append_slash (front back : Bytes) :
    pieces (front ++ slash :: back) = pieces front ++ pieces back := by
  obtain ⟨piece, others, behind⟩ := List.exists_cons_of_ne_nil (pieces_ne_nil back)
  induction front with
  | nil =>
    rw [List.nil_append, pieces_cons behind, if_pos rfl, behind]
    rfl
  | cons octet front ih =>
    obtain ⟨first, further, before⟩ := List.exists_cons_of_ne_nil (pieces_ne_nil front)
    rw [before] at ih
    rw [List.cons_append, pieces_cons ih, pieces_cons before]
    by_cases ends : octet = slash
    · rw [if_pos ends, if_pos ends]
      rfl
    · rw [if_neg ends, if_neg ends]
      rfl

/-- What stands in front of a text, without a slash, belongs to its first piece. -/
theorem pieces_append {front back piece : Bytes} {others : List Bytes} (slashless : slash ∉ front)
    (behind : pieces back = piece :: others) : pieces (front ++ back) = (front ++ piece) :: others := by
  induction front with
  | nil => exact behind
  | cons octet front ih =>
    have ordinary : octet ≠ slash := fun same => slashless (same ▸ List.mem_cons_self)
    have rest := ih fun inside => slashless (List.mem_cons_of_mem octet inside)
    rw [List.cons_append, pieces_cons rest, if_neg ordinary]
    rfl

theorem pieces_slashless {name : Bytes} (slashless : slash ∉ name) : pieces name = [name] := by
  have alone := pieces_append slashless (rfl : pieces [] = [[]])
  rwa [List.append_nil] at alone

/-! ### Joining -/

theorem not_isAbsolute_of_slashless {name : Bytes} (slashless : slash ∉ name) :
    (⟨name⟩ : Path).isAbsolute = false := by
  cases name with
  | nil => rfl
  | cons octet rest =>
    have ordinary : octet ≠ slash := fun same => slashless (same ▸ List.mem_cons_self)
    simpa [isAbsolute] using ordinary

/-- The components that the pieces of a path stand for, apart from where the path starts. -/
def inner (bytes : Bytes) : List Component :=
  (pieces bytes).filterMap pieceComponent?

/-- Where a path starts. -/
def origin (path : Path) : List Component :=
  if path.isAbsolute then [.root]
  else if (pieces path.bytes).head? = some [0x2E] then [.here]
  else []

theorem components_eq (path : Path) : path.components = path.origin ++ inner path.bytes := by
  unfold components origin inner
  split
  · rfl
  · split <;> rfl

theorem inner_append_slash (front back : Bytes) :
    inner (front ++ slash :: back) = inner front ++ inner back := by
  rw [inner, pieces_append_slash, List.filterMap_append]
  rfl

theorem inner_slashless {name : Bytes} (slashless : slash ∉ name) :
    inner name = (pieceComponent? name).toList := by
  rw [inner, pieces_slashless slashless]
  cases here : pieceComponent? name <;> simp [here]

theorem origin_append_slash {front : Bytes} (nonempty : front ≠ []) (back : Bytes) :
    origin ⟨front ++ slash :: back⟩ = origin ⟨front⟩ := by
  obtain ⟨octet, rest, rfl⟩ := List.exists_cons_of_ne_nil nonempty
  obtain ⟨piece, others, here⟩ := List.exists_cons_of_ne_nil (pieces_ne_nil (octet :: rest))
  unfold origin isAbsolute
  rw [pieces_append_slash, here]
  rfl

/-- A relative path behind a directory: the components of the directory, then what its pieces stand
for. -/
theorem components_join_relative {dir path : Path} (nonempty : dir.bytes ≠ [])
    (relative : path.isAbsolute = false) :
    (dir.join path).components = dir.components ++ inner path.bytes := by
  unfold join
  rw [if_neg (by simp [relative, nonempty])]
  by_cases closed : dir.bytes.getLast? = some slash
  · -- The directory ends in a slash, behind which there is an empty piece.
    obtain ⟨front, split⟩ := List.getLast?_eq_some_iff.mp closed
    rw [if_pos closed, components_eq, components_eq, split, List.append_assoc,
      List.singleton_append, inner_append_slash, inner_append_slash]
    have same : origin ⟨front ++ slash :: path.bytes⟩ = dir.origin := by
      have shape : dir = ⟨front ++ slash :: []⟩ := by rw [← split]
      rw [shape]
      cases front with
      | nil => rfl
      | cons octet rest =>
        rw [origin_append_slash (List.cons_ne_nil _ _), origin_append_slash (List.cons_ne_nil _ _)]
    have empty : inner [] = [] := rfl
    rw [same, empty, List.append_nil, List.append_assoc]
  · rw [if_neg closed, components_eq, components_eq, inner_append_slash,
      origin_append_slash nonempty, List.append_assoc]

/-- A name behind a directory: the components of the directory, then what the name stands for. -/
theorem components_join_slashless {dir : Path} {name : Bytes} (nonempty : dir.bytes ≠ [])
    (slashless : slash ∉ name) :
    (dir.join ⟨name⟩).components = dir.components ++ (pieceComponent? name).toList := by
  rw [components_join_relative nonempty (not_isAbsolute_of_slashless slashless),
    inner_slashless slashless]

theorem components_nil {dir : Path} (empty : dir.bytes = []) : dir.components = [] := by
  obtain ⟨_⟩ := dir
  subst empty
  rfl

theorem join_nil {dir : Path} (empty : dir.bytes = []) (path : Path) : dir.join path = path := by
  unfold join
  rw [if_pos (.inr empty)]

theorem pieceComponent?_name {name : Bytes} (plain : IsFileName name) :
    pieceComponent? name = some (.name name) := by
  rw [pieceComponent?, if_neg (by simp [plain.nonempty, plain.ne_here]), if_neg plain.ne_up]

/-- A name without a slash is a file name if it stands for an ordinary component. -/
theorem isFileName_iff {name : Bytes} (slashless : slash ∉ name) :
    IsFileName name ↔ ∃ child, pieceComponent? name = some (.name child) := by
  constructor
  · exact fun plain => ⟨name, pieceComponent?_name plain⟩
  · rintro ⟨child, ordinary⟩
    refine ⟨slashless, ?_, ?_, ?_⟩
    all_goals
      intro same
      subst same
      simp [pieceComponent?] at ordinary

/-- A name alone: where it starts, then what it stands for. -/
theorem components_slashless {name : Bytes} (slashless : slash ∉ name) :
    (⟨name⟩ : Path).components =
      (if name = [0x2E] then [.here] else []) ++ (pieceComponent? name).toList := by
  rw [components_eq, inner_slashless slashless, origin, pieces_slashless slashless]
  simp [not_isAbsolute_of_slashless slashless]

/-- **A file name under a directory** is one component more. -/
theorem components_join (dir : Path) {name : Bytes} (plain : IsFileName name) :
    (dir.join ⟨name⟩).components = dir.components ++ [.name name] := by
  have component := pieceComponent?_name plain
  by_cases empty : dir.bytes = []
  · rw [join_nil empty, components_nil empty, components_slashless plain.slashless, component,
      if_neg plain.ne_here]
    rfl
  · rw [components_join_slashless empty plain.slashless, component]
    rfl

/-- Among the names without a slash, exactly the file names lead to a child. -/
theorem isChild_join_iff (dir : Path) {name : Bytes} (slashless : slash ∉ name) :
    IsChild dir (dir.join ⟨name⟩) ↔ IsFileName name := by
  refine ⟨?_, fun plain => ⟨name, components_join dir plain⟩⟩
  rintro ⟨child, here⟩
  refine (isFileName_iff slashless).mpr ⟨child, ?_⟩
  by_cases empty : dir.bytes = []
  · rw [join_nil empty, components_nil empty, components_slashless slashless] at here
    by_cases dot : name = [0x2E]
    · simp [dot] at here
    · simpa [dot] using here
  · rw [components_join_slashless empty slashless, List.append_cancel_left_eq] at here
    simpa using here

/-- The last name of a file in a directory. -/
theorem fileName?_join (dir : Path) {name : Bytes} (plain : IsFileName name) :
    (dir.join ⟨name⟩).fileName? = some name := by
  rw [fileName?, components_join dir plain, List.getLast?_concat]

/-- There is no slash in what stands between slashes. -/
theorem slash_notMem_of_mem_pieces {bytes piece : Bytes} (inside : piece ∈ pieces bytes) :
    slash ∉ piece := by
  induction bytes generalizing piece with
  | nil =>
    rw [List.mem_singleton.mp inside]
    exact List.not_mem_nil
  | cons octet rest ih =>
    obtain ⟨first, others, behind⟩ := List.exists_cons_of_ne_nil (pieces_ne_nil rest)
    obtain ⟨here, further⟩ := List.forall_mem_cons.mp
      (show ∀ piece ∈ first :: others, slash ∉ piece from behind ▸ fun _ => ih)
    rw [pieces_cons behind] at inside
    split at inside
    case isTrue =>
      rcases List.mem_cons.mp inside with rfl | inside
      · exact List.not_mem_nil
      · exact ih (behind ▸ inside)
    case isFalse ordinary =>
      rcases List.mem_cons.mp inside with rfl | inside
      · exact List.not_mem_cons_of_ne_of_not_mem (Ne.symm ordinary) here
      · exact further piece inside

/-- The last name of a path has no slash. -/
theorem slash_notMem_of_fileName? {path : Path} {name : Bytes} (last : path.fileName? = some name) :
    slash ∉ name := by
  have ends : path.components.getLast? = some (.name name) := by
    unfold fileName? at last
    split at last
    case h_1 bytes here => exact Option.some.inj last ▸ here
    case h_2 => cases last
  have inside := List.mem_of_getLast? ends
  rw [components_eq, List.mem_append] at inside
  rcases inside with first | named
  · unfold origin at first
    split at first
    · cases List.mem_singleton.mp first
    · split at first
      · cases List.mem_singleton.mp first
      · cases first
  · obtain ⟨piece, between, component⟩ := List.mem_filterMap.mp named
    unfold pieceComponent? at component
    split at component
    · cases component
    · split at component
      · cases component
      · cases component
        exact slash_notMem_of_mem_pieces between

/-- **Two file names under one directory** name the same place only if they are equal. -/
theorem same_join_iff (dir : Path) {first second : Bytes} (plain : IsFileName first)
    (plain' : IsFileName second) :
    (dir.join ⟨first⟩).same (dir.join ⟨second⟩) = true ↔ first = second := by
  rw [same, components_join dir plain, components_join dir plain', beq_iff_eq]
  simp

end Path

end KernelCache
