import Mathlib.Data.List.Forall2
import KernelCache.Command.Basic

/-
**The words of a text, as a shell takes them apart.**

Blanks end words, and quotes are removed: everything between single quotes means itself, and between
double quotes a backslash takes the meaning from the four octets that keep one there. A text that is
more than words, by an operator, an expansion, a pattern, a comment or the end of a line outside of
quotes, is refused, and so is one with an open quote or with a NUL.

* `words?`: the words of a text.
* `Forms`: an octet string that adds to the word it stands in.
* `Reads`: a text that gives its words, at the end and in front of others.
* `words?_render`: a command gives the words of its parts, one after the other.
-/

namespace KernelCache.Splitting

open Quoting (octet Style)

/-! ### The grammar -/

/-- Octets between words. -/
def isBlank (byte : UInt8) : Bool :=
  byte == octet ' ' || byte == octet '\t'

/-- Octets that are more than themselves where nothing quotes them. -/
def isSpecial (byte : UInt8) : Bool :=
  "|&;<>()$`\\\"'*?[#~\n\x00".toList.any fun char => octet char == byte

/-- Octets of which plain words are made. -/
def isOrdinary (byte : UInt8) : Bool := !isBlank byte && !isSpecial byte

/-- Where the reading of a text stands. -/
inductive Reading where
  | outside
  | single
  | double
  /-- Behind a backslash, between double quotes or outside of quotes. -/
  | escaped (quoted : Bool)
  deriving DecidableEq

/-- A word that goes on with octets; it begins with them if none has begun. -/
def more (word? : Option Bytes) (bytes : Bytes) : Option Bytes :=
  some (word?.getD [] ++ bytes)

/-- The words of a text from its place on, behind a word that may have begun. -/
def read : Reading → Option Bytes → Bytes → Option (List Bytes)
  | .outside, word?, [] => some word?.toList
  | _, _, [] => none
  | place, word?, byte :: rest =>
    if byte = 0 then none
    else
      match place with
      | .outside =>
        if isBlank byte then (read .outside none rest).map (word?.toList ++ ·)
        else if byte = octet '\'' then read .single (more word? []) rest
        else if byte = octet '"' then read .double (more word? []) rest
        else if byte = octet '\\' then read (.escaped false) word? rest
        else if isSpecial byte then none
        else read .outside (more word? [byte]) rest
      | .single =>
        if byte = octet '\'' then read .outside word? rest
        else read .single (more word? [byte]) rest
      | .double =>
        if byte = octet '"' then read .outside word? rest
        else if byte = octet '\\' then read (.escaped true) word? rest
        else if Style.special byte then none
        else read .double (more word? [byte]) rest
      | .escaped quoted =>
        let back := if quoted then .double else .outside
        -- A backslash joins the lines that it stands between.
        if byte = octet '\n' then read back word? rest
        else if quoted && !Style.special byte then
          read back (more word? [octet '\\', byte]) rest
        else read back (more word? [byte]) rest

/-- The words of a text that is made of words only. -/
def words? (text : Bytes) : Option (List Bytes) := read .outside none text

/-- The words of a text without quotes. -/
def plainWords (text : Bytes) : List Bytes :=
  (text.splitOnP isBlank).filter (· ≠ [])

/-- Ordinary octets and blanks. -/
def IsPlain (text : Bytes) : Prop :=
  ∀ byte ∈ text, isBlank byte ∨ isOrdinary byte

instance (text : Bytes) : Decidable (IsPlain text) :=
  inferInstanceAs (Decidable (∀ byte ∈ text, isBlank byte ∨ isOrdinary byte))

/-! ### Parts of words -/

/-- An octet string adds octets to the word it stands in, whatever comes before and after it. -/
def Forms (written part : Bytes) : Prop :=
  ∀ word? rest, read .outside word? (written ++ rest) = read .outside (more word? part) rest

@[simp]
theorem more_more (word? : Option Bytes) (first second : Bytes) :
    more (more word? first) second = more word? (first ++ second) := by
  simp [more]

theorem Forms.append {written part others rest : Bytes} (first : Forms written part)
    (second : Forms others rest) : Forms (written ++ others) (part ++ rest) := by
  intro word? behind
  rw [List.append_assoc, first, second, more_more]

theorem read_ordinary {byte : UInt8} (ordinary : isOrdinary byte) (word? : Option Bytes)
    (rest : Bytes) :
    read .outside word? (byte :: rest) = read .outside (more word? [byte]) rest := by
  obtain ⟨noBlank, noSpecial⟩ : isBlank byte = false ∧ isSpecial byte = false := by
    simpa [isOrdinary] using ordinary
  have apart : ∀ char ∈ "|&;<>()$`\\\"'*?[#~\n\x00".toList, byte ≠ octet char := by
    intro char member same
    have special : isSpecial byte = true := List.any_eq_true.mpr ⟨char, member, by simp [same]⟩
    rw [special] at noSpecial
    exact absurd noSpecial (by decide)
  have noNul : byte ≠ 0 := apart '\x00' (by decide)
  simp only [read, if_neg noNul, noBlank, noSpecial, Bool.false_eq_true, if_false,
    if_neg (apart '\'' (by decide)), if_neg (apart '"' (by decide)),
    if_neg (apart '\\' (by decide))]

theorem forms_ordinary {part : Bytes} (ordinary : ∀ byte ∈ part, isOrdinary byte)
    (begun : part ≠ []) : Forms part part := by
  induction part with
  | nil => exact absurd rfl begun
  | cons byte others ih =>
    intro word? rest
    rw [List.cons_append, read_ordinary (ordinary byte List.mem_cons_self)]
    by_cases last : others = []
    · rw [last, List.nil_append]
    · rw [ih (fun other member => ordinary other (List.mem_cons_of_mem _ member)) last, more_more,
        List.singleton_append]

theorem not_mem_cons {byte first : UInt8} {others : Bytes} (absent : byte ∉ first :: others) :
    first ≠ byte ∧ byte ∉ others := by
  rw [List.mem_cons, not_or] at absent
  exact ⟨Ne.symm absent.1, absent.2⟩

theorem read_single {part : Bytes} (noNul : 0 ∉ part) (noQuote : octet '\'' ∉ part)
    (word? : Option Bytes) (rest : Bytes) :
    read .single (more word? []) (part ++ octet '\'' :: rest)
      = read .outside (more word? part) rest := by
  induction part generalizing word? with
  | nil => simp [read, octet]
  | cons byte others ih =>
    obtain ⟨here, noNul⟩ := not_mem_cons noNul
    obtain ⟨quote, noQuote⟩ := not_mem_cons noQuote
    have inside := ih noNul noQuote (more word? [byte])
    simp only [more_more, List.append_nil, List.singleton_append] at inside
    rw [List.cons_append, read, if_neg here]
    simp only [if_neg quote, more_more, List.nil_append]
    exact inside

theorem forms_single {part : Bytes} (noNul : 0 ∉ part) (noQuote : octet '\'' ∉ part) :
    Forms (Style.single.write part) part := by
  intro word? rest
  have opened : read .outside word? (octet '\'' :: (part ++ octet '\'' :: rest))
      = read .single (more word? []) (part ++ octet '\'' :: rest) := by
    simp [read, octet, isBlank]
  simpa [Style.write] using opened.trans (read_single noNul noQuote word? rest)

/-- Between double quotes a backslash stands before every octet that keeps a meaning there. -/
def escaped (part : Bytes) : Bytes :=
  part.flatMap fun byte => if Style.special byte then [octet '\\', byte] else [byte]

theorem read_double {part : Bytes} (noNul : 0 ∉ part) (word? : Option Bytes) (rest : Bytes) :
    read .double (more word? []) (escaped part ++ octet '"' :: rest)
      = read .outside (more word? part) rest := by
  induction part generalizing word? with
  | nil => simp [read, octet, escaped]
  | cons byte others ih =>
    obtain ⟨here, noNul⟩ := not_mem_cons noNul
    have inside := ih noNul (more word? [byte])
    simp only [more_more, List.append_nil, List.singleton_append] at inside
    rw [escaped, List.flatMap_cons, ← escaped, ← inside]
    by_cases special : Style.special byte
    · have noEnd : byte ≠ octet '\n' := by
        rintro rfl
        exact absurd special (by decide)
      rw [if_pos special, List.append_assoc, List.cons_append, read, if_neg (by decide)]
      simp only [if_neg (show octet '\\' ≠ octet '"' by decide), if_true, List.singleton_append]
      rw [read, if_neg here]
      simp only [if_neg noEnd, special, Bool.not_true, Bool.and_false, Bool.false_eq_true, if_false,
        if_true, more_more, List.nil_append]
    · have noQuote : byte ≠ octet '"' := by
        rintro rfl
        exact absurd (by decide) special
      have noBackslash : byte ≠ octet '\\' := by
        rintro rfl
        exact absurd (by decide) special
      rw [if_neg special, List.append_assoc, List.singleton_append, read, if_neg here]
      simp only [if_neg noQuote, if_neg noBackslash, if_neg special, more_more, List.nil_append]

theorem forms_double {part : Bytes} (noNul : 0 ∉ part) :
    Forms (Style.double.write part) part := by
  intro word? rest
  have opened : read .outside word? (octet '"' :: (escaped part ++ octet '"' :: rest))
      = read .double (more word? []) (escaped part ++ octet '"' :: rest) := by
    simp [read, octet, isBlank]
  simpa [Style.write, escaped] using opened.trans (read_double noNul word? rest)

/-! ### Words of a text -/

/-- A text gives its words where it ends, and in front of a blank with more behind it. -/
structure Reads (text : Bytes) (words : List Bytes) : Prop where
  last : words? text = some words
  front : ∀ byte, isBlank byte → ∀ rest,
    words? (text ++ byte :: rest) = (words? rest).map (words ++ ·)

theorem read_blank {byte : UInt8} (blank : isBlank byte) (word? : Option Bytes) (rest : Bytes) :
    read .outside word? (byte :: rest) = (words? rest).map (word?.toList ++ ·) := by
  have noNul : byte ≠ 0 := by
    rintro rfl
    exact absurd blank (by decide)
  rw [read, if_neg noNul]
  simp only [blank, if_true, words?]

theorem Forms.reads {written word : Bytes} (forms : Forms written word) : Reads written [word] := by
  refine ⟨?_, fun byte blank rest => ?_⟩
  · rw [words?, ← List.append_nil written, forms]
    rfl
  · rw [words?, forms, read_blank blank]
    rfl

theorem reads_nil : Reads [] [] := by
  refine ⟨rfl, fun byte blank rest => ?_⟩
  rw [List.nil_append, words?, read_blank blank]
  rfl

/-- A blank behind words lets more words follow. -/
theorem Reads.append {text rest : Bytes} {words others : List Bytes} {byte : UInt8}
    (first : Reads text words) (blank : isBlank byte) (second : Reads rest others) :
    Reads (text ++ byte :: rest) (words ++ others) := by
  refine ⟨?_, fun next spaced behind => ?_⟩
  · rw [first.front byte blank, second.last, Option.map_some]
  · rw [List.append_assoc, List.cons_append, first.front byte blank, second.front next spaced,
      Option.map_map]
    refine congrArg (Option.map · _) (funext fun more => ?_)
    exact (List.append_assoc words others more).symm

/-! ### Texts without quotes -/

theorem plainWords_run {run : Bytes} (noBlank : ∀ byte ∈ run, isBlank byte = false) :
    plainWords run = [run].filter (· ≠ []) := by
  rw [plainWords, List.splitOnP_eq_singleton noBlank]

theorem plainWords_blank {run : Bytes} {byte : UInt8}
    (noBlank : ∀ byte ∈ run, isBlank byte = false) (blank : isBlank byte) (rest : Bytes) :
    plainWords (run ++ byte :: rest) = [run].filter (· ≠ []) ++ plainWords rest := by
  rw [plainWords, List.splitOnP_append_cons_of_forall_mem noBlank byte blank, plainWords,
    ← List.filter_append, List.singleton_append]

theorem reads_run {run : Bytes} (ordinary : ∀ byte ∈ run, isOrdinary byte) :
    Reads run ([run].filter (· ≠ [])) := by
  by_cases begun : run = []
  · rw [begun]
    exact reads_nil
  · rw [List.filter_cons_of_pos (by simpa using begun), List.filter_nil]
    exact (forms_ordinary ordinary begun).reads

theorem IsPlain.ordinary {run : Bytes} (plain : IsPlain run)
    (noBlank : ∀ byte ∈ run, isBlank byte = false) : ∀ byte ∈ run, isOrdinary byte := by
  intro byte member
  refine (plain byte member).resolve_left ?_
  rw [noBlank byte member]
  exact Bool.false_ne_true

/-- **A text without quotes is read as its runs between blanks.** -/
theorem reads_plain (text : Bytes) (plain : IsPlain text) : Reads text (plainWords text) := by
  match found : text.find? isBlank with
  | none =>
    have noBlank : ∀ byte ∈ text, isBlank byte = false := by
      simpa only [Bool.not_eq_true] using List.find?_eq_none.mp found
    rw [plainWords_run noBlank]
    exact reads_run (plain.ordinary noBlank)
  | some byte =>
    obtain ⟨blank, run, rest, rfl, before⟩ := List.find?_eq_some_iff_append.mp found
    have noBlank : ∀ byte ∈ run, isBlank byte = false := by simpa using before
    have here : IsPlain run := fun byte member =>
      plain byte (List.mem_append_left _ member)
    have there : IsPlain rest := fun byte member =>
      plain byte (List.mem_append_right _ (List.mem_cons_of_mem _ member))
    rw [plainWords_blank noBlank blank]
    exact (reads_run (here.ordinary noBlank)).append blank (reads_plain rest there)
termination_by text.length
decreasing_by
  subst_vars
  simp only [List.length_append, List.length_cons]
  omega

/-! ### Parts of a command -/

theorem reads_intercalate {written : List Bytes} {words : List (List Bytes)}
    (each : List.Forall₂ Reads written words) :
    Reads ([octet ' '].intercalate written) words.flatten := by
  induction each with
  | nil => exact reads_nil
  | @cons first here others there reads rest ih =>
    cases rest with
    | nil => simpa using reads
    | cons second rest =>
      rw [List.intercalate_cons_cons, List.flatten_cons, List.append_assoc]
      exact reads.append (by decide) ih

theorem Reads.eq_nil {words : List Bytes} (reads : Reads [] words) : words = [] :=
  (Option.some.inj reads.last).symm

/-- Leaving out what is empty loses no word. -/
theorem exists_forall₂_filter {written : List Bytes} {words : List (List Bytes)}
    (each : List.Forall₂ Reads written words) :
    ∃ kept, List.Forall₂ Reads (written.filter (· ≠ [])) kept ∧ kept.flatten = words.flatten := by
  induction each with
  | nil => exact ⟨[], .nil, rfl⟩
  | @cons first here others there reads _ ih =>
    obtain ⟨kept, rest, same⟩ := ih
    by_cases empty : first = []
    · subst empty
      refine ⟨kept, rest, ?_⟩
      rw [reads.eq_nil, List.flatten_cons, List.nil_append, same]
    · refine ⟨here :: kept, ?_, by rw [List.flatten_cons, List.flatten_cons, same]⟩
      rw [List.filter_cons_of_pos (by simpa using empty)]
      exact .cons reads rest

/-- **A command gives the words of its parts, one after the other.** -/
theorem words?_render {written : List Bytes} {words : List (List Bytes)}
    (each : List.Forall₂ Reads written words) :
    words? (Command.render written) = some words.flatten := by
  obtain ⟨kept, rest, same⟩ := exists_forall₂_filter each
  rw [← same]
  exact (reads_intercalate rest).last

end KernelCache.Splitting
