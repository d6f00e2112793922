/-
**The language of the shell.**

A `Word` is a list of pieces that are expanded one after the other; a `Command` is a tree of simple
commands. Text is a list of octets, each as the character of that number. The shell has two
dialects: a plain one, and one with arrays, conditions in double brackets and more expansions.
-/

namespace KernelCache.Shell

/-- A dialect of the shell. -/
inductive Dialect where
  | plain
  | extended
  deriving DecidableEq, Repr

/-- How the case of letters is changed. -/
inductive CaseChange where
  | upper
  | lower
  deriving DecidableEq, Repr

/-- What is replaced in a value. -/
inductive Replacing where
  | first
  | all
  | atStart
  | atEnd
  deriving DecidableEq, Repr

/-- What stands in the braces behind a parameter's name. -/
inductive Operation where
  /-- Nothing. -/
  | plain
  /-- The length of the value. -/
  | length
  /-- A word in the place of an unset value, or of an empty one, too. -/
  | fallback (emptyToo : Bool)
  /-- The same, and the parameter keeps the word. -/
  | assign (emptyToo : Bool)
  /-- A failure in the place of an unset value. -/
  | demand (emptyToo : Bool)
  /-- A word in the place of a set value. -/
  | alternative (emptyToo : Bool)
  /-- The value without a part that matches a pattern. -/
  | trim (atEnd longest : Bool)
  /-- A part of the value, from an offset on and perhaps of a length. -/
  | slice
  /-- The value with a word in the place of what matches a pattern. -/
  | replace (what : Replacing)
  /-- The value with letters in another case. -/
  | recase (change : CaseChange) (all : Bool)
  /-- The value in another form, by a letter. -/
  | transform (letter : Char)
  /-- The value of the parameter that the value names. -/
  | indirect
  /-- The names of the variables that start with the name, each for itself or not. -/
  | names (apart : Bool)
  /-- The keys of the array. -/
  | keys (apart : Bool)
  /-- What makes no sense, with the text of it. -/
  | senseless (text : List Char)
  deriving DecidableEq, Repr

/-- How a redirection opens its file. -/
inductive Access where
  | input
  /-- The target itself is the input. -/
  | document
  /-- The target itself and a line end are the input. -/
  | line
  | output
  /-- As output, even where a file is protected. -/
  | force
  | append
  | both
  /-- The same file as another descriptor, or none. -/
  | duplicate
  /-- Output and messages to one file. -/
  | all
  | allAppend
  deriving DecidableEq, Repr

/-- How an array is meant that is assigned. -/
inductive Assigning where
  | set
  | add
  deriving DecidableEq, Repr

mutual

/-- A piece of a word. -/
inductive Piece where
  | text (quoted : Bool) (chars : List Char)
  /-- A parameter, the index of one of its elements, and what is done with it to how many words. -/
  | parameter (quoted : Bool) (name : List Char) (index : Option (List Piece))
    (operation : Operation) (words : List (List Piece))
  /-- The output of commands. -/
  | output (quoted : Bool) (body : Command)
  /-- The value of an expression. -/
  | number (quoted : Bool) (expression : List Piece)
  /-- A file that gives the output of commands, or takes their input. -/
  | channel (reads : Bool) (body : Command)
  /-- A home directory, whose owner may be named. -/
  | home (name : List Char)

/-- An assignment in front of a command. -/
inductive Assignment where
  | one (name : List Char) (index : Option (List Piece)) (how : Assigning) (value : List Piece)
  /-- All elements of an array, perhaps with indices. -/
  | many (name : List Char) (how : Assigning)
    (elements : List (Option (List Piece) × List Piece))

/-- A redirection of a descriptor, which may be held by a variable. -/
inductive Redirection where
  | mk (descriptor : Nat) (holder? : Option (List Char)) (access : Access)
    (target : List Piece)

/-- A condition in double brackets. -/
inductive Condition where
  | one (operator : List Char) (word : List Piece)
  | two (operator : List Char) (left right : List Piece)
  | negation (condition : Condition)
  | both (first second : Condition)
  | either (first second : Condition)

/-- What follows the branch of a choice that was taken. -/
inductive Following where
  | finish
  /-- The next branch is run, too. -/
  | fall
  /-- The next patterns are tried, too. -/
  | goOn

/-- A command, which knows the line it starts in where that matters. -/
inductive Command where
  | simple (line : Nat) (assignments : List Assignment) (words : List (List Piece))
    (redirections : List Redirection)
  | pipeline (negated : Bool) (stages : List Command)
  | timed (body : Command)
  | both (first second : Command)
  | either (first second : Command)
  | sequence (commands : List Command)
  | background (command : Command)
  | subshell (body : Command)
  | redirected (line : Nat) (body : Command) (redirections : List Redirection)
  | branch (condition yes no : Command)
  /-- A loop that goes on while its condition succeeds, or until it does. -/
  | loop (expected : Bool) (condition body : Command)
  | each (line : Nat) (name : List Char) (words : Option (List (List Piece))) (body : Command)
  | counted (line : Nat) (start condition step : List Piece) (body : Command)
  | choice (line : Nat) (word : List Piece)
    (branches : List (List (List Piece) × Command × Following))
  | define (line : Nat) (name : List Char) (body : Command)
  | arithmetic (line : Nat) (expression : List Piece)
  | test (line : Nat) (condition : Condition)

end

/-- A word before its expansion. -/
abbrev Word := List Piece

namespace Command

/-- The command that does nothing. -/
def nothing : Command := .sequence []

instance : Inhabited Command := ⟨nothing⟩

end Command

namespace Redirection

/-- The descriptor of a redirection. -/
def descriptor : Redirection → Nat
  | mk descriptor _ _ _ => descriptor

end Redirection

end KernelCache.Shell
