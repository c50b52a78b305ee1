import GoRepl.Text.Basic

/-! # Test bed: words and commands

A shell script as a value: words, whose parts are expanded when a command runs, and commands, which
are put together from simple ones. -/

namespace GoRepl.Machine.Shell

/-- What a redirection does to a stream. -/
inductive RedirectionKind where
  | read
  | write
  /-- A file is overwritten even where that is forbidden. -/
  | clobber
  | append
  | readWrite
  | duplicate
  /-- The text that stands in the script itself is read. -/
  | document
deriving DecidableEq, Repr

/-- The stream that a redirection is about: one with a number, or a new one whose number goes into
a variable. -/
inductive Outlet where
  | number (n : Nat)
  | variable (name : Text)
deriving DecidableEq, Repr

/-- How the commands of a list depend on one another. -/
inductive Link where
  | ifOk
  | ifNot
deriving DecidableEq, Repr

/-- What follows the commands of a case: nothing, the commands of the next case, or the cases whose
patterns match, too. -/
inductive CaseEnd where
  | over
  | fallThrough
  | goOn
deriving DecidableEq, Repr

mutual

/-- A part of a word. What comes from a quoted part is neither split nor a pattern. -/
inductive Part where
  | text (t : Text) (quoted : Bool)
  | param (name : Text) (use : Use) (quoted : Bool)
  /-- An element of a list; the index tells which, or is a sign for all of them. -/
  | element (name : Text) (index : List Part) (use : Use) (quoted : Bool)
  /-- What commands print. -/
  | output (body : List Command) (quoted : Bool)
  /-- The value of an arithmetic expression. -/
  | sum (expression : List Part) (quoted : Bool)
  /-- The path of a stream that is read from commands, or written to them. -/
  | stream (reads : Bool) (body : List Command)
  /-- The elements of a list, each perhaps with its index, to whose value it may be added. -/
  | list (values : List (Option (List Part × Bool) × List Part))

/-- What is made of a parameter's value. -/
inductive Use where
  | value
  | length
  /-- Another word decides what becomes of a parameter that is unset, or empty. -/
  | choose (op : Char) (orEmpty : Bool) (word : List Part)
  /-- What matches a pattern is cut off. -/
  | trim (atEnd longest : Bool) (pattern : List Part)
  /-- A piece of it, from a position on. -/
  | slice (start : List Part) (length : Option (List Part))
  /-- Another text takes the place of what matches a pattern. -/
  | replace (place : Char) (pattern new : List Part)
  /-- The first letter, or all letters, that match a pattern in upper or lower case, or in the
  other case. -/
  | recase (case : Char) (all : Bool) (pattern : List Part)
  /-- It is the name of another parameter, of which something is made in turn. -/
  | indirect (use : Use)
  /-- The names of the variables that begin like this one. -/
  | names
  /-- The indices of a list. -/
  | keys
  /-- The value in another form. -/
  | form (op : Char)
  | bad (t : Text)

inductive Redirection where
  | mk (outlet : Outlet) (kind : RedirectionKind) (target : List Part)

/-- A new value for a variable, or one that is added to its value. The elements of a list may have
indices. -/
inductive Assignment where
  | one (name : Text) (index : Option (List Part)) (adds : Bool) (value : List Part)
  | all (name : Text) (adds : Bool) (values : List (Option (List Part × Bool) × List Part))

/-- A condition in double brackets. -/
inductive Test where
  | word (w : List Part)
  | unary (op : Text) (w : List Part)
  | binary (op : Text) (a b : List Part)
  | negation (t : Test)
  | both (a b : Test)
  | oneOf (a b : Test)

inductive Command where
  | simple (line : Nat) (assignments : List Assignment) (words : List (List Part))
      (redirections : List Redirection)
  | pipeline (negated : Bool) (members : List Command)
  /-- The time that a command takes is told. -/
  | timed (brief : Bool) (c : Command)
  | list (first : Command) (link : Link) (second : Command)
  | background (c : Command) (shown : Text)
  | subshell (body : List Command)
  | group (body : List Command)
  | branch (condition yes no : List Command)
  /-- A loop runs as long as its condition succeeds, or fails. -/
  | loop (whileOk : Bool) (condition body : List Command)
  | each (line : Nat) (name : Text) (words : Option (List (List Part))) (body : List Command)
  /-- The words are offered as choices. -/
  | select (line : Nat) (name : Text) (words : Option (List (List Part))) (body : List Command)
  | choice (line : Nat) (word : List Part)
      (cases : List (List (List Part) × List Command × CaseEnd))
  | define (name : Text) (body : Command)
  | condition (line : Nat) (t : Test)
  /-- An expression that succeeds unless it is zero. -/
  | sum (line : Nat) (expression : List Part)
  /-- A loop that counts: what is done before it, as long as what it goes on, and what is done
  after each round. -/
  | count (line : Nat) (start condition step : List Part) (body : List Command)
  | redirected (c : Command) (redirections : List Redirection)
  /-- A text that cannot be read, which is noticed only when it is run. -/
  | text (t : Text)

end

abbrev Word := List Part

instance : Inhabited Command := ⟨.group []⟩

instance : Inhabited Test := ⟨.word []⟩

/-- Two shells are known. They differ in the words of their complaints and in what they know. -/
inductive Dialect where
  | plain
  | extended
deriving DecidableEq, Repr

/-! ## Names -/

def isNameStart (c : Char) : Bool :=
  ('a' ≤ c && c ≤ 'z') || ('A' ≤ c && c ≤ 'Z') || c == '_'

def isNameChar (c : Char) : Bool := isNameStart c || Text.isDigit c

def isName : Text → Bool
  | c :: t => isNameStart c && t.all isNameChar
  | [] => false

/-- A parameter with a name that is one character. -/
def isSpecial (c : Char) : Bool := "#?$@*!-".toList.contains c

end GoRepl.Machine.Shell
