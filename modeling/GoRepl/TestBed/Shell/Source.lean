import GoRepl.TestBed.Command.Format
import GoRepl.TestBed.Shell.Misread

/-! # Test bed: the text of a script

A script is read line by line, as it is run, so that a line that cannot be read does not keep those
before it from running. Names that stand for other texts are replaced while it is read. -/

namespace GoRepl.Machine.Shell

/-- What is left of a script. -/
structure Source where
  rest : Text
  line : Nat := 1
  /-- How many lines of documents have been taken out behind the current line. -/
  taken : Nat := 0
  /-- The line from which on the lines of the commands are counted, and how many were left out
  since, where empty lines do not count. -/
  first : Nat := 1
  leftOut : Option Nat := none
  /-- The documents that have no end, in their order. -/
  openDocuments : List OpenDocument := []
  /-- The line in which a quoted part began. -/
  opened : Nat := 1
  dialect : Dialect := .plain
  /-- Names of commands that stand for other texts. -/
  aliases : List (Text × Text) := []
  /-- The names whose texts are being read, with what is left after each of them. -/
  expanding : List (Text × Nat) := []
  /-- May the next word be replaced, too? -/
  again : Bool := false
  /-- Are groups known in patterns? -/
  grouped : Bool := false

/-- The line of a command that begins here. -/
def Source.here (s : Source) : Nat := s.line + 1 - s.first - s.leftOut.getD 0

abbrev Reading := StateT Source (Except Misread)

namespace Reader

def refuse {α : Type} (problem : Problem) : Reading α := do
  let s ← get
  throw ⟨s.line, problem, s.openDocuments, false⟩

/-- Refuse a text that ends inside of quotes. -/
def unclosed {α : Type} (closing : Char) : Reading α := do
  refuse (.unclosed closing (← get).opened)

def Source.passLines (s : Source) (n : Nat) : Source :=
  if n = 0 then s else { s with line := s.line + n + s.taken, taken := 0 }

/-- Go on after the first `n` characters. -/
def advance (n : Nat) : Reading Unit :=
  modify fun s =>
    Source.passLines { s with rest := s.rest.drop n } ((s.rest.take n).count '\n')

/-- What follows spaces, comments and joined lines, and line ends too if `lines`; and the number of
line ends that are passed. -/
def afterSpace (lines : Bool) : (comment : Bool) → Nat → Text → Nat × Text
  | _, n, [] => (n, [])
  | comment, n, c :: t =>
    if c == '\n' then if lines then afterSpace lines false (n + 1) t else (n, c :: t)
    else if comment || c == ' ' || c == '\t' then afterSpace lines comment n t
    else if c == '#' then afterSpace lines true n t
    else match c, t with
      | '\\', '\n' :: t => afterSpace lines false (n + 1) t
      | _, _ => (n, c :: t)

def skip (lines : Bool) : Reading Unit :=
  modify fun s =>
    let (n, rest) := afterSpace lines false 0 s.rest
    Source.passLines { s with rest } n

def skipSpaces : Reading Unit := skip false

def skipLines : Reading Unit := skip true

def isExtended : Reading Bool := return (← get).dialect = .extended

/-- A character that ends a word. -/
def isMeta (c : Char) : Bool := " \t\n;&|()<>".toList.contains c

/-- A character that stands for itself wherever it is. -/
def isPlain (c : Char) : Bool := !(isMeta c || "\\'\"$`\x7d[]".toList.contains c)

/-- Does a text hold another one? -/
def hasText (part : Text) : Text → Bool
  | [] => part.isEmpty
  | c :: t => part.isPrefixOf (c :: t) || hasText part t

/-- The characters up to the end of a word, as they stand. -/
def front (t : Text) : Text := t.takeWhile (!isMeta ·)

def keywords : List String :=
  ["!", "case", "do", "done", "elif", "else", "esac", "fi", "for", "if", "in", "then", "until",
    "while", "\x7b", "\x7d"]

def extendedKeywords : List String := ["[[", "]]", "function", "select", "time"]

def isKeyword (d : Dialect) (t : Text) : Bool :=
  keywords.any (·.toList = t) || (d = .extended && extendedKeywords.any (·.toList = t))

/-- The words that end a list of commands. -/
def closers : List String := ["then", "do", "done", "fi", "elif", "else", "esac", "\x7d"]

def isCloser (t : Text) : Bool := closers.any (·.toList = t)

/-- Does a list of commands end here? -/
def endsList (t : Text) : Bool :=
  match t with
  | [] | ')' :: _ | ';' :: ';' :: _ | ';' :: '&' :: _ => true
  | t => isCloser (front t)

/-- The operators of more than one character, the longer ones first. -/
def longOperators : Dialect → List String
  | .plain => [";;", "&&", "||"]
  | .extended => [";;&", "<<-", "<<<", "&>>", "&&", "||", ">>", "<<", "<&", ">&", ";;", ";&", "<>",
      ">|", "&>", "|&"]

/-- What a text begins with. -/
def token (d : Dialect) (t : Text) : Token :=
  match t, ((longOperators d).map String.toList).find? (·.isPrefixOf t) with
  | [], _ => .endOfText
  | '\n' :: _, _ => .newline
  | _, some op => .operator op
  | c :: t, none =>
    if c == '<' || c == '>' then .redirection [c]
    else if isMeta c then .operator [c]
    else
      let word := front (c :: t)
      let after := (t.drop (word.length - 1)).head?
      if keywords.any (·.toList = word) then .keyword word
      else if Text.isDigit c && word.length = 1 && (after = some '<' || after = some '>') then
        .redirection word
      else .word word

/-- Refuse what the text begins with. -/
def unexpected {α : Type} (expected : Text := []) : Reading α := do
  skipSpaces
  let s ← get
  let line := if s.rest.head? = some '\n' && s.dialect = .plain then s.line + 1 + s.taken
    else s.line
  throw ⟨line, .unexpected (token s.dialect s.rest) expected, s.openDocuments, false⟩

/-- Read something out of another text. -/
def within {α : Type} (t : Text) (r : Reading α) : Reading α := do
  let s ← get
  set { s with rest := t, taken := 0, expanding := [] }
  let a ← r
  set s
  return a

/-- Read commands whose lines are counted on their own. In the extended shell only those count that
are not empty. -/
def apart {α : Type} (r : Reading α) : Reading α := do
  let s ← get
  if s.dialect = .extended then
    skipLines
    modify fun s => { s with first := s.line, leftOut := some 0 }
    let a ← r
    modify ({ · with first := s.first, leftOut := s.leftOut })
    return a
  else r

/-- Pass the ends of lines before a command. -/
def skipToCommand : Reading Unit := do
  let before := (← get).rest
  skipLines
  modify fun s => match s.leftOut with
    | none => s
    | some n =>
      let passed := (before.take (before.length - s.rest.length)).count '\n'
      { s with leftOut := some (n + (passed - 1)) }

/-- Note that a quoted part begins. -/
def markOpened : Reading Unit := modify fun s => { s with opened := s.line }

/-- Read a part that begins here, until it is closed. -/
def opening {α : Type} (r : Reading α) : Reading α := do
  let outer := (← get).opened
  markOpened
  let a ← r
  modify ({ · with opened := outer })
  return a

/-- Does the text begin with this? -/
def at? (t : String) : Reading Bool := return t.toList.isPrefixOf (← get).rest

/-- Is the next word this one? -/
def atWord (t : String) : Reading Bool := return front (← get).rest = t.toList

/-- The parenthesis that ends a list of commands. -/
def close : Reading Unit := do
  skipLines
  if (← get).rest.head? = some ')' then advance 1 else unexpected [')']

/-- Commands whose lines are counted on their own, up to a closing parenthesis. -/
def enclosed {α : Type} (r : Reading α) : Reading α := do
  tryCatch (do
    let a ← apart r
    close
    return a) fun m => do
    let isOpen := (← isExtended) && m.problem matches .unexpected .endOfText _
    throw (if isOpen then { m with problem := .unclosed ')' m.line } else m)

/-- Put the text that a name stands for in its place, as long as there is one. A text that ends in
a blank lets the next word be replaced, too. -/
def replaceAlias : (fuel : Nat) → Reading Unit
  | 0 => return
  | fuel + 1 => do
    skipSpaces
    let s ← get
    if s.aliases.isEmpty then return
    let expanding := s.expanding.filter fun (_, n) => n < s.rest.length
    let word := front s.rest
    if word = [] || !word.all (fun c => isPlain c) || isKeyword s.dialect word ||
        expanding.any (·.1 = word) then
      set { s with expanding }
    else match s.aliases.lookup word with
      | none => set { s with expanding }
      | some t =>
        let after := s.rest.drop word.length
        set { s with
          rest := t ++ after, expanding := (word, after.length) :: expanding
          again := t.getLast?.any fun c => c = ' ' || c = '\t' }
        replaceAlias fuel

end Reader
end GoRepl.Machine.Shell
