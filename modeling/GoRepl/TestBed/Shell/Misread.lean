import GoRepl.TestBed.Shell.Basic

/-! # Test bed: what cannot be read

Why the text of a script is no script, and how the two shells say so. -/

namespace GoRepl.Machine.Shell

/-- What stands where a script cannot go on. -/
inductive Token where
  | endOfText
  | newline
  | redirection (t : Text)
  | keyword (t : Text)
  | operator (t : Text)
  | word (t : Text)
deriving DecidableEq, Repr

namespace Token

/-- A token as the plain shell calls it. -/
def plainName : Token → Text
  | endOfText => "end of file".toList
  | newline => "newline".toList
  | redirection _ => "redirection".toList
  | keyword t | operator t => ['"'] ++ t ++ ['"']
  | word _ => "word".toList

/-- A token as the extended shell calls it. -/
def extendedName : Token → Text
  | endOfText => "newline".toList
  | newline => "newline".toList
  | redirection t | keyword t | operator t | word t => t

end Token

inductive Problem where
  /-- A token that cannot stand here, and the one that was expected if there is only one. -/
  | unexpected (token : Token) (expected : Text)
  /-- The text ends before this character. -/
  | unclosed (closing : Char) (start : Nat)
  /-- A condition that is none, with what is said about it and the lines for that. So many
  characters of the line were left when this was noticed, unless the text had ended. -/
  | badCondition (complaints : List (Nat × Text)) (left : Option Nat)
  /-- A loop that counts with more than three expressions, or with `tooFew`. -/
  | badCount (text : Text) (tooFew : Bool)
  | badFunctionName
  | badLoopVariable
  | tooDeep
deriving DecidableEq, Repr

/-- A document without its end mark, with the lines in which it begins and in which the text
ends. -/
structure OpenDocument where
  mark : Text
  first : Nat
  last : Nat
deriving DecidableEq, Repr

/-- A problem with the line where it was noticed, and the documents without an end that were read
before. After some problems the next line is read. -/
structure Misread where
  line : Nat
  problem : Problem
  openDocuments : List OpenDocument := []
  goesOn : Bool := false
deriving DecidableEq, Repr

namespace Misread

/-- What the plain shell says. -/
def plainMessage (m : Misread) : Text :=
  "Syntax error: ".toList ++ match m.problem with
    | .unexpected token expected =>
      token.plainName ++ " unexpected".toList ++
        if expected = [] then []
        else if expected = "word".toList then " (expecting word)".toList
        else " (expecting \"".toList ++ expected ++ ['"', ')']
    | .unclosed closing _ =>
      (match closing with
        | '`' => "EOF in backquote substitution"
        | '\x7d' => "Missing '\x7d'"
        | ')' => "Missing '))'"
        | _ => "Unterminated quoted string").toList
    | .badCondition .. | .badCount .. => "bad condition".toList
    | .badFunctionName => "Bad function name".toList
    | .badLoopVariable => "Bad for loop variable".toList
    | .tooDeep => "too deep".toList

/-- The line and what the extended shell says about it. -/
def extendedMessage (m : Misread) : Nat × Text :=
  match m.problem with
  | .unexpected .endOfText _ => (m.line, "syntax error: unexpected end of file".toList)
  | .unexpected token _ =>
    (m.line, "syntax error near unexpected token `".toList ++ token.extendedName ++ ['\''])
  | .unclosed closing start =>
    (start, "unexpected EOF while looking for matching `".toList ++ [closing, '\''])
  | .badCondition _ left =>
    (m.line,
      (if left.isSome then "syntax error" else "syntax error: unexpected end of file").toList)
  | .badCount t _ => (m.line, "syntax error: `((".toList ++ t ++ "))'".toList)
  | .badFunctionName => (m.line, "syntax error: not a valid identifier".toList)
  | .badLoopVariable => (m.line, "syntax error: not a valid identifier".toList)
  | .tooDeep => (m.line, "syntax error: too deep".toList)

/-- What is said before that. -/
def complaints (m : Misread) : List (Nat × Text) :=
  match m.problem with
  | .badCondition complaints _ => complaints
  | .badCount _ tooFew =>
    [(m.line, (if tooFew then "syntax error: arithmetic expression required"
      else "syntax error: `;' unexpected").toList)]
  | _ => []

/-- The words near the place where `left` characters of a line are left. -/
def near (line : Text) (left : Nat) : Text :=
  let isBlank (c : Char) : Bool := c = ' ' || c = '\t' || c = '\n'
  let joins (c : Char) : Bool := ";|&".toList.contains c
  let read := if left = 0 then line else line.take (line.length + 1 - left)
  let back := (Text.dropEndWhile isBlank read).reverse
  let word := back.takeWhile fun c => !isBlank c && !joins c
  (word ++ ((back.drop word.length).take 1).filter joins).reverse

/-- Does the extended shell show the line too? -/
def showsLine (m : Misread) : Bool :=
  match m.problem with
  | .unexpected .endOfText _ => false
  | .unexpected _ _ | .badCondition _ (some _) => true
  | _ => false

end Misread
end GoRepl.Machine.Shell
