import GoRepl.TestBed.Command.Basic
import GoRepl.TestBed.Shell.Basic

/-! # Test bed: variables

What the variables of a shell hold: one text, a list whose elements have numbers, or a table whose
elements have texts for indices; and the rules that hold for a variable. -/

namespace GoRepl.Machine.Shell

inductive Value where
  | unset
  | text (t : Text)
  /-- The elements in the order of their numbers. -/
  | list (elements : List (Nat × Text))
  /-- The elements, latest first. -/
  | table (entries : List (Text × Text))
deriving DecidableEq, Repr

namespace Value

def isTable (v : Value) : Bool := v matches .table _

def isMany (v : Value) : Bool := v matches .list _ | .table _

/-- The bucket of a table in which a text stands, of so many. -/
def bucket (count : Nat) (t : Text) : Nat :=
  t.foldl (fun h c => Nat.xor ((h * 16777619) % Nat.pow 2 32) c.toNat) 2166136261 % count

/-- Texts with something in the order in which a table lists them. -/
def inTableOrder {α : Type} (entries : List (Text × α)) : List (Text × α) :=
  entries.mergeSort fun a b => bucket 1024 a.1 ≤ bucket 1024 b.1

/-- The elements with their indices, in order. -/
def entries : Value → List (Text × Text)
  | unset => []
  | text t => [(['0'], t)]
  | list es => es.map fun (n, t) => (decimal n, t)
  | table es => inTableOrder es

def elements (v : Value) : List Text := v.entries.map Prod.snd

/-- The elements with their numbers, if they have numbers. -/
def numbered : Value → List (Nat × Text)
  | unset | table _ => []
  | text t => [(0, t)]
  | list es => es

/-- The number after the last one. -/
def size (v : Value) : Nat := ((v.numbered.getLast?).map fun (n, _) => n + 1).getD 0

/-- The value of a variable without an index. -/
def text? : Value → Option Text
  | unset => none
  | text t => some t
  | list es => es.lookup 0
  | table es => es.lookup ['0']

/-- The number that an index stands for; one below zero counts from the end. -/
def number? (v : Value) (index : Int) : Option Nat :=
  if 0 ≤ index then some index.toNat
  else if 0 ≤ index + v.size then some (index + v.size).toNat else none

/-- The element with an index, which is a numeral unless the value is a table. -/
def element? (v : Value) (index : Text) : Option Text :=
  match v with
  | table es => es.lookup index
  | v =>
    let n : Int := match index with
      | '-' :: t => -((natural? t).getD 0 : Int)
      | t => ((natural? t).getD 0 : Int)
    (v.number? n).bind fun n => v.numbered.lookup n

/-- Elements after one of them has been given. -/
def putNumbered (n : Nat) (t : Text) : List (Nat × Text) → List (Nat × Text)
  | [] => [(n, t)]
  | (m, u) :: es =>
    if n < m then (n, t) :: (m, u) :: es
    else if n = m then (n, t) :: es
    else (m, u) :: putNumbered n t es

def putEntry (key t : Text) (es : List (Text × Text)) : List (Text × Text) :=
  if es.any (·.1 = key) then es.map fun e => if e.1 = key then (key, t) else e else (key, t) :: es

def putNumber (v : Value) (n : Nat) (t : Text) : Value := .list (putNumbered n t v.numbered)

/-- The value after its text, or its first element, has been given. -/
def put (v : Value) (t : Text) : Value :=
  match v with
  | unset | text _ => .text t
  | list es => .list (putNumbered 0 t es)
  | table es => .table (putEntry ['0'] t es)

def ofList (ts : List Text) : Value := .list ((List.range ts.length).zip ts)

end Value

/-- A variable with the rules for it. -/
structure Variable where
  value : Value := .unset
  exported : Bool := false
  readonly : Bool := false
  /-- What it is given is an expression, of which it holds the value. -/
  integer : Bool := false
  /-- The case of its letters: `u` for upper, `l` for lower, `c` for an upper one at the start. -/
  case? : Option Char := none
  /-- It stands for the variable whose name it holds. -/
  reference : Bool := false
  /-- It has been declared to be a list without being given one. -/
  isBare : Bool := false
deriving DecidableEq, Repr

namespace Variable

def text? (v : Variable) : Option Text := v.value.text?

def ofText (t : Text) : Variable := { value := .text t }

/-- The letters for the rules of a variable. -/
def letters (v : Variable) : List Char :=
  let given : List (Bool × Char) :=
    [(v.value matches .list _, 'a'), (v.value.isTable, 'A'), (v.integer, 'i'),
      (v.reference, 'n'), (v.readonly, 'r'), (v.exported, 'x')]
  (given.filter Prod.fst).map Prod.snd ++ v.case?.toList

end Variable

/-- A text with all letters in another case, or the first one. -/
def inCase (case : Char) (t : Text) : Text :=
  match case with
  | 'u' => t.map Char.toUpper
  | 'l' => t.map Char.toLower
  | _ => match t with
    | c :: t => c.toUpper :: t.map Char.toLower
    | [] => []

/-- A text as it can be written in a script. -/
def inQuotes (t : Text) : Text :=
  ['\''] ++ t.flatMap (fun c => if c = '\'' then "'\"'\"'".toList else [c]) ++ ['\'']

/-- Is a character one that has to be written by an escape? -/
def isUnprintable (c : Char) : Bool := c < ' ' || '\x7e' < c

/-- A text in the quotes in which escapes stand for characters. -/
def inEscapes (t : Text) : Text :=
  "$'".toList ++ t.flatMap shown ++ ['\'']
where
  shown (c : Char) : Text :=
    match c with
    | '\n' => ['\\', 'n']
    | '\t' => ['\\', 't']
    | '\r' => ['\\', 'r']
    | '\x07' => ['\\', 'a']
    | '\x08' => ['\\', 'b']
    | '\x0b' => ['\\', 'v']
    | '\x0c' => ['\\', 'f']
    | '\x1b' => ['\\', 'E']
    | '\'' => ['\\', '\'']
    | '\\' => ['\\', '\\']
    | c =>
      if isUnprintable c then
        let n := c.toNat
        ['\\', digit (n / 64), digit (n / 8), digit n]
      else [c]
  digit (n : Nat) : Char := Char.ofNat ('0'.toNat + n % 8)

/-- A text in single quotes, each of which inside of it stands outside of them. -/
def inSingleQuotes (t : Text) : Text :=
  if t = ['\''] then ['\\', '\'']
  else ['\''] ++ t.flatMap (fun c => if c = '\'' then "'\\''".toList else [c]) ++ ['\'']

/-- Does a text hold a character that means something to a shell? -/
def hasMeaning (t : Text) : Bool :=
  t.any (" \t\n'\"\\|&;()<>!\x7b\x7d*[?]^$`".toList.contains ·) ||
    t.head?.any (fun c => c = '~' || c = '#') ||
    (t.zip t.tail).any fun (c, d) => d = '~' && (c = ':' || c = '=')

/-- A text as it stands in a script, with quotes only where they are needed. -/
def asWord (t : Text) : Text :=
  if t = [] then ['\'', '\'']
  else if hasMeaning t then inSingleQuotes t
  else if t.any isUnprintable then inEscapes t
  else t

/-- A text as the extended shell writes it for a script. -/
def requoted (t : Text) : Text :=
  if t.any isUnprintable then inEscapes t else inSingleQuotes t

/-- A text in double quotes. -/
def inDoubleQuotes (t : Text) : Text :=
  if t.any isUnprintable then inEscapes t
  else ['"'] ++ t.flatMap (fun c => if "\"\\$`".toList.contains c then ['\\', c] else [c]) ++ ['"']

/-- An index as it is shown in brackets. -/
def shownIndex (t : Text) : Text :=
  if t ≠ [] && t.all isNameChar then t else inDoubleQuotes t

/-- The value of a variable as it can be assigned, if it has one. -/
def Value.shown? : Value → Option Text
  | .unset => none
  | .text t => some (inDoubleQuotes t)
  | .list es => some (['('] ++ List.intercalate [' '] ((Value.list es).entries.map one) ++ [')'])
  | .table es =>
    some (['('] ++ (Value.table es).entries.flatMap (fun e => one e ++ [' ']) ++ [')'])
where
  one (e : Text × Text) : Text := ['['] ++ shownIndex e.1 ++ [']', '='] ++ inDoubleQuotes e.2

/-- The declaration of a variable, as it can be written in a script. -/
def Variable.declaration (name : Text) (v : Variable) : Text :=
  let letters := if v.letters = [] then ['-'] else v.letters
  "declare -".toList ++ letters ++ [' '] ++ name ++ match v.value.shown? with
    | some t => if v.isBare then [] else '=' :: t
    | none => []

end GoRepl.Machine.Shell
