import GoRepl.TestBed.Basic
import GoRepl.TestBed.Shell.Arithmetic

/-! # Test bed: conditions

The questions that `test` answers about texts, numbers and files. -/

namespace GoRepl.Machine.Condition

/-- Why a condition has no answer. -/
inductive Fault where
  | illegalNumber (t : Text)
  /-- An argument is missing after this one. -/
  | argumentExpected (t : Text)
  | closingExpected (found : Option Text)
  /-- One argument that should be an operator. -/
  | unaryExpected (t : Text)
  | binaryExpected (t : Text)
  /-- An argument that cannot stand where it does. -/
  | unexpected (t : Text)
  | tooMany (t : Text)
deriving DecidableEq, Repr

/-- Where a condition is asked: the disk and the working directory, and what is known of variables,
options and open streams. -/
structure Setting where
  disk : Disk
  place : Place
  isSet : Text → Bool := fun _ => false
  hasOption : Text → Bool := fun _ => false

/-- May what a path leads to be read, written or run? -/
def allows (s : Setting) (bit : Nat) (t : Text) : Bool :=
  match s.disk.find s.place (Call.path t) with
  | .ok n => n.allows bit
  | .error _ => false

def isExecutable (s : Setting) (t : Text) : Bool := allows s 1 t

/-- The answer about one operand. -/
def unary? (s : Setting) (op : Text) : Option (Text → Bool) :=
  let node (follow : Bool) (f : Node → Bool) : Option (Text → Bool) :=
    some fun t => (s.disk.findBy follow s.place (Call.path t)).toOption.any f
  match op with
  | ['-', c] =>
    match c with
    | 'n' => some (· ≠ [])
    | 'z' => some (· = [])
    | 'e' | 'a' => node true fun _ => true
    | 'r' => some (allows s 4)
    | 'w' => some (allows s 2)
    | 'x' => some (allows s 1)
    | 'O' | 'G' => node true (!·.foreign)
    | 'f' => node true Node.isFile
    | 'd' => node true Node.isDirectory
    | 's' => node true fun n => n.isDirectory || n.bytes ≠ []
    | 'c' => node true fun n => (n.content matches .device _)
    | 'L' | 'h' => node false Node.isLink
    | 'p' => node true fun n => (n.content matches .pipe)
    | 'k' => node true fun n => n.mode / 512 % 2 = 1
    | 'g' => node true fun n => n.mode / 1024 % 2 = 1
    | 'u' => node true fun n => n.mode / 2048 % 2 = 1
    | 'N' => node true fun _ => true
    | 'S' | 'b' | 't' => some fun _ => false
    | 'v' => some s.isSet
    | 'o' => some s.hasOption
    | _ => none
  | _ => none

/-- A whole number, with spaces around it. -/
def number (t : Text) : Except Fault Int :=
  let trimmed := Text.strip (fun c => c == ' ' || c == '\t' || c == '\n') t
  let (negative, digits) := match trimmed with
    | '-' :: t => (true, t)
    | '+' :: t => (false, t)
    | t => (false, t)
  let n : Int := Shell.Expression.ofDigits 10 digits
  let n := if negative then -n else n
  let isNumeral := digits ≠ [] && digits.all Text.isDigit
  if isNumeral && Shell.Expression.wrap n = n then .ok n else .error (.illegalNumber t)

/-- The answer about two operands. -/
def binary? (s : Setting) (op : Text) : Option (Text → Text → Except Fault Bool) :=
  let spot (t : Text) : Option NodeId :=
    (s.disk.locate s.place (Call.path t)).toOption.map Disk.Spot.id
  let time (t : Text) : Option Int := ((spot t).bind s.disk.node?).map Node.time
  let compare (f : Int → Int → Bool) : Option (Text → Text → Except Fault Bool) :=
    some fun a b => do return f (← number a) (← number b)
  match String.ofList op with
  | "=" | "==" => some fun a b => .ok (a = b)
  | "!=" => some fun a b => .ok (a ≠ b)
  | "<" => some fun a b => .ok (decide (a < b))
  | ">" => some fun a b => .ok (decide (b < a))
  | "-ef" => some fun a b => .ok ((spot a).isSome && spot a = spot b)
  | "-nt" => some fun a b => .ok (match time a, time b with
    | some m, some n => decide (n < m)
    | some _, none => true
    | none, _ => false)
  | "-ot" => some fun a b => .ok (match time a, time b with
    | some m, some n => decide (m < n)
    | none, some _ => true
    | _, none => false)
  | "-eq" => compare (· = ·)
  | "-ne" => compare (· ≠ ·)
  | "-lt" => compare (· < ·)
  | "-le" => compare (· ≤ ·)
  | "-gt" => compare (· > ·)
  | "-ge" => compare (· ≥ ·)
  | _ => none

/-- An answer with the arguments that are left. -/
abbrev Answer := Except Fault (Bool × List Text)

/-! ## By the number of arguments

Up to four arguments are told apart by their number. More of them, and what is left then, are read
as an expression. -/

mutual

/-- Conditions joined by `-o`. -/
def disjunction (s : Setting) : (fuel : Nat) → List Text → Answer
  | 0, _ => .error (.closingExpected none)
  | fuel + 1, args => do
    let (a, args) ← conjunction s fuel args
    match args with
    | ['-', 'o'] :: args =>
      let (b, args) ← disjunction s fuel args
      return (a || b, args)
    | _ => return (a, args)

/-- Conditions joined by `-a`. -/
def conjunction (s : Setting) : (fuel : Nat) → List Text → Answer
  | 0, _ => .error (.closingExpected none)
  | fuel + 1, args => do
    let (a, args) ← term s fuel args
    match args with
    | ['-', 'a'] :: args =>
      let (b, args) ← conjunction s fuel args
      return (a && b, args)
    | _ => return (a, args)

def term (s : Setting) : (fuel : Nat) → List Text → Answer
  | 0, _ => .error (.closingExpected none)
  | fuel + 1, args => do
    match args with
    | [] => .error (.argumentExpected [])
    | ['!'] :: args =>
      let (a, args) ← term s fuel args
      return (!a, args)
    | ['('] :: args =>
      let (a, args) ← disjunction s fuel args
      match args with
      | [')'] :: args => return (a, args)
      | args => .error (.closingExpected args.head?)
    | a :: rest =>
      match rest with
      | op :: b :: rest' =>
        match binary? s op, unary? s a with
        | some f, _ => return (← f a b, rest')
        | none, some f => return (f op, b :: rest')
        | none, none => return (a ≠ [], rest)
      | [b] =>
        match unary? s a with
        | some f => return (f b, [])
        | none => return (a ≠ [], rest)
      | [] => return (a ≠ [], [])

end

def expression (s : Setting) (args : List Text) : Except Fault Bool := do
  let (a, rest) ← disjunction s (4 * args.length + 8) args
  match rest with
  | [] => return a
  | t :: _ => .error (if t.head? = some '-' then .unexpected t else .tooMany t)

def two (s : Setting) (a b : Text) : Except Fault Bool :=
  if a = ['!'] then .ok (b = [])
  else match unary? s a with
    | some f => .ok (f b)
    | none => .error (.unaryExpected a)

def three (s : Setting) (a op b : Text) : Except Fault Bool := do
  match binary? s op with
  | some f => f a b
  | none =>
    if op = ['-', 'a'] then return a ≠ [] && b ≠ []
    else if op = ['-', 'o'] then return a ≠ [] || b ≠ []
    else if a = ['!'] then return !(← two s op b)
    else if a = ['('] && b = [')'] then return op ≠ []
    else .error (.binaryExpected op)

/-- The answer to a condition. Without arguments it is no. -/
def ask (s : Setting) (args : List Text) : Except Fault Bool := do
  match args with
  | [] => return false
  | [a] => return a ≠ []
  | [a, b] => two s a b
  | [a, op, b] => three s a op b
  | [a, b, c, d] =>
    if a = ['!'] then return !(← three s b c d)
    else if a = ['('] && d = [')'] then two s b c
    else expression s args
  | args => expression s args

/-! ## By the kinds of arguments

Another way to read the same conditions: each argument is an operator or not by what it is and what
follows it. -/

namespace Lexical

/-- The operators that are not known here. -/
def isMissing (op : Text) : Bool :=
  ["-a", "-v", "-o", "-N", "=="].any (·.toList = op)

def isUnary (s : Setting) (t : Text) : Bool := !isMissing t && (unary? s t).isSome

def isBinary (s : Setting) (t : Text) : Bool := !isMissing t && (binary? s t).isSome

/-- Is the first of some arguments an operator that has one operand? -/
def startsUnary (s : Setting) : List Text → Bool
  | t :: u :: rest => isUnary s t && (rest.isEmpty || !isBinary s u)
  | _ => false

mutual

def disjunction (s : Setting) : (fuel : Nat) → (result : Bool) → List Text → Answer
  | 0, _, _ => .error (.closingExpected none)
  | fuel + 1, result, args => do
    let (a, args) ← conjunction s fuel true args
    match args with
    | t :: ['-', 'o'] :: rest =>
      let _ := t
      disjunction s fuel (result || a) rest
    | _ => return (result || a, args)

def conjunction (s : Setting) : (fuel : Nat) → (result : Bool) → List Text → Answer
  | 0, _, _ => .error (.closingExpected none)
  | fuel + 1, result, args => do
    let (a, args) ← negation s fuel args
    match args with
    | t :: ['-', 'a'] :: rest =>
      let _ := t
      conjunction s fuel (result && a) rest
    | _ => return (result && a, args)

def negation (s : Setting) : (fuel : Nat) → List Text → Answer
  | 0, _ => .error (.closingExpected none)
  | fuel + 1, args => do
    match args with
    | ['!'] :: t :: args =>
      let (a, args) ← negation s fuel (t :: args)
      return (!a, args)
    | [['!']] => return (true, [['!']])
    | args => primary s fuel args

/-- One condition. Of the arguments that are left the first one belongs to it. -/
def primary (s : Setting) : (fuel : Nat) → List Text → Answer
  | 0, _ => .error (.closingExpected none)
  | fuel + 1, args => do
    match args with
    | [] => return (false, [])
    | t :: rest =>
      if t = ['('] && !rest.isEmpty then
        if rest.head? = some [')'] then return (false, rest)
        else
          let (a, left) ← disjunction s fuel false rest
          match left.tail with
          | [')'] :: left => return (a, [')'] :: left)
          | _ => .error (.closingExpected none)
      else if startsUnary s args then
        match unary? s t, rest with
        | some f, b :: _ => return (f b, rest)
        | _, _ => .error (.argumentExpected t)
      else match rest with
        | op :: after =>
          if isBinary s op && !startsUnary s rest then
            match binary? s op, after with
            | some f, b :: _ => return (← f t b, after)
            | _, _ => .error (.argumentExpected op)
          else return (t ≠ [], args)
        | [] => return (t ≠ [], args)

end

/-- The answer to some arguments that are no special case. -/
def whole (s : Setting) (args : List Text) : Except Fault Bool := do
  let (a, rest) ← disjunction s (8 * args.length + 16) false args
  match rest with
  | t :: _ :: _ => .error (.unexpected t)
  | _ => return a

/-- The answer to a condition. A `!` before two or three arguments, however often it stands there,
and parentheses around one or two are taken off first. -/
def ask (s : Setting) : (fuel : Nat) → List Text → Except Fault Bool
  | 0, _ => .error (.closingExpected none)
  | fuel + 1, args => do
    let n := args.length
    let f? := if n = 3 then ((args[1]?).filter (isBinary s)).bind (binary? s) else none
    match f?, args with
    | _, [] => return false
    | some f, [a, _, b] => f a b
    | _, args =>
      let isShort := n = 3 || n = 4
      if isShort && args.head? = some ['('] && args.getLast? = some [')'] then
        whole s args.tail.dropLast
      else if isShort && args.head? = some ['!'] then
        let rest := args.dropWhile (· = ['!'])
        let kept := if rest.length < 2 then args.drop (n - 2) else rest
        return !(← ask s fuel kept)
      else whole s args

end Lexical
end GoRepl.Machine.Condition
