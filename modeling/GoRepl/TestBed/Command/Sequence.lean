import GoRepl.TestBed.Command.Basic
import GoRepl.TestBed.Command.Format

/-! # Test bed: sequences of numbers

The numbers from one to another, in steps of the same size. Numbers are exact fractions; how they
are written says how many places they are shown with. -/

namespace GoRepl.Machine.Sequence

open Call (quoted)

/-! ## Numbers -/

/-- A number as a fraction whose denominator is not zero. -/
structure Fraction where
  numerator : Int
  denominator : Nat := 1

/-- The numerator of a fraction over a multiple of its denominator. -/
def Fraction.over (x : Fraction) (denominator : Nat) : Int :=
  x.numerator * (denominator / x.denominator : Nat)

/-- A bound of a sequence, or its step. -/
inductive Bound where
  | finite (x : Fraction)
  | infinite (negative : Bool)

/-- The largest exponent of a number that is in range. -/
def exponentLimit : Nat := 4931

/-- `n · base ^ exponent` as a fraction. -/
def fractionOf (negative : Bool) (n base : Nat) (exponent : Int) : Fraction :=
  let n : Int := n * Nat.pow base exponent.toNat
  ⟨if negative then -n else n, Nat.pow base (-exponent).toNat⟩

/-- Read a number; nothing may follow it. There is `none` in place of what is not a number. -/
def bound? (t : Text) : Option (Option Bound) :=
  let t := Shell.Expression.blank t
  let (negative, t) := match t with
    | '-' :: t => (true, t)
    | '+' :: t => (false, t)
    | t => (false, t)
  let made (base digitBase : Nat) (letter : Char) (t : Text) : Option (Option Bound) :=
    match pointedDigits? digitBase t with
    | none => none
    | some (n, places, rest) =>
      let (exponent, rest) := exponentAt letter rest
      let exponent := exponent - (if digitBase = 16 then 4 * places else places : Nat)
      let size := exponent.natAbs
      if rest ≠ [] || (n ≠ 0 && (if base = 2 then 4 else 1) * exponentLimit < size) then none
      else some (some (.finite (fractionOf negative n base (if n = 0 then 0 else exponent))))
  match String.ofList (t.map Char.toLower) with
  | "inf" | "infinity" => some (some (.infinite negative))
  | "nan" => some none
  | _ =>
    match t with
    | '0' :: x :: rest =>
      if x = 'x' || x = 'X' then made 2 16 'p' rest else made 10 10 'e' t
    | t => made 10 10 'e' t

/-- A number that is given, with how wide it is when it is shown and how many places it has, if
that can be told. -/
structure Given where
  bound : Bound
  width : Int := 0
  places : Option Int := none

def one : Given := { bound := .finite ⟨1, 1⟩, width := 1, places := some 0 }

/-- How wide a number is and how many places it has where it is written in decimal digits. -/
def measured (t : Text) : Int × Int :=
  let length (t : Text) : Int := t.length
  let isExponent (c : Char) : Bool := c = 'e' || c = 'E'
  let mantissa := t.takeWhile (!isExponent ·)
  let (fraction, hasPoint, before) := match Text.cutAt? '.' mantissa with
    | some (before, after) => (length after, true, before)
    | none => (0, false, mantissa)
  let startsBare := !(before.getLast?.any Text.isDigit)
  let width := length t + (if !hasPoint then 0 else if fraction = 0 then -1
    else if startsBare then 1 else 0)
  let places : Int := if hasPoint then fraction else 0
  if mantissa.length = t.length then (width, places)
  else
    let (exponent, _) := exponentAt 'e' (t.drop mantissa.length)
    let places := places + if exponent < 0 then -exponent else -(min places exponent)
    let width := width - (length t - length mantissa)
    if exponent < 0 then
      (width + (if hasPoint then (if fraction = 0 then 1 else 0) else 1) - exponent, places)
    else
      let width := if hasPoint && places = 0 && fraction ≠ 0 then width - 1 else width
      (width + (exponent - min fraction exponent), places)

/-- Read an argument. -/
def read (t : Text) : Except Text Given :=
  match bound? t with
  | none => throw ("invalid floating point argument: ".toList ++ quoted t)
  | some none => throw ("invalid 'not-a-number' argument: ".toList ++ quoted t)
  | some (some bound) =>
    let t := t.dropWhile fun c => c = ' ' || c = '\t' || c = '+'
    let isHex := t.any fun c => c = 'x' || c = 'X'
    match bound with
    | .finite _ =>
      if isHex then
        return { bound, places := if t.contains '.' || t.contains 'p' then none else some 0 }
      else
        let (width, places) := measured t
        return { bound, width, places := some places }
    | .infinite _ => return { bound, places := some 0 }

/-! ## How numbers are shown -/

/-- A form with one directive: what stands before it, the directive, and what stands after it. -/
structure Form where
  before : Text
  directive : Text
  after : Text

/-- A text up to a directive, in which two percent signs stand for one; and what follows. -/
def untilDirective : Text → Text × Text
  | '%' :: '%' :: t =>
    let (text, rest) := untilDirective t
    ('%' :: text, rest)
  | '%' :: t => ([], '%' :: t)
  | c :: t =>
    let (text, rest) := untilDirective t
    (c :: text, rest)
  | [] => ([], [])

/-- Read a form that is given. -/
def form (t : Text) : Except Text Form :=
  let wrong (what : String) : Text := "format ".toList ++ quoted t ++ " ".toList ++ what.toList
  match untilDirective t with
  | (before, '%' :: rest) =>
    let flags := rest.takeWhile ("-+#0 '".toList.contains ·)
    let rest := rest.drop flags.length
    let width := rest.takeWhile Text.isDigit
    let rest := rest.drop width.length
    let places := match rest with
      | '.' :: rest => '.' :: rest.takeWhile Text.isDigit
      | _ => []
    let rest := rest.drop places.length
    let rest := if rest.head? = some 'L' then rest.tail else rest
    match rest with
    | [] => throw (wrong "ends in %")
    | kind :: rest =>
      if !"efgaEFGA".toList.contains kind then
        throw (wrong "has unknown %" ++ [kind] ++ " directive".toList)
      else match untilDirective rest with
        | (after, []) => return ⟨before, '%' :: flags ++ width ++ places ++ [kind], after⟩
        | _ => throw (wrong "has too many % directives")
  | _ => throw (wrong "has no % directive")

/-- A fraction in decimal digits, all of which are shown. -/
def exactText (x : Fraction) : Text :=
  let places := Nat.log2 x.denominator + 1
  let digits := x.numerator.natAbs * Nat.pow 10 places / x.denominator
  (if x.numerator < 0 then ['-'] else []) ++ dropZeros (pointed places digits false)

/-- A number in a form, without what stands before and after it. -/
def Form.shown (f : Form) (x : Fraction) : Text :=
  (Formatting.run true f.directive [exactText x]).text

/-- A number with some places, and with zeros before it up to a width. -/
def fixed (places width : Nat) (x : Fraction) : Text :=
  let digits := pointed places
    (roundQuotient (x.numerator.natAbs * Nat.pow 10 places) x.denominator) false
  if x.numerator < 0 then '-' :: padStart (width - 1) '0' digits else padStart width '0' digits

/-- How numbers are shown if no form is given. -/
def standard (equalWidth : Bool) (first step last : Given) : Fraction → Text :=
  match first.places, step.places, last.places with
  | some a, some b, some c =>
    let places := max a b
    if equalWidth then
      let firstWidth := first.width + (places - a) + if a = 0 && places ≠ 0 then 1 else 0
      let lastWidth := last.width + (places - c) -
        (if c ≠ 0 && places = 0 then 1 else 0) + if c = 0 && places ≠ 0 then 1 else 0
      fixed places.toNat (max firstWidth lastWidth).toNat
    else fixed places.toNat 0
  | _, _, _ => fun x => (Formatting.run true "%g".toList [exactText x]).text

/-! ## Sequences -/

/-- How many numbers of a sequence that does not end are told apart. -/
def endlessLength : Nat := 100000

/-- The numbers from one to another over a common denominator. -/
def members (denominator : Nat) (step last : Int) : (fuel : Nat) → Int → List Fraction
  | 0, _ => []
  | fuel + 1, n =>
    if (0 < step && last < n) || (step < 0 && n < last) then []
    else ⟨n, denominator⟩ :: members denominator step last fuel (n + step)

/-- The numbers of a sequence as they are shown, and whether there are more of them than can be
told. One more number belongs to them if it is shown as the last one. -/
def shownMembers (render : Fraction → Text) (first step : Fraction) (last : Bound) :
    List Text × Bool :=
  let denominator := match last with
    | .finite x => first.denominator * step.denominator * x.denominator
    | .infinite _ => first.denominator * step.denominator
  let a := first.over denominator
  let s := step.over denominator
  match last with
  | .infinite negative =>
    if negative = (decide (s < 0)) then
      let shown (k : Nat) := render ⟨a + (k : Int) * s, denominator⟩
      ((List.range endlessLength).map shown, true)
    else ([], false)
  | .finite x =>
    let l := x.over denominator
    let count := (l - a).natAbs / s.natAbs + 1
    let shown := (members denominator s l count a).map render
    let next : Text := render ⟨a + shown.length * s, denominator⟩
    let isLast : Bool := match bound? next with
      | some (some (.finite y)) => y.numerator * x.denominator = x.numerator * y.denominator
      | _ => false
    match shown.getLast? with
    | none => ([], false)
    | some previous => (if isLast && next ≠ previous then shown ++ [next] else shown, false)

/-- Do the options end at an argument, as it is a negative number? -/
def isNegative (t : Text) : Bool :=
  match t with
  | '-' :: c :: _ => c = '.' || Text.isDigit c
  | _ => false

def rules : OptionRules where
  flags := "w"
  valued := "sf"
  long := [("equal-width", 'w'), ("separator", 's'), ("format", 'f')]
  ordered := true

/-- The arguments with a mark before the first negative number that is no value of an option. -/
def marked : List Text → List Text
  | [] => []
  | t :: args =>
    if isNegative t then ['-', '-'] :: t :: args
    else if t.head? ≠ some '-' || t = ['-', '-'] then t :: args
    else
      let takesValue := t = "--format".toList || t = "--separator".toList ||
        (t.take 2 ≠ ['-', '-'] && (t.find? fun c => c = 's' || c = 'f').any fun c =>
          t.getLast? = some c)
      match takesValue, args with
      | true, value :: args => t :: value :: marked args
      | _, args => t :: marked args

/-- Write a sequence. -/
def write (c : Call) (o : Options) (first step last : Given) : Work Nat := do
  let render : Except Text ((Fraction → Text) × Text × Text) := match o.value? 'f' with
    | none => .ok (standard (o.has 'w') first step last, [], [])
    | some t => (form t).map fun f => (f.shown, f.before, f.after)
  match render, first.bound, step.bound with
  | .error message, _, _ => c.fail message
  | .ok (render, before, after), .finite a, .finite s =>
    let (shown, isEndless) := shownMembers render a s last.bound
    let shown := shown.map fun t => before ++ t ++ after
    let separator := (o.value? 's').getD ['\n']
    if isEndless then
      c.pour ⟨shown.flatMap (· ++ separator), (shown.getLast?).getD [] ++ separator⟩
    else if !shown.isEmpty then c.print (List.intercalate separator shown ++ ['\n'])
    return 0
  | _, _, _ => return 0

def seq (c : Call) : Work Nat :=
  { c with args := marked c.args }.withOptions rules 1 fun o =>
    match o.operands with
    | [] => c.misuse "missing operand".toList
    | _ :: _ :: _ :: extra :: _ => c.misuse ("extra operand ".toList ++ quoted extra)
    | operands =>
      if let some (.error message) := (o.value? 'f').map form then c.fail message
      else if (o.value? 'f').isSome && o.has 'w' then
        c.misuse ("format string may not be specified".toList ++
          " when printing equal width strings".toList)
      else match operands.mapM read with
        | .error message => c.misuse message
        | .ok [last] => write c o one one last
        | .ok [first, last] => write c o first one last
        | .ok [first, step, last] =>
          match step.bound with
          | .finite ⟨0, _⟩ =>
            c.misuse ("invalid Zero increment value: ".toList ++ quoted ((operands[1]?).getD []))
          | _ => write c o first step last
        | .ok _ => return 1

end GoRepl.Machine.Sequence
