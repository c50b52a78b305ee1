import GoRepl.TestBed.Basic
import GoRepl.TestBed.Command.Scalar

/-! # Test bed: formats

Texts with escapes and directives, as `echo` and `printf` write them. A directive takes an argument
and says how it is shown. -/

namespace GoRepl.Machine

open Shell (Expression)

/-! ## Escapes -/

def octal? (c : Char) : Option Nat :=
  if '0' ≤ c && c ≤ '7' then some (c.toNat - '0'.toNat) else none

/-- At most `n` octal digits. -/
def octals : (n : Nat) → (value : Nat) → Text → Nat × Text
  | n + 1, value, c :: t =>
    match octal? c with
    | some v => octals n (value * 8 + v) t
    | none => (value, c :: t)
  | _, value, t => (value, t)

/-- The byte of an escape by a letter. -/
def letterEscape? : Char → Option Char
  | 'n' => some '\n'
  | 't' => some '\t'
  | 'r' => some '\r'
  | 'a' => some '\x07'
  | 'b' => some '\x08'
  | 'f' => some '\x0c'
  | 'v' => some '\x0b'
  | 'e' => some '\x1b'
  | '\\' => some '\\'
  | _ => none

/-- The character of a number in at most `n` hexadecimal digits, and what follows it. -/
def hexEscape? (n : Nat) (t : Text) : Option (Nat × Text) :=
  let ds := (t.take n).takeWhile fun c => (Expression.digit? 16 c).isSome
  if ds = [] then none else some (Expression.ofDigits 16 ds, t.drop ds.length)

/-- What an escape stands for, and what follows it; the backslash has been read. Numbers are octal;
those that are `wide` may be hexadecimal too. -/
def escape? (wide leadingZero : Bool) (t : Text) : Option (Text × Text) :=
  let wideEscape (n : Nat) (t : Text) (show' : Nat → Text) : Option (Text × Text) :=
    if wide then (hexEscape? n t).map (Prod.map show' id) else none
  match t with
  | 'x' :: t' => wideEscape 2 t' fun n => [Char.ofNat n]
  | 'u' :: t' => wideEscape 4 t' fun n => Narrow.ofText [Char.ofNat n]
  | 'U' :: t' => wideEscape 8 t' fun n => Narrow.ofText [Char.ofNat n]
  | c :: t' =>
    match letterEscape? c with
    | some d => some ([d], t')
    | none =>
      if (octal? c).isSome then
        let (value, rest) := octals 3 0 (if leadingZero && c = '0' then t' else t)
        some ([Char.ofNat (value % 256)], rest)
      else none
  | [] => none

/-- A text with its escapes replaced, and whether one of them ended it. -/
def unescape (wide : Bool) : (fuel : Nat) → Text → Text × Bool
  | 0, _ => ([], false)
  | _, [] => ([], false)
  | _, '\\' :: 'c' :: _ => ([], true)
  | fuel + 1, '\\' :: t =>
    match escape? wide true t with
    | some (c, t) => (unescape wide fuel t).map (c ++ ·) id
    | none => (unescape wide fuel t).map ('\\' :: ·) id
  | fuel + 1, c :: t => (unescape wide fuel t).map (c :: ·) id

/-- A text as it can be written in a script. -/
def quotedForShell (t : Text) : Text :=
  if t = [] then "''".toList
  else if t.all fun c => isPlain c then t
  else t.flatMap fun c => if isPlain c then [c] else ['\\', c]
where
  isPlain (c : Char) : Bool := Shell.isNameChar c || "@%+=:,./-".toList.contains c

/-! ## Directives -/

/-- What is wrong with an argument or a directive. -/
inductive FormatFault where
  | notNumeric (arg : Text)
  | partlyNumeric (arg : Text)
  | outOfRange (arg : Text)
  | invalid (directive : Text)
  /-- The format ends before its last directive does. -/
  | unfinished (directive : Text)
deriving DecidableEq, Repr

/-- How an argument is shown. -/
structure Directive where
  flags : List Char := []
  width : Option Int := none
  precision : Option Nat := none
  kind : Char := 's'
deriving Repr

namespace Directive

def has (d : Directive) (flag : Char) : Bool := d.flags.contains flag

/-- Fill a text up to the width. Zeros go between a sign and the digits. -/
def fill (d : Directive) (zeros : Bool) (sign t : Text) : Text :=
  let width := (d.width.getD 0).natAbs
  let left := d.has '-' || d.width.any (· < 0)
  let missing := width - (sign.length + t.length)
  if left then sign ++ t ++ List.replicate missing ' '
  else if zeros && d.has '0' then sign ++ List.replicate missing '0' ++ t
  else List.replicate missing ' ' ++ sign ++ t

def signOf (d : Directive) (negative : Bool) : Text :=
  if negative then ['-'] else if d.has '+' then ['+'] else if d.has ' ' then [' '] else []

/-- An integer with at least as many digits as the precision asks for. -/
def integer (d : Directive) (sign digits : Text) : Text :=
  let digits := match d.precision with
    | some p => if p = 0 && digits = ['0'] then [] else padStart p '0' digits
    | none => digits
  d.fill d.precision.isNone sign digits

def text (d : Directive) (t : Text) : Text :=
  d.fill false [] (match d.precision with
    | some p => t.take p
    | none => t)

/-- The number at the start of an argument. A quote before a character gives its number. -/
def numberOf (arg : Text) : Int × List FormatFault :=
  match arg with
  | '\'' :: c :: _ | '"' :: c :: _ => (c.toNat, [])
  | [] => (0, [.notNumeric []])
  | _ =>
    let t := Expression.blank arg
    let (negative, t) := match t with
      | '-' :: t => (true, t)
      | '+' :: t => (false, t)
      | t => (false, t)
    match Expression.numeral? t with
    | none => (0, [.notNumeric arg])
    | some (n, rest) =>
      let run := t.take (t.length - rest.length)
      let faults := if rest ≠ [] then [.partlyNumeric arg]
        else if 19 < run.length && n = Nat.pow 2 63 - 1 then [.outOfRange arg] else []
      (if negative then -n else n, faults)

/-- Show a number, if the kind is one for such numbers. -/
def float (d : Directive) (p : Precision) (x : Scalar) : Text :=
  let sign := d.signOf x.isNegative
  let (zeros, shown) := match x with
    | .infinite _ => (false, "inf".toList)
    | .undefined _ => (false, "nan".toList)
    | .finite _ m q =>
      let places := d.precision.getD 6
      (true, match d.kind.toLower with
        | 'f' => pointed places (roundScaled m q places) (d.has '#')
        | 'e' => scientific m q places (d.has '#')
        | 'a' => hexadecimal p m q d.precision (d.has '#')
        | _ => general m q places (d.has '#'))
  d.fill zeros sign (if d.kind.isUpper then shown.map Char.toUpper else shown)

/-- Show an argument; numbers with a fraction are so exact. -/
def render (d : Directive) (p : Precision) (arg : Option Text) : Text × List FormatFault :=
  let number : Int × List FormatFault := match arg with
    | some arg => numberOf arg
    | none => (0, [])
  let unsigned : Nat := (number.1 % Nat.pow 2 64).toNat
  let based (base : Nat) (mark : Text) (upper : Bool) : Text :=
    let ds := Nat.toDigits base unsigned
    let ds := if upper then ds.map Char.toUpper else ds
    d.integer (if d.has '#' && unsigned ≠ 0 then mark else []) ds
  match d.kind with
  | 's' => (d.text (arg.getD []), [])
  | 'c' => (d.text ((arg.getD []).take 1 ++ if (arg.getD []) = [] then ['\x00'] else []), [])
  | 'd' | 'i' => (d.integer (d.signOf (number.1 < 0)) (decimal number.1.natAbs), number.2)
  | 'u' => (d.integer [] (decimal unsigned), number.2)
  | 'o' => (based 8 ['0'] false, number.2)
  | 'x' => (based 16 ['0', 'x'] false, number.2)
  | 'X' => (based 16 ['0', 'X'] true, number.2)
  | _ =>
    match arg.getD ['0'] with
    | '\'' :: c :: _ | '"' :: c :: _ => (d.float p (.finite false c.toNat 0), [])
    | arg =>
      match Scalar.read? p arg with
      | none => (d.float p (.finite false 0 0), [.notNumeric arg])
      | some (x, isOut, rest) =>
        (d.float p x,
          if rest ≠ [] then [.partlyNumeric arg] else if isOut then [.outOfRange arg] else [])

end Directive

/-- What a format has written so far. -/
structure Formatting where
  /-- May escapes be hexadecimal? -/
  wide : Bool := true
  /-- How a time in seconds, or the present one, is shown in a form, if that is known. -/
  showTime : Option (Option Int → Text → Text) := none
  /-- What has been written, latest first. -/
  written : List Text := []
  faults : List FormatFault := []
  args : List Text
  /-- Has an argument been taken? -/
  took : Bool := false
  stopped : Bool := false

namespace Formatting

def add (f : Formatting) (t : Text) : Formatting := { f with written := t :: f.written }

def next (f : Formatting) : Option Text × Formatting :=
  (f.args.head?, { f with args := f.args.tail, took := true })

/-- A number in a directive, or the argument that stands for one. -/
def count (f : Formatting) (t : Text) : Option Int × Formatting × Text :=
  match t with
  | '*' :: t =>
    let (arg, f) := f.next
    (some ((arg.map fun a => (Directive.numberOf a).1).getD 0), f, t)
  | t =>
    let ds := t.takeWhile Text.isDigit
    (if ds = [] then none else some (Expression.ofDigits 10 ds), f, t.dropWhile Text.isDigit)

/-- The form of a time up to its closing parenthesis, inside of which `depth` are open, and what
follows the letter for times. -/
def timeForm? : (depth : Nat) → Text → Option (Text × Text)
  | 0, ')' :: 'T' :: t => some ([], t)
  | 0, ')' :: _ => none
  | depth + 1, ')' :: t => (timeForm? depth t).map fun (form, t) => (')' :: form, t)
  | depth, '(' :: t => (timeForm? (depth + 1) t).map fun (form, t) => ('(' :: form, t)
  | depth, c :: t => (timeForm? depth t).map fun (form, t) => (c :: form, t)
  | _, [] => none

/-- Write a directive, whose percent sign has been read, and give what follows it. -/
def directive (f : Formatting) (start : Text) : Formatting × Text :=
  let flags := start.takeWhile ("-+ #0".toList.contains ·)
  let (width, f, t) := f.count (start.dropWhile ("-+ #0".toList.contains ·))
  let (precision, f, t) : Option Nat × Formatting × Text := match t with
    | '.' :: t =>
      let (n, f, t) := f.count t
      (some (n.getD 0).toNat, f, t)
    | t => (none, f, t)
  -- The size of a number is of no account.
  let t := if f.wide then t.dropWhile ("hjlLtz".toList.contains ·) else t
  match t with
  | '%' :: t => if start.head? = some '%' then (f.add ['%'], t) else refuse f ('%' :: t)
  | 'q' :: t =>
    if f.wide then
      let (arg, f) := f.next
      (f.add (Directive.text { flags, width, precision } (quotedForShell (arg.getD []))), t)
    else refuse f ('q' :: t)
  | 'b' :: t =>
    let (arg, f) := f.next
    let arg := arg.getD []
    let (shown, stops) := unescape f.wide (arg.length + 1) arg
    ({ f.add (Directive.text { flags, width, precision } shown) with stopped := stops }, t)
  | '(' :: rest =>
    match f.showTime, timeForm? 0 rest with
    | some show', some (form, t) =>
      let (arg, f) := f.next
      let (n, faults) := match arg with
        | none | some ['-', '1'] | some ['-', '2'] => (none, [])
        | some [] => (some 0, [])
        | some arg =>
          let (n, faults) := Directive.numberOf arg
          (some n, faults)
      let shown := Directive.text { flags, width, precision } (show' n form)
      ({ f.add shown with faults := f.faults ++ faults }, t)
    | _, _ => refuse f ('(' :: rest)
  | c :: t =>
    if "scdiuoxXfFeEgGaA".toList.contains c then
      let (arg, f) := f.next
      let exactness := if f.wide then Precision.extended else .double
      let (shown, faults) := Directive.render { flags, width, precision, kind := c } exactness arg
      ({ f.add shown with faults := f.faults ++ faults }, t)
    else refuse f (c :: t)
  | [] =>
    ({ f with faults := f.faults ++ [.unfinished ('%' :: start)], stopped := true }, [])
where
  refuse (f : Formatting) (t : Text) : Formatting × Text :=
    let directive := '%' :: start.take (start.length - t.length + 1)
    ({ f with faults := f.faults ++ [.invalid directive], stopped := true }, [])

/-- One pass through a format. -/
def pass : (fuel : Nat) → Formatting → Text → Formatting
  | 0, f, _ => f
  | _, f, [] => f
  | fuel + 1, f, '%' :: t =>
    let (f, t) := f.directive t
    if f.stopped then f else pass fuel f t
  | fuel + 1, f, '\\' :: t =>
    match escape? f.wide false t with
    | some (c, t) => pass fuel (f.add c) t
    | none =>
      match t with
      | '"' :: t => pass fuel (f.add ['"']) t
      | t => pass fuel (f.add ['\\']) t
  | fuel + 1, f, c :: t => pass fuel (f.add [c]) t

/-- Passes through a format as long as arguments are left. -/
def passes (format : Text) : (fuel : Nat) → Formatting → Formatting
  | 0, f => f
  | fuel + 1, f =>
    let f := pass (format.length + 1) { f with took := false } format
    if f.stopped || !f.took || f.args.isEmpty then f else passes format fuel f

def run (wide : Bool) (format : Text) (args : List Text)
    (showTime : Option (Option Int → Text → Text) := none) : Formatting :=
  passes format (args.length + 1) { wide, args, showTime }

def text (f : Formatting) : Text := f.written.reverse.flatten

end Formatting
end GoRepl.Machine
