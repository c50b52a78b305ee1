import GoRepl.TestBed.Command.Condition
import GoRepl.TestBed.Command.Listing
import GoRepl.TestBed.Command.Format
import GoRepl.TestBed.Regex

/-! # Test bed: commands on values

Commands that work with their arguments: texts, numbers and conditions. -/

namespace GoRepl.Machine.Values

open Call (quoted)
open Shell (Expression)

/-- The arguments with a space between any two, as options ask for it. -/
def echoed (args : List Text) : Text :=
  let isOption (t : Text) : Bool := match t with
    | '-' :: d :: ds => (d :: ds).all ("neE".toList.contains ·)
    | _ => false
  let letters := (args.takeWhile isOption).flatten
  let line := List.intercalate [' '] (args.dropWhile isOption)
  let escapes := (letters.reverse.find? fun ch => ch = 'e' || ch = 'E') = some 'e'
  let (shown, stops) := if escapes then unescape true (line.length + 1) line else (line, false)
  shown ++ if stops || letters.contains 'n' then [] else ['\n']

def echo (c : Call) : Work Nat := do
  c.print (echoed c.args)
  return 0

def FormatFault.message : FormatFault → Text
  | .notNumeric arg => quoted arg ++ ": expected a numeric value".toList
  | .partlyNumeric arg => quoted arg ++ ": value not completely converted".toList
  | .outOfRange arg => quoted arg ++ ": Numerical result out of range".toList
  | .invalid d | .unfinished d => d ++ ": invalid conversion specification".toList

def printf (c : Call) : Work Nat := do
  match if c.args.head? = some ['-', '-'] then c.args.tail else c.args with
  | [] => c.misuse "missing operand".toList
  | format :: args =>
    let f := Formatting.run true format args
    c.print f.text
    for fault in f.faults do
      c.complain (FormatFault.message fault)
    match if f.stopped || f.took then none else args.head? with
    | some extra =>
      c.complain ("warning: ignoring excess arguments, starting with ".toList ++ quoted extra)
    | none => pure ()
    return if f.faults.isEmpty then 0 else 1

def conditionFault : Condition.Fault → Text
  | .illegalNumber t => "invalid integer ".toList ++ quoted t
  | .argumentExpected t => "missing argument after ".toList ++ quoted t
  | .closingExpected none => "')' expected".toList
  | .closingExpected (some t) => "')' expected, found ".toList ++ t
  | .unaryExpected t => quoted t ++ ": unary operator expected".toList
  | .binaryExpected t => quoted t ++ ": binary operator expected".toList
  | .unexpected t | .tooMany t => "extra argument ".toList ++ quoted t

def test (c : Call) : Work Nat := do
  let bracket := c.name.getLast? = some '['
  if bracket && c.args.getLast? ≠ some [']'] then c.fail "missing ']'".toList 2
  else
    let args := if bracket then c.args.dropLast else c.args
    let s : Condition.Setting := { disk := (← get).disk, place := c.place }
    match Condition.ask s args, args with
    | .ok a, _ => return if a then 0 else 1
    | .error (.unaryExpected _), [_, b] =>
      c.fail ("missing argument after ".toList ++ quoted b) 2
    | .error fault, _ => c.fail (conditionFault fault) 2

/-- The last part of a path, without the given ending unless nothing would be left. -/
def baseName (path ending : Text) : Text :=
  let name := Files.lastPart path
  if ending ≠ [] && name ≠ ending && ending.reverse.isPrefixOf name.reverse then
    name.take (name.length - ending.length)
  else name

def basename (c : Call) : Work Nat :=
  c.withOptions { flags := "az", valued := "s", ordered := true
                  long := [("multiple", 'a'), ("suffix", 's'), ("zero", 'z')] } 1 fun o => do
    let ending := (o.value? 's').getD []
    let shown (path ending : Text) : Text :=
      baseName path ending ++ [if o.has 'z' then '\x00' else '\n']
    match o.operands with
    | [] => c.misuse "missing operand".toList
    | [path] =>
      c.print (shown path ending)
      return 0
    | paths =>
      if o.has 'a' || o.has 's' then
        c.print (paths.flatMap (shown · ending))
        return 0
      else match paths with
        | [path, ending] =>
          c.print (shown path ending)
          return 0
        | _ => c.misuse ("extra operand ".toList ++ quoted ((paths[2]?).getD []))

/-- A path without its last part. -/
def directoryName (path : Text) : Text :=
  let trimmed := Text.dropEndWhile (· == '/') path
  let above := Text.dropEndWhile (· == '/') (Text.dropEndWhile (· != '/') trimmed)
  if trimmed = [] then (if path = [] then ['.'] else ['/'])
  else if above ≠ [] then above
  else if trimmed.contains '/' then ['/']
  else ['.']

def dirname (c : Call) : Work Nat :=
  c.withOptions { flags := "z", long := [("zero", 'z')] } 1 fun o => do
    if o.operands.isEmpty then c.misuse "missing operand".toList
    else
      let ending := if o.has 'z' then '\x00' else '\n'
      c.print (o.operands.flatMap fun t => directoryName t ++ [ending])
      return 0

/-- Write a line for ever. -/
def yes (c : Call) : Work Nat :=
  c.withOptions { flags := "" } 1 fun o => do
    let line := if o.operands.isEmpty then ['y'] else List.intercalate [' '] o.operands
    c.pour ⟨[], line ++ ['\n']⟩
    return 1

/-! ## Numbers -/

/-- A number with places after its point: its digits as a whole number, and how many places. -/
def decimal? (t : Text) : Option (Int × Nat) :=
  let (negative, t) := match t with
    | '-' :: t => (true, t)
    | '+' :: t => (false, t)
    | t => (false, t)
  let whole := t.takeWhile Text.isDigit
  let made (places : Text) : Option (Int × Nat) :=
    if whole = [] && places = [] then none
    else
      let n : Int := Expression.ofDigits 10 (whole ++ places)
      some (if negative then -n else n, places.length)
  match t.dropWhile Text.isDigit with
  | [] => made []
  | '.' :: places => if places.all Text.isDigit then made places else none
  | _ => none

/-- An interval of time in microseconds, or `none` within if it never ends. -/
def interval? (t : Text) : Option (Option Nat) :=
  let (ds, unit) := match t.getLast? with
    | some 's' => (t.dropLast, 1)
    | some 'm' => (t.dropLast, 60)
    | some 'h' => (t.dropLast, 3600)
    | some 'd' => (t.dropLast, 86400)
    | _ => (t, 1)
  if t = "infinity".toList || t = "inf".toList then some none
  else match decimal? ds with
    | some (.ofNat n, places) => some (some (n * 1000000 * unit / Nat.pow 10 places))
    | _ => none

def sleep (c : Call) : Work Nat := c.withOptions { flags := "" } 1 fun o => do
  let wrong := o.operands.filter fun t => (interval? t).isNone
  if o.operands.isEmpty then c.misuse "missing operand".toList
  else if !wrong.isEmpty then
    for t in wrong do
      c.complain ("invalid time interval ".toList ++ quoted t)
    c.write 2 ("Try '".toList ++ c.name ++ " --help' for more information.\n".toList)
    return 1
  else
    for t in o.operands do
      match interval? t with
      | some (some n) => Machine.sleep n
      | _ => spin
    return 0

/-- The prime factors of a number from `d` on, in order. What is left after `fuel` steps counts as
one factor. -/
def primeFactors : (fuel d n : Nat) → List Nat
  | 0, _, n => if 1 < n then [n] else []
  | fuel + 1, d, n =>
    if n < d * d then (if 1 < n then [n] else [])
    else if n % d = 0 then d :: primeFactors fuel d (n / d)
    else primeFactors fuel (if d = 2 then 3 else d + 2) n

/-- The prime factors of numbers. -/
def factor (c : Call) : Work Nat :=
  c.withOptions { flags := "h", long := [("exponents", 'h')] } 1 fun o => do
    let isSpace (k : Char) : Bool := k = ' ' || ('\t' ≤ k && k ≤ '\r')
    let words ← if o.operands.isEmpty then do
        let input ← c.input
        pure (((input.map fun k => if isSpace k then ' ' else k).splitOn ' ').filter (· ≠ []))
      else pure o.operands
    words.foldlM (fun status t => do
      let digits := match t.dropWhile isSpace with
        | '+' :: t => t
        | t => t
      match natural? digits with
      | none => c.fail (quoted t ++ " is not a valid positive integer".toList)
      | some n =>
        let found := primeFactors 2000000 2 n
        let shown : List Text := if o.has 'h' then
            found.eraseDups.map fun p =>
              let k := found.count p
              decimal p ++ if k = 1 then [] else '^' :: decimal k
          else found.map decimal
        c.print (decimal n ++ [':'] ++ shown.flatMap (' ' :: ·) ++ ['\n'])
        return status) 0

/-! ## Expressions in arguments -/

/-- What is known while an expression is read: the argument that was read last, and those to
come. -/
structure Remaining where
  last : Text := []
  args : List Text

/-- The reading of an expression, or the words about why it has no value. -/
abbrev Evaluation := StateT Remaining (Except Text)

def integer (t : Text) : Except Text Int :=
  let (negative, digits) := match t with
    | '-' :: t => (true, t)
    | t => (false, t)
  match natural? digits with
  | some n => return if negative then -n else n
  | none => throw "non-integer argument".toList

/-- A value that counts as false. -/
def isNull (t : Text) : Bool :=
  t = [] || (integer t).toOption = some 0

/-- What the first group matches at the start of a text, or how many characters match if there is no
group. -/
def matched (t pattern : Text) : Except Text Text := do
  let form : Regex.Form := { extended := false }
  if let some fault := Regex.fault? form pattern then throw fault.toList
  let r := Regex.read form pattern
  let grouped := r.mentionsGroup
  match Regex.matchAt? r ⟨[], t, [], none⟩ with
  | some m => return if grouped then (m.after.groups.lookup 1).getD [] else decimal m.matched.length
  | none => return if grouped then [] else ['0']

/-- The operators of each strength, weakest first. -/
def strengths : List (List String) :=
  [["|"], ["&"], ["<", "<=", "=", "==", "!=", ">=", ">"], ["+", "-"], ["*", "/", "%"], [":"]]

def combine (op : String) (a b : Text) : Except Text Text := do
  let number (f : Int → Int → Except Text Int) : Except Text Text := do
    return Expression.shown (← f (← integer a) (← integer b))
  let compared (f : Ordering → Bool) : Except Text Text :=
    let order := match (integer a).toOption, (integer b).toOption with
      | some m, some n => Ord.compare m n
      | _, _ => if decide (a < b) then .lt else if a = b then .eq else .gt
    return if f order then ['1'] else ['0']
  match op with
  | "|" => return if !isNull a then a else if isNull b then ['0'] else b
  | "&" => return if isNull a || isNull b then ['0'] else a
  | "<" => compared (· = .lt)
  | "<=" => compared (· ≠ .gt)
  | "=" | "==" => compared (· = .eq)
  | "!=" => compared (· ≠ .eq)
  | ">=" => compared (· ≠ .lt)
  | ">" => compared (· = .gt)
  | "+" => number fun m n => return m + n
  | "-" => number fun m n => return m - n
  | "*" => number fun m n => return m * n
  | "/" => number fun m n =>
    if n = 0 then throw "division by zero".toList else return m.tdiv n
  | "%" => number fun m n =>
    if n = 0 then throw "division by zero".toList else return m.tmod n
  | _ => matched a b

/-- The next argument, if it is one of some words. -/
def accept (words : List String) : Evaluation (Option String) := do
  match (← get).args with
  | arg :: args =>
    match words.find? (·.toList = arg) with
    | some w =>
      set { last := arg, args : Remaining }
      return some w
    | none => return none
  | [] => return none

/-- The next argument, which has to be there. -/
def required : Evaluation Text := do
  match (← get).args with
  | arg :: args =>
    set { last := arg, args : Remaining }
    return arg
  | [] => throw ("syntax error: missing argument after ".toList ++ quoted (← get).last)

/-- A part of a text, from a position on and with a length. -/
def portion (t start size : Text) : Text :=
  let position := ((integer start).toOption.getD 0).toNat
  let length := ((integer size).toOption.getD 0).toNat
  if position = 0 then [] else (t.drop (position - 1)).take length

mutual

/-- An expression with operators from a strength on. What does not count is read only. -/
def evaluated : (fuel level : Nat) → (counts : Bool) → Evaluation Text
  | 0, _, _ => throw "too deep".toList
  | fuel + 1, level, counts => do
    if level < strengths.length then
      let a ← evaluated fuel (level + 1) counts
      more fuel level counts a
    else call fuel counts

def more : (fuel level : Nat) → (counts : Bool) → Text → Evaluation Text
  | 0, _, _, _ => throw "too deep".toList
  | fuel + 1, level, counts, a => do
    match ← accept ((strengths[level]?).getD []) with
    | none => return a
    | some op =>
      let rest := counts && !(op = "|" && !isNull a) && !(op = "&" && isNull a)
      let b ← evaluated fuel (level + 1) rest
      let value ← if counts then (combine op a b : Except Text Text) else pure a
      more fuel level counts value

/-- A word, a call of a function, or an expression in parentheses. -/
def call : (fuel : Nat) → (counts : Bool) → Evaluation Text
  | 0, _ => throw "too deep".toList
  | fuel + 1, counts => do
    match ← accept ["+", "length", "match", "index", "substr"] with
    | some "+" => required
    | some "length" => return decimal (← call fuel counts).length
    | some "match" =>
      let t ← call fuel counts
      let pattern ← call fuel counts
      if counts then (matched t pattern : Except Text Text) else return t
    | some "index" =>
      let t ← call fuel counts
      let set ← call fuel counts
      return decimal (((t.findIdx? fun c => set.contains c).map (· + 1)).getD 0)
    | some _ =>
      let t ← call fuel counts
      let start ← call fuel counts
      return portion t start (← call fuel counts)
    | none =>
      match ← required with
      | ['('] =>
        let a ← evaluated fuel 0 counts
        match (← get).args with
        | [')'] :: args =>
          set { last := [')'], args : Remaining }
          return a
        | [] => throw ("syntax error: expecting ')' after ".toList ++ quoted (← get).last)
        | t :: _ => throw ("syntax error: expecting ')' instead of ".toList ++ quoted t)
      | [')'] => throw "syntax error: unexpected ')'".toList
      | word => return word

end

def expr (c : Call) : Work Nat := do
  let args := if c.args.head? = some ['-', '-'] then c.args.tail else c.args
  if args.isEmpty then c.misuse "missing operand".toList 2
  else match (evaluated (16 * args.length + 16) 0 true).run { args } with
    | .error message => c.fail message 2
    | .ok (_, { args := t :: _, .. }) =>
      c.fail ("syntax error: unexpected argument ".toList ++ quoted t) 2
    | .ok (a, _) =>
      c.print (a ++ ['\n'])
      return if isNull a then 1 else 0

/-! ## The machine itself -/

def pwd (c : Call) : Work Nat := do
  if c.args.any (·.head? ≠ some '-') then c.complain "ignoring non-option arguments".toList
  c.print (Narrow.ofText (Path.ofParts true c.place) ++ ['\n'])
  return 0

/-- Write a text that does not hang on arguments. -/
def constant (t : String) (c : Call) : Work Nat := do
  match c.args.find? (·.head? ≠ some '-') with
  | some extra => c.misuse ("extra operand ".toList ++ quoted extra)
  | none =>
    c.print (t.toList ++ ['\n'])
    return 0

/-- What is known of the machine, in a fixed order. -/
def systemFacts : List (Char × String) :=
  [('s', "Linux"), ('n', "localhost"), ('r', "6.1.0"), ('v', "#1 SMP"), ('m', "x86_64"),
   ('p', "unknown"), ('i', "unknown"), ('o', "GNU/Linux")]

def uname (c : Call) : Work Nat :=
  c.withOptions
    { flags := "asnrvmpio",
      long := [("all", 'a'), ("kernel-name", 's'), ("nodename", 'n'), ("kernel-release", 'r'),
        ("kernel-version", 'v'), ("machine", 'm'), ("processor", 'p'),
        ("hardware-platform", 'i'), ("operating-system", 'o')] } 1 fun o => do
    match o.operands with
    | extra :: _ => c.misuse ("extra operand ".toList ++ quoted extra)
    | [] =>
      let isShown (k : Char) : Bool :=
        if o.has 'a' then k ≠ 'p' && k ≠ 'i' else if o.given.isEmpty then k = 's' else o.has k
      let shown := (systemFacts.filter fun (k, _) => isShown k).map fun (_, t) => t.toList
      c.print (List.intercalate [' '] shown ++ ['\n'])
      return 0

/-- The name of the terminal, if the input comes from one. It does not. -/
def tty (c : Call) : Work Nat :=
  c.withOptions { flags := "s", long := [("silent", 's'), ("quiet", 's')] } 2 fun o => do
    match o.operands with
    | extra :: _ => c.misuse ("extra operand ".toList ++ quoted extra) 2
    | [] =>
      if !o.has 's' then c.print "not a tty\n".toList
      return 1

/-- The name under which somebody came in. Nobody did. -/
def logname (c : Call) : Work Nat :=
  c.withOptions { flags := "" } 1 fun o =>
    match o.operands with
    | extra :: _ => c.misuse ("extra operand ".toList ++ quoted extra)
    | [] => c.fail "no login name".toList

/-- The time as it is asked for, at the present or another point in time. -/
def date (c : Call) : Work Nat :=
  -- A specification may follow an option directly.
  let args := c.args.map fun t =>
    if t = "--iso-8601".toList then "-Idate".toList
    else match Text.after? "--iso-8601=".toList t with
      | some spec => "-I".toList ++ spec
      | none => if t = "-I".toList then "-Idate".toList else t
  { c with args }.withOptions
    { flags := "uR", valued := "drfIsE",
      long := [("date", 'd'), ("reference", 'r'), ("utc", 'u'), ("universal", 'u'),
        ("rfc-email", 'R'), ("rfc-3339", 'E'), ("set", 's')] } 1 fun o => do
    let m ← get
    let time : Except Text Int := match o.value? 'd', o.value? 'r' with
      | some t, _ => match Calendar.read? m.clock t with
        | some time => .ok time
        | none => .error ("invalid date ".toList ++ quoted t)
      | none, some file => match m.disk.find c.place (Call.path file) with
        | .ok n => .ok n.time
        | .error fault => .error (file ++ ": ".toList ++ Call.reason fault)
      | none, none => .ok m.clock
    let standard := "%a %b %e %H:%M:%S %Z %Y"
    let form : Except Text Text := match o.operands, o.value? 'I', o.value? 'E' with
      | ('+' :: t) :: _, _, _ => .ok t
      | t :: _, _, _ => .error ("invalid date ".toList ++ quoted t)
      | [], some spec, _ => .ok (match String.ofList spec with
        | "hours" => "%Y-%m-%dT%H+00:00"
        | "minutes" => "%Y-%m-%dT%H:%M+00:00"
        | "seconds" => "%Y-%m-%dT%H:%M:%S+00:00"
        | "ns" => "%Y-%m-%dT%H:%M:%S,%N+00:00"
        | _ => "%Y-%m-%d").toList
      | [], none, some spec => .ok (match String.ofList spec with
        | "date" => "%Y-%m-%d"
        | "ns" => "%Y-%m-%d %H:%M:%S.%N+00:00"
        | _ => "%Y-%m-%d %H:%M:%S+00:00").toList
      | [], none, none =>
        .ok (if o.has 'R' then "%a, %d %b %Y %H:%M:%S +0000" else standard).toList
    match o.operands, time, form with
    | _ :: extra :: _, _, _ => c.misuse ("extra operand ".toList ++ quoted extra)
    | _, .error message, _ => c.fail message
    | _, _, .error message => c.fail message
    | _, .ok time, .ok form =>
      c.print (Calendar.write (Calendar.ofMicros time) form ++ ['\n'])
      return 0

def id (c : Call) : Work Nat := do
  match c.args.filter (·.head? ≠ some '-') with
  | [] =>
    let name := Listing.userName.toList
    let number := decimal Listing.userNumber
    let one (kind : String) : Text := kind.toList ++ ['='] ++ number ++ ['('] ++ name ++ [')']
    c.print ((if c.args.isEmpty then List.intercalate [' '] (["uid", "gid", "groups"].map one)
      else if c.args.any (·.contains 'n') then name else number) ++ ['\n'])
    return 0
  | users => Files.each users fun t => c.fail (quoted t ++ ": no such user".toList)

/-- The groups of users. -/
def groups (c : Call) : Work Nat := do
  if c.args.isEmpty then
    c.print (Listing.userName.toList ++ ['\n'])
    return 0
  else Files.each c.args fun t => c.fail (quoted t ++ ": no such user".toList)

def printenv (c : Call) : Work Nat := do
  if c.args.isEmpty then
    c.print (ofLines (c.environment.map fun (name, value) => name ++ ['='] ++ value))
    return 0
  else Files.each c.args fun name => do
    match c.environment.lookup name with
    | some value =>
      c.print (value ++ ['\n'])
      return 0
    | none => return 1

end GoRepl.Machine.Values
