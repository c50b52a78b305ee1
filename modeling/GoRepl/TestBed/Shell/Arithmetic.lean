import GoRepl.Decimal
import GoRepl.TestBed.Shell.Basic

/-! # Test bed: arithmetic

Expressions over whole numbers of 64 bits, with the variables of a shell. -/

namespace GoRepl.Machine.Shell

inductive Expression where
  | number (n : Int)
  /-- A variable, or an element of one. -/
  | variable (name : Text) (index : Option Text)
  | assign (name : Text) (index : Option Text) (op : Text) (value : Expression)
  /-- A variable that goes up or down by one; its value is taken before or after. -/
  | bump (name : Text) (index : Option Text) (by' : Int) (after : Bool)
  | unary (op : Char) (e : Expression)
  /-- Two operands; `rest` is the text from the second one on. -/
  | binary (op : Text) (left right : Expression) (rest : Text)
  | choice (condition yes no : Expression)

namespace Expression

/-- Why an expression has no value. -/
inductive Fault where
  /-- What was expected, and the text from the place where that was noticed. -/
  | expected (what : String) (found : Text)
  | leftOver (found : Text)
  /-- What follows an operand begins no operator. -/
  | notOperator (found : Text)
  | divisionByZero (found : Text)
  | negativeExponent (found : Text)
  | notVariable (found : Text)
  | notNumeric (t : Text)
  | badDigit (t : Text) (bigBase : Bool)
  | unset (name : Text)
  | tooDeep
  /-- The fault is in the text of a variable or of an index. -/
  | nested (t : Text) (fault : Fault)
deriving Repr

/-- What the plain shell says about the expression `t`. -/
def Fault.plainMessage (t : Text) : Fault → Text
  | .notNumeric v => "Illegal number: ".toList ++ v
  | .unset name => name ++ ": parameter not set".toList
  | .expected what _ => about ("expecting " ++ what)
  | .nested t fault => fault.plainMessage t
  | .divisionByZero _ => about "division by zero"
  | _ => about "expecting EOF"
where
  about (message : String) : Text :=
    "arithmetic expression: ".toList ++ message.toList ++ ": \"".toList ++ t ++ ['"']

/-- What the extended shell says about the expression `t`. -/
def Fault.extendedMessage (t : Text) : Fault → Text
  | .expected what found => about "" (if what = "':'" then "`:' expected for conditional expression"
      else if what = "')'" then "missing `)'"
      else if what = "expression" then "expression expected"
      else "syntax error: operand expected") found
  | .leftOver found => about "" "syntax error in expression" found
  | .notOperator found => about "" "syntax error: invalid arithmetic operator" found
  | .divisionByZero found => about "" "division by 0" found
  | .negativeExponent found => about "" "exponent less than 0" found
  | .notVariable found => about "" "attempted assignment to non-variable" found
  | .notNumeric v => about "" "syntax error: operand expected" v
  | .badDigit v big => about (String.ofList v)
      (if big then "invalid arithmetic base" else "value too great for base") v
  | .unset name => name ++ ": unbound variable".toList
  | .tooDeep => about "" "expression recursion level exceeded" t
  | .nested t fault => fault.extendedMessage t
where
  about (start message : String) (token : Text) : Text :=
    let t := t.dropWhile fun c => c = ' ' || c = '\t' || c = '\n'
    let shown := match cutAfter start.toList t t.length with
      | some shown => shown
      | none => t
    shown ++ ": ".toList ++ message.toList ++ " (error token is \"".toList ++ token ++ ['"', ')']
  /-- The text up to the end of a piece of it. -/
  cutAfter (piece : Text) : Text → (fuel : Nat) → Option Text
    | _, 0 => none
    | [], _ => none
    | c :: t, fuel + 1 =>
      if piece = [] then none
      else if piece.isPrefixOf (c :: t) then some piece
      else (cutAfter piece t fuel).map (c :: ·)

/-- The number of 64 bits that stands for a whole number. -/
def wrap (n : Int) : Int := (n + Nat.pow 2 63) % Nat.pow 2 64 - Nat.pow 2 63

def digit? (base : Nat) (c : Char) : Option Nat :=
  let n := if Text.isDigit c then c.toNat - '0'.toNat
    else if 'a' ≤ c && c ≤ 'z' then c.toNat - 'a'.toNat + 10
    else if 'A' ≤ c && c ≤ 'Z' then c.toNat - 'A'.toNat + if base ≤ 36 then 10 else 36
    else if c = '@' then 62
    else if c = '_' then 63
    else base
  if n < base then some n else none

def ofDigits (base : Nat) (t : Text) : Nat :=
  t.foldl (fun n c => n * base + (digit? base c).getD 0) 0

/-- The numeral at the start of a text: decimal, octal after a zero, hexadecimal after `0x`. -/
def numeral? (t : Text) : Option (Int × Text) :=
  let take (base : Nat) (t : Text) : Int × Text :=
    let isDigit (c : Char) : Bool := (digit? base c).isSome
    (min (ofDigits base (t.takeWhile isDigit)) (Nat.pow 2 63 - 1), t.dropWhile isDigit)
  match t with
  | '0' :: 'x' :: t | '0' :: 'X' :: t => some (take 16 t)
  | '0' :: _ => some (take 8 t)
  | c :: _ => if Text.isDigit c then some (take 10 t) else none
  | [] => none

def blank (t : Text) : Text := t.dropWhile fun c => c == ' ' || c == '\t' || c == '\n'

/-- The binary operators with their strength, longest first. -/
def operators : List (String × Nat) :=
  [("||", 1), ("&&", 2), ("**", 11), ("==", 6), ("!=", 6), ("<<", 8), (">>", 8), ("<=", 7),
    (">=", 7),
    ("|", 3), ("^", 4), ("&", 5), ("<", 7), (">", 7), ("+", 9), ("-", 9), ("*", 10), ("/", 10),
    ("%", 10)]

def assignments : List String :=
  ["<<=", ">>=", "+=", "-=", "*=", "/=", "%=", "&=", "|=", "^=", "="]

/-- The operator at the start of a text, unless it belongs to an assignment. -/
def operator? (extended : Bool) (t : Text) : Option (Text × Nat × Text) :=
  operators.findSome? fun (op, strength) =>
    match if op = "**" && !extended then none else Text.after? op.toList t with
    | some ('=' :: rest) =>
      if "== != <= >= || &&".splitOn.contains op then some (op.toList, strength, '=' :: rest)
      else none
    | some rest => some (op.toList, strength, rest)
    | none => none

/-- The assignment sign at the start of a text. -/
def assignment? (t : Text) : Option (Text × Text) :=
  if "==".toList.isPrefixOf t then none
  else assignments.findSome? fun op => (Text.after? op.toList t).map (op.toList.dropLast, ·)

/-- What is left of an expression, and the text from the latest token on. -/
structure Cursor where
  rest : Text
  last : Text

abbrev Reading := StateT Cursor (Except Fault)

/-- A fault that only an expression beyond all measure has. -/
def endless {α : Type} : Reading α := throw .tooDeep

/-- Pass over blanks, and note that a token begins here unless the text ends. -/
def settle : Reading Text := do
  let t := blank (← get).rest
  modify fun c => ⟨t, if t = [] then c.last else t⟩
  return t

def goTo (t : Text) : Reading Unit := modify ({ · with rest := t })

/-- The text in brackets, whose opening one has been read, and what follows it. -/
def index? : (depth : Nat) → Text → Option (Text × Text)
  | _, [] => none
  | depth, c :: t =>
    if c = ']' then
      match depth with
      | 0 => some ([], t)
      | depth + 1 => (index? depth t).map fun (a, b) => (c :: a, b)
    else (index? (if c = '[' then depth + 1 else depth) t).map fun (a, b) => (c :: a, b)

/-- The variable that stands here, with its index. -/
def bound? (extended : Bool) (t : Text) : Option ((Text × Option Text) × Text) :=
  let name := t.takeWhile isNameChar
  if !isName name then none
  else match t.drop name.length with
    | '[' :: rest =>
      if extended then (index? 0 rest).map fun (i, rest) => ((name, some i), rest)
      else some ((name, none), '[' :: rest)
    | rest => some ((name, none), rest)

/-- A numeral in the extended form, which may have its base before it. -/
def extendedNumeral? (t : Text) : Option (Except Fault (Int × Text)) :=
  let run := t.takeWhile fun c => isNameChar c || c = '#' || c = '@'
  let rest := t.drop run.length
  let digits (base : Nat) (ds : Text) : Except Fault (Int × Text) :=
    if ds = [] || ds.any fun c => (digit? base c).isNone then throw (.badDigit run false)
    else return (wrap (ofDigits base ds), rest)
  match run with
  | [] => none
  | c :: _ =>
    if !Text.isDigit c then none
    else some <| match Text.cutAt? '#' run with
      | some (base, ds) =>
        let n := ofDigits 10 base
        if n < 2 || 64 < n then throw (.badDigit run true) else digits n ds
      | none => match run with
        | '0' :: 'x' :: ds | '0' :: 'X' :: ds => digits 16 ds
        | '0' :: ds => if ds = [] then return (0, rest) else digits 8 ds
        | ds => digits 10 ds

mutual

/-- A whole expression. -/
def full (extended : Bool) : (fuel : Nat) → Reading Expression
  | 0 => endless
  | fuel + 1 => do
    let t ← settle
    match (bound? extended t).bind fun (v, rest) => (assignment? (blank rest)).map (v, ·) with
    | some ((name, index), op, rest) =>
      modify fun _ => ⟨rest, blank (t.drop name.length)⟩
      return .assign name index op (← full extended fuel)
    | none =>
      let condition ← above extended fuel 0
      match ← settle with
      | '?' :: rest =>
        goTo rest
        missing (some ':')
        let yes ← commas extended fuel
        match ← settle with
        | ':' :: rest =>
          goTo rest
          missing none
          return .choice condition yes (← full extended fuel)
        | _ => throw (.expected "':'" (← get).last)
      | t =>
        if extended && (assignment? t).isSome then throw (.notVariable t)
        else return condition
where
  /-- Something must follow in the extended form, and not this character. -/
  missing (other : Option Char) : Reading Unit := do
    let t ← settle
    if extended && (t = [] || (other.isSome && t.head? = other)) then
      throw (.expected "expression" (← get).last)

/-- Expressions with commas between them. The last one gives the value. -/
def commas (extended : Bool) : (fuel : Nat) → Reading Expression
  | 0 => endless
  | fuel + 1 => do
    let left ← full extended fuel
    match ← settle with
    | ',' :: rest =>
      if extended then
        goTo rest
        return .binary [','] left (← commas extended fuel) []
      else return left
    | _ => return left

/-- An expression all of whose operators are stronger than a given strength. -/
def above (extended : Bool) : (fuel : Nat) → (strength : Nat) → Reading Expression
  | 0, _ => endless
  | fuel + 1, strength => do
    let left ← primary extended fuel
    more extended fuel strength left

/-- The operators that follow an expression. -/
def more (extended : Bool) : (fuel : Nat) → (strength : Nat) → (left : Expression) →
    Reading Expression
  | 0, _, _ => endless
  | fuel + 1, strength, left => do
    let before ← get
    let t ← settle
    match operator? extended t with
    | some (op, s, rest) =>
      if s ≤ strength then return left
      else
        goTo rest
        -- Powers are taken from the right.
        let right ← above extended fuel (if s = 11 then 10 else s)
        let after ← get
        let found := if s = 11 then after.last else blank rest
        more extended fuel strength (.binary op left right found)
    | none =>
      if extended && t.head?.any (!mayFollow ·) then
        throw (if before.last.head? = some ')' then .expected "primary" t else .notOperator t)
      else return left
where
  /-- Is a character known in expressions? -/
  mayFollow (c : Char) : Bool := isNameChar c || "=<>+-*/%&|^!~()?:,".toList.contains c

def primary (extended : Bool) : (fuel : Nat) → Reading Expression
  | 0 => endless
  | fuel + 1 => do
    let t ← settle
    match t with
    | '(' :: rest =>
      goTo rest
      let e ← commas extended fuel
      match ← settle with
      | ')' :: rest =>
        goTo rest
        return e
      | _ => throw (.expected "')'" (← get).last)
    | c :: d :: rest =>
      let bumped := if extended && (c == '+' || c == '-') && c = d then
          bound? true (blank rest)
        else none
      match bumped with
      | some ((name, index), rest) =>
        goTo rest
        return .bump name index (if c == '+' then 1 else -1) true
      | none =>
        if c == '!' || c == '~' || c == '-' || c == '+' then
          goTo (d :: rest)
          return .unary c (← primary extended fuel)
        else atom extended t
    | t => atom extended t
where
  atom (extended : Bool) (t : Text) : Reading Expression := do
    match if extended then extendedNumeral? t else (numeral? t).map .ok with
    | some (.ok (n, rest)) =>
      goTo rest
      return .number n
    | some (.error fault) => throw fault
    | none =>
      match bound? extended t with
      | none => throw (.expected "primary" (← get).last)
      | some ((name, index), rest) =>
        match extended, rest with
        | true, '+' :: '+' :: rest =>
          goTo rest
          return .bump name index 1 false
        | true, '-' :: '-' :: rest =>
          goTo rest
          return .bump name index (-1) false
        | _, rest =>
          goTo rest
          return .variable name index

end

/-- Read an expression. An empty one is zero. -/
def read (extended : Bool) (t : Text) : Except Fault Expression := do
  if blank t = [] then return .number 0
  let (e, c) ← (commas extended (4 * t.length + 8)).run ⟨t, t⟩
  if blank c.rest = [] then return e
  else
    let badDigits := !extended && c.rest.head?.any Text.isDigit
    let run := (blank t).takeWhile isNameChar
    throw (if badDigits then .badDigit run false else .leftOver (blank c.rest))

/-- The number that a text stands for, if it does. -/
def number? (t : Text) : Option Int :=
  let t := blank t
  let (negative, digits) := match t with
    | '-' :: t => (true, t)
    | '+' :: t => (false, t)
    | t => (false, t)
  if t = [] then some 0
  else match numeral? digits with
    | some (n, rest) => if blank rest = [] then some (if negative then -n else n) else none
    | none => none

def shown (n : Int) : Text :=
  match n with
  | .ofNat n => decimal n
  | .negSucc n => '-' :: decimal (n + 1)

def ofBool (b : Bool) : Int := if b then 1 else 0

/-- A power within 64 bits. -/
def power (a : Int) : Nat → Int
  | 0 => 1
  | n + 1 =>
    let half := power a ((n + 1) / 2)
    let square := wrap (half * half)
    if (n + 1) % 2 = 0 then square else wrap (square * a)
decreasing_by omega

/-- The value of a binary operator on numbers; `rest` is told if there is none. -/
def apply (op : Text) (a b : Int) (rest : Text) : Except Fault Int :=
  let bits (f : Nat → Nat → Nat) : Int :=
    wrap (f (a % Nat.pow 2 64).toNat (b % Nat.pow 2 64).toNat)
  match String.ofList op with
  | "+" => return wrap (a + b)
  | "-" => return wrap (a - b)
  | "**" =>
    if b < 0 then throw (.negativeExponent rest) else return power a b.toNat
  | "*" => return wrap (a * b)
  | "/" => if b = 0 then throw (.divisionByZero rest) else return wrap (a.tdiv b)
  | "%" => if b = 0 then throw (.divisionByZero rest) else return wrap (a.tmod b)
  | "<<" => return wrap (a * Nat.pow 2 (b % 64).toNat)
  | ">>" => return a.shiftRight (b % 64).toNat
  | "<" => return ofBool (a < b)
  | ">" => return ofBool (a > b)
  | "<=" => return ofBool (a ≤ b)
  | ">=" => return ofBool (a ≥ b)
  | "==" => return ofBool (a = b)
  | "!=" => return ofBool (a ≠ b)
  | "&" => return bits Nat.land
  | "|" => return bits Nat.lor
  | "^" => return bits Nat.xor
  | _ => return b

/-- A variable or an element of one. -/
abbrev Spot := Text × Option Text

/-- What an expression sees of the variables of a shell. -/
structure View where
  extended : Bool
  /-- Are the elements of a variable found by texts? -/
  isTable : Text → Bool
  value? : Spot → Option Text
  /-- Must variables be set? -/
  strict : Bool := false

/-- The new values of variables, latest first. -/
abbrev Changes := List (Spot × Text)

abbrev Evaluation := StateT Changes (Except Fault)

/-- Let a fault tell the text in which it is found. -/
def nested {α : Type} (t : Text) (e : Evaluation α) : Evaluation α :=
  tryCatch e fun fault => match fault with
    | .nested t fault => throw (.nested t fault)
    | fault => throw (.nested t fault)

mutual

/-- The value of an expression. -/
def eval (v : View) : (depth : Nat) → Expression → Evaluation Int
  | 0, _ => throw .tooDeep
  | depth + 1, e => do
    match e with
    | .number n => return n
    | .variable name index => current v depth (← spot v depth name index)
    | .assign name index op e =>
      let n ← eval v depth e
      let s ← spot v depth name index
      let n ← if op = [] then pure n
        else do apply op (← current v depth s) n []
      modify ((s, shown n) :: ·)
      return n
    | .bump name index n after =>
      let s ← spot v depth name index
      let old ← current v depth s
      modify ((s, shown (wrap (old + n))) :: ·)
      return if after then wrap (old + n) else old
    | .unary op e =>
      let n ← eval v depth e
      return match op with
        | '-' => wrap (-n)
        | '~' => -n - 1
        | '!' => ofBool (n = 0)
        | _ => n
    | .binary op a b rest =>
      let m ← eval v depth a
      if op = "&&".toList then
        if m = 0 then return 0 else return ofBool ((← eval v depth b) ≠ 0)
      else if op = "||".toList then
        if m ≠ 0 then return 1 else return ofBool ((← eval v depth b) ≠ 0)
      else apply op m (← eval v depth b) rest
    | .choice condition yes no =>
      if (← eval v depth condition) ≠ 0 then eval v depth yes else eval v depth no

/-- The element that an index leads to. -/
def spot (v : View) : (depth : Nat) → (name : Text) → (index : Option Text) → Evaluation Spot
  | 0, _, _ => throw .tooDeep
  | depth + 1, name, index => do
    match index with
    | none => return (name, none)
    | some i =>
      if v.isTable name then return (name, some i)
      else
        let n ← nested i (text v depth i)
        return (name, if n = 0 then none else some (shown n))

/-- The number that a variable stands for. In the extended form its text is an expression. -/
def current (v : View) : (depth : Nat) → Spot → Evaluation Int
  | 0, _ => throw .tooDeep
  | depth + 1, s => do
    match (← get).lookup s <|> v.value? s with
    | none => if v.strict then throw (.unset s.1) else return 0
    | some t =>
      match if v.extended && (blank t).head? = some '0' then none else number? t with
      | some n => return n
      | none => if v.extended then nested t (text v depth t) else throw (.notNumeric t)

/-- The value of a text as an expression. -/
def text (v : View) : (depth : Nat) → Text → Evaluation Int
  | 0, _ => throw .tooDeep
  | depth + 1, t => do eval v depth (← read v.extended t)

end

/-- The value of a text as an expression, and the new values of variables, oldest first. -/
def evaluate (v : View) (t : Text) : Except Fault (Int × Changes) := do
  let (n, changes) ← (text v 2000 t).run []
  return (n, changes.reverse)

end Expression
end GoRepl.Machine.Shell
