import GoRepl.TestBed.Command.Quantity
import GoRepl.TestBed.Command.Scalar

/-! # Test bed: ends of texts

The commands that show the first or the last lines of files. -/

namespace GoRepl.Machine.Ends

/-! ## Amounts -/

/-- How much of a text is asked for. -/
structure Amount where
  bytes : Bool := false
  size : Nat := 10
  /-- Is the amount counted from the other end? -/
  other : Bool := false

/-- When a header stands before what is shown of a file. -/
inductive Headers where
  | ofSeveral
  | always
  | never
deriving DecidableEq

/-- What a command is asked for. -/
structure Request where
  amount : Amount := {}
  headers : Headers := .ofSeveral
  ending : Char := '\n'
  /-- Are files watched for what is added to them? -/
  follows : Bool := false
  /-- Are files watched by their names? -/
  byName : Bool := false
  retries : Bool := false
  process : Option Text := none

/-- A fault in the arguments; does it end with a hint? -/
structure Misuse where
  message : Text
  hints : Bool := false

def Request.isHeaded (r : Request) (files : List Text) : Bool :=
  r.headers = .always || (r.headers = .ofSeveral && files.length > 1)

def kindOf (bytes : Bool) : String := if bytes then "bytes" else "lines"

/-- Take an option that both commands know into account. -/
def Request.addCommon (r : Request) : Char → Request
  | 'q' => { r with headers := .never }
  | 'v' => { r with headers := .always }
  | 'z' => { r with ending := '\x00' }
  | _ => r

/-! ## Parts of texts -/

/-- The records of a text with their endings. -/
def recordsOf (ending : Char) (t : Text) : List Text :=
  let parts := t.splitOn ending
  parts.dropLast.map (· ++ [ending]) ++ (parts.getLast?.filter (· ≠ [])).toList

/-- The first part of a flow. -/
def headOf (r : Request) (f : Flow) : Text :=
  let a := r.amount
  if a.other then
    if a.bytes then f.text.take (f.text.length - a.size)
    else
      let records := recordsOf r.ending f.text
      (records.take (records.length - a.size)).flatten
  else if a.bytes then f.take a.size
  else if r.ending = '\n' then f.takeLines a.size
  else ((recordsOf r.ending f.text).take a.size).flatten

/-- The last part of a text. -/
def tailOf (r : Request) (t : Text) : Text :=
  let a := r.amount
  if a.bytes then t.drop (if a.other then a.size - 1 else t.length - a.size)
  else
    let records := recordsOf r.ending t
    (records.drop (if a.other then a.size - 1 else records.length - a.size)).flatten

/-- Show a part of each file, under a header if that is asked for. -/
def showParts (c : Call) (r : Request) (files : List Text) (part : Text → Flow → Work Unit) :
    Work Nat := do
  let (_, status) ← files.foldlM (fun ((first, status) : Bool × Nat) file => do
    let header : Text := if r.isHeaded files then
        (if first then [] else ['\n']) ++ "==> ".toList ++
          (if file = ['-'] then "standard input".toList else file) ++ " <==\n".toList
      else []
    match ← c.contents file with
    | .ok f =>
      c.print header
      part file f
      return (false, status)
    | .error .isDirectory =>
      c.print header
      c.complain ("error reading ".toList ++ Call.quotedName file ++ ": Is a directory".toList)
      return (false, 1)
    | .error fault =>
      c.complain ("cannot open ".toList ++ Call.quotedName file ++ " for reading: ".toList ++
        Call.reason fault)
      return (first, 1)) (true, 0)
  return status

/-! ## First parts -/

/-- The amount that is left out or shown of the first part. -/
def headAmount (bytes : Bool) (t : Text) : Except Misuse Amount :=
  let (other, t) := match t with
    | '-' :: t => (true, t)
    | t => (false, t)
  match Quantity.orComplaint (kindOf bytes) t with
  | .ok size => return ⟨bytes, size, other⟩
  | .error message => throw ⟨message, false⟩

/-- Letters after a number that stands right after a dash. -/
def headLetters (r : Request) (digits unit : Text) : Text → Except Misuse Request
  | [] => do return { r with amount := ← headAmount r.amount.bytes (digits ++ unit) }
  | c :: t =>
    let counting (bytes : Bool) : Request := { r with amount := { bytes } }
    match c with
    | 'c' => headLetters (counting true) digits [] t
    | 'b' | 'k' | 'm' => headLetters (counting true) digits [c] t
    | 'l' => headLetters (counting false) digits unit t
    | 'q' | 'v' | 'z' => headLetters (r.addCommon c) digits unit t
    | c => throw ⟨"invalid trailing option -- ".toList ++ [c], true⟩

/-- A number right after a dash in the first argument, and the other arguments. -/
def headStart (args : List Text) : Except Misuse (Request × List Text) :=
  match args with
  | ('-' :: d :: t) :: rest =>
    if Text.isDigit d then do
      let digits := (d :: t).takeWhile Text.isDigit
      return (← headLetters {} digits [] ((d :: t).drop digits.length), rest)
    else return ({}, args)
  | args => return ({}, args)

def headRules : OptionRules where
  flags := "qvz0123456789"
  valued := "nc"
  long := [("lines", 'n'), ("bytes", 'c'), ("quiet", 'q'), ("silent", 'q'), ("verbose", 'v'),
    ("zero-terminated", 'z')]

/-- Take an option of `head` into account. -/
def addHead (r : Request) : Char × Text → Except Misuse Request
  | ('n', t) => do return { r with amount := ← headAmount false t }
  | ('c', t) => do return { r with amount := ← headAmount true t }
  | (c, _) =>
    if Text.isDigit c then throw ⟨"invalid trailing option -- ".toList ++ [c], true⟩
    else return r.addCommon c

/-- Complain about the arguments. -/
def refuse (c : Call) (m : Misuse) : Work Nat := if m.hints then c.misuse m.message
  else c.fail m.message

def head (c : Call) : Work Nat :=
  match headStart c.args with
  | .error m => refuse c m
  | .ok (r, args) =>
    { c with args }.withOptions headRules 1 fun o =>
      match o.given.foldlM addHead r with
      | .error m => refuse c m
      | .ok r =>
        showParts c r (if o.operands.isEmpty then [['-']] else o.operands) fun file f => do
          if r.amount.other && f.isEndless then spin
          let shown := headOf r f
          c.print shown
          -- A file that others read too is left where the part ends.
          if let (['-'], some id) := (file, c.stream? 0) then
            if let .file .. ← stream id then giveBack id (f.text.drop shown.length)

/-! ## Last parts -/

/-- The request that the first argument makes if it is a number after a sign, with at most one file
after it. -/
def tailStart? (args : List Text) : Option (Request × List Text) := do
  let first :: rest := args | none
  let isAlone : Bool := match rest with
    | [] => true
    | ['-', '-'] :: files => files.length ≤ 1
    | [file] => file = ['-'] || file.head? ≠ some '-'
    | _ => false
  let sign :: t := first | none
  if !isAlone || !(sign = '+' || sign = '-') then none
  else if sign = '-' && (t = [] || t = ['c']) then none
  else
    let digits := t.takeWhile Text.isDigit
    let unit := t.drop digits.length
    let (kind, after) := match unit with
      | 'b' :: after => ('b', after)
      | 'c' :: after => ('c', after)
      | 'l' :: after => ('l', after)
      | after => ('l', after)
    let (follows, after) := match after with
      | 'f' :: after => (true, after)
      | after => (false, after)
    if after ≠ [] then none
    else
      let scale := if kind = 'b' then 512 else 1
      let size := if digits = [] then 10 else Shell.Expression.ofDigits 10 digits
      some ({ amount := ⟨kind ≠ 'l', size * scale, sign = '+'⟩, follows }, rest)

/-- The amount that is asked for of the last part; from where it counts may have been said
before. -/
def tailAmount (before : Amount) (bytes : Bool) (t : Text) : Except Misuse Amount :=
  let size := match t with
    | '-' :: t => Quantity.orComplaint (kindOf bytes) t
    | t => Quantity.orComplaint (kindOf bytes) t
  match size with
  | .ok size => return ⟨bytes, size, before.other || t.head? = some '+'⟩
  | .error message => throw ⟨message, false⟩

def tailRules : OptionRules where
  flags := "qvzfF0123456789R"
  valued := "ncsPM"
  optional := "f"
  long := [("lines", 'n'), ("bytes", 'c'), ("quiet", 'q'), ("silent", 'q'), ("verbose", 'v'),
    ("zero-terminated", 'z'), ("follow", 'f'), ("retry", 'R'), ("pid", 'P'),
    ("sleep-interval", 's'), ("max-unchanged-stats", 'M')]

def followWords : Call.Choices Bool := [(["descriptor"], false), (["name"], true)]

/-- Take an option of `tail` into account. -/
def addTail (r : Request) : Char × Text → Except Misuse Request
  | ('n', t) => do return { r with amount := ← tailAmount r.amount false t }
  | ('c', t) => do return { r with amount := ← tailAmount r.amount true t }
  | ('f', t) =>
    if t = [] then return { r with follows := true }
    else match Call.choose "--follow" followWords t with
      | .ok byName => return { r with follows := true, byName }
      | .error message => throw ⟨message, true⟩
  | ('F', _) => return { r with follows := true, byName := true, retries := true }
  | ('R', _) => return { r with retries := true }
  | ('P', t) =>
    if (natural? t).isSome then return { r with process := some t }
    else throw ⟨"invalid PID: ".toList ++ Call.quoted t, false⟩
  | ('s', t) =>
    match realNumber t with
    | (false, _, []) =>
      if t = [] then throw ⟨"invalid number of seconds: ''".toList, false⟩ else return r
    | _ => throw ⟨"invalid number of seconds: ".toList ++ Call.quoted t, false⟩
  | ('M', t) =>
    if (natural? t).isSome then return r
    else throw ⟨"invalid maximum number of unchanged stats between opens: ".toList ++
      Call.quoted t, false⟩
  | (c, _) =>
    if Text.isDigit c then throw ⟨"option used in invalid context -- ".toList ++ [c], false⟩
    else return r.addCommon c

def tail (c : Call) : Work Nat := do
  let (r, args) := (tailStart? c.args).getD ({}, c.args)
  { c with args }.withOptions tailRules 1 fun o =>
    match o.given.foldlM addTail r with
    | .error m => refuse c m
    | .ok r => do
      if r.retries && !r.follows then
        c.complain "warning: --retry ignored; --retry is useful only when following".toList
      else if r.retries && !r.byName then
        c.complain "warning: --retry only effective for the initial open".toList
      if r.process.isSome && !r.follows then
        c.complain "warning: PID ignored; --pid=PID is useful only when following".toList
      let files := if o.operands.isEmpty then [['-']] else o.operands
      if r.byName && files.contains ['-'] then
        c.fail "cannot follow '-' by name".toList
      else if r.amount.size = 0 && !r.amount.other && !r.follows then return 0
      else
        let status ← showParts c r files fun _ f => do
          if f.isEndless then spin
          c.print (tailOf r f.text)
        let d := (← get).disk
        let isThere (file : Text) : Bool :=
          file = ['-'] || (c.device? file).isSome || d.exists? c.place (Call.path file)
        if r.follows && !r.retries && !files.any isThere then
          c.fail "no files remaining".toList
        else
          -- Whoever follows a file waits for ever.
          if r.follows then spin
          return status

end GoRepl.Machine.Ends
