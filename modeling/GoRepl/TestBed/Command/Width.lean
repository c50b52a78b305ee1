import GoRepl.TestBed.Command.Quantity

/-! # Test bed: width of lines

Lines are broken at a width, and tabs are written as blanks or blanks as tabs. -/

namespace GoRepl.Machine.Width

/-- The arguments with a letter before numbers that stand among letters right after a dash; `valued`
is the letter whose value may be the next argument. -/
def withLetter (letter valued : Char) : List Text → List Text
  | [] => []
  | ('-' :: letters) :: args =>
    let before := letters.takeWhile fun c => !Text.isDigit c && c ≠ '-' && c ≠ valued
    match letters.drop before.length, args with
    | [c], value :: args =>
      if c = valued then ('-' :: letters) :: value :: withLetter letter valued args
      else marked letters before ++ withLetter letter valued (value :: args)
    | _, args => marked letters before ++ withLetter letter valued args
  | t :: args => t :: withLetter letter valued args
where
  marked (letters before : Text) : List Text :=
    match letters.drop before.length with
    | d :: ds =>
      if Text.isDigit d then
        (if before = [] then [] else ['-' :: before]) ++ ['-' :: letter :: d :: ds]
      else ['-' :: letters]
    | [] => ['-' :: letters]

/-! ## Breaking -/

/-- The column after a character. -/
def columnAfter (bytes : Bool) (n : Nat) (c : Char) : Nat :=
  if bytes then n + 1
  else if c = '\t' then n + 8 - n % 8
  else if c = '\x08' then n - 1
  else if c = '\r' then 0
  else n + 1

/-- Break a line at a width, after blanks if that is asked for. The current row stands backwards. -/
def brokenLine (width : Nat) (bytes blanks : Bool) : (fuel : Nat) → (row : Text) →
    (column : Nat) → Text → List Text
  | 0, row, _, t => [row.reverse ++ t]
  | _, row, _, [] => [row.reverse]
  | fuel + 1, row, column, c :: t =>
    let next := columnAfter bytes column c
    if next ≤ width || row = [] then brokenLine width bytes blanks fuel (c :: row) next t
    else
      let isBlank (c : Char) : Bool := c == ' ' || c == '\t'
      let tail := if blanks then row.takeWhile (!isBlank ·) else []
      let whole := tail.length = row.length
      let kept := if whole then row else row.drop tail.length
      let carried := if whole then [] else tail
      let column := carried.reverse.foldl (columnAfter bytes) 0
      kept.reverse :: brokenLine width bytes blanks fuel carried column (c :: t)

/-- Break lines at a width. -/
def fold (c : Call) : Work Nat :=
  { c with args := withLetter 'w' 'w' c.args }.withOptions
    { flags := "bs", valued := "w", long := [("width", 'w'), ("spaces", 's'), ("bytes", 'b')] } 1
    fun o => do
      let width := ((o.value? 'w').map (Quantity.within "number of columns" 1
        (Quantity.most - 9))).getD (.ok 80)
      match width with
      | .error message => c.fail message
      | .ok width =>
        c.filter o.operands fun t =>
          ofLinesLike (isUnfinished t) ((linesOf t).flatMap fun (l : Text) =>
            brokenLine width.toNat (o.has 'b') (o.has 's') (2 * l.length + 2) [] 0 l)

/-! ## Tab stops -/

/-- The columns at which tabs stop, and how far apart stops are behind the last one of them. -/
structure Stops where
  columns : List Nat := []
  /-- Stops that are multiples of a number. -/
  extended : Option Nat := none
  /-- Stops whose distance from the last column is a multiple of a number. -/
  increment : Option Nat := none

namespace Stops

/-- What a number in a list stands for: a column, or the distance of all further stops. -/
inductive Kind where
  | column
  | extended
  | increment
deriving DecidableEq

/-- A list of tab stops that has been read in part. -/
structure Draft where
  stops : Stops := {}
  kind : Kind := .column
  digits : Text := []
  /-- What was wrong before. -/
  wrong : List Text := []

/-- Take the number that has been read into account. -/
def Draft.close (d : Draft) : Draft :=
  let n := Shell.Expression.ofDigits 10 d.digits
  let last (sign : String) : List Text :=
    ["'".toList ++ sign.toList ++ "' specifier only allowed with the last value".toList]
  if d.digits = [] then d
  else match d.kind with
    | .column =>
      { d with stops := { d.stops with columns := d.stops.columns ++ [n] }, digits := [] }
    | .extended =>
      { d with stops := { d.stops with extended := some n }, digits := []
               wrong := d.wrong ++ if d.stops.extended.isSome then last "/" else [] }
    | .increment =>
      { d with stops := { d.stops with increment := some n }, digits := []
               wrong := d.wrong ++ if d.stops.increment.isSome then last "+" else [] }

/-- Read a list of stops after what has been read. -/
def readFrom (d : Draft) : Text → Draft
  | [] => if d.wrong.isEmpty then d.close else d
  | c :: t =>
    let started (sign : String) (kind : Kind) : Draft :=
      { d with kind
               wrong := d.wrong ++ if d.digits = [] then []
                 else ["'".toList ++ sign.toList ++
                   "' specifier not at start of number: ".toList ++ Call.quoted (c :: t)] }
    if c = ',' || c = ' ' || c = '\t' then readFrom d.close t
    else if c = '/' then readFrom (started "/" .extended) t
    else if c = '+' then readFrom (started "+" .increment) t
    else if Text.isDigit c then
      let digits := d.digits ++ [c]
      if Quantity.most < Shell.Expression.ofDigits 10 digits then
        { d with wrong := d.wrong ++ ["tab stop is too large ".toList ++
          Call.quoted (digits ++ t.takeWhile Text.isDigit)] }
      else readFrom { d with digits } t
    else
      { d with wrong := d.wrong ++
        ["tab size contains invalid character(s): ".toList ++ Call.quoted (c :: t)] }

/-- What is wrong with stops that have been read. -/
def fault? (s : Stops) : Option Text :=
  if s.columns.contains 0 then some "tab size cannot be 0".toList
  else if (s.columns.zip s.columns.tail).any fun (a, b) => b ≤ a then
    some "tab sizes must be ascending".toList
  else if s.extended.isSome && s.increment.isSome then
    some "'/' specifier is mutually exclusive with '+'".toList
  else none

/-- Read lists of stops, each of which goes on with the one before. -/
def read (ts : List Text) : Except (List Text) Stops :=
  let d := ts.foldl (fun d t =>
    let d := readFrom { d with kind := .column, digits := [] } t
    { d with kind := .column, digits := [] }) ({} : Draft)
  if !d.wrong.isEmpty then throw d.wrong
  else match d.stops.fault? with
    | some message => throw [message]
    | none => return d.stops

/-- The column of the next tab stop, if there is one. -/
def next? (s : Stops) (column : Nat) : Option Nat :=
  let multiple (width from_ : Nat) : Option Nat :=
    some (column + (max 1 width - (column - from_) % max 1 width))
  let width? : Option Nat := match s.columns with
    | [] => some ((s.extended <|> s.increment).getD 8)
    | [width] => if s.extended.isNone && s.increment.isNone then some width else none
    | _ => none
  match width? with
  | some width => multiple width 0
  | none =>
    match s.columns.find? (column < ·) with
    | some stop => some stop
    | none =>
      match s.extended, s.increment with
      | some width, _ => multiple width 0
      | none, some width => multiple width (s.columns.getLast?.getD 0)
      | none, none => none

end Stops

/-- The options that name tab stops, and the complaints about them. -/
def withStops (c : Call) (letter : Char) (rules : OptionRules)
    (go : Options → Stops → Work Nat) : Work Nat :=
  let c := { c with args := withLetter letter 't' c.args }
  c.withOptions rules 1 fun o => do
    let lists := (o.given.filter fun (k, _) => k = 't' || k = letter).map Prod.snd
    match Stops.read lists with
    | .ok s => go o s
    | .error messages =>
      for message in messages do
        c.complain message
      return 1

/-- A line with spaces up to the next stop in place of each tab. -/
def expanded (stops : Stops) (initial : Bool) (l : Text) : Text :=
  (l.foldl (fun ((done, n, going) : Text × Nat × Bool) ch =>
    if !going then (ch :: done, n, going)
    else if ch = '\t' then
      let k := ((stops.next? n).getD (n + 1)) - n
      (List.replicate k ' ' ++ done, n + k, going)
    else if ch = '\x08' then (ch :: done, n - 1, !initial)
    else (ch :: done, n + 1, !initial || ch = ' ')) ([], 0, true)).1.reverse

def expand (c : Call) : Work Nat :=
  withStops c 't' { flags := "i", valued := "t", long := [("tabs", 't'), ("initial", 'i')] }
    fun o stops =>
      c.filter o.operands fun t =>
        ofLinesLike (isUnfinished t) ((linesOf t).map (expanded stops (o.has 'i')))

/-- What is known within a line whose blanks are written as tabs. -/
structure Gathering where
  column : Nat := 0
  /-- Are blanks still written as tabs? -/
  active : Bool := true
  /-- The blanks that wait for what comes next, backwards. -/
  waiting : Text := []
  /-- Is the first blank that waits one right before a stop? -/
  single : Bool := false
  /-- Does a blank go before? -/
  afterBlank : Bool := false

/-- The blanks that wait as they are written. -/
def Gathering.held (g : Gathering) : Text :=
  match g.waiting.reverse with
  | [] => []
  | c :: rest => (if rest ≠ [] && g.single then '\t' else c) :: rest

/-- A line with tabs in place of blanks that lead to a stop. -/
def unexpanded (stops : Stops) (all : Bool) : Gathering → Text → Text
  | g, [] => g.held
  | g, c :: t =>
    let isBlank := c = ' ' || c = '\t'
    let after (g : Gathering) : Gathering :=
      { g with waiting := [], single := false, afterBlank := isBlank, active := all || isBlank }
    if !g.active then c :: unexpanded stops all g t
    else if isBlank then
      match stops.next? g.column with
      | none =>
        g.held ++ c :: unexpanded stops all { after g with active := false } t
      | some next =>
        let atStop := g.column + 1 = next
        if c = ' ' && !(g.afterBlank && atStop) then
          unexpanded stops all { g with column := g.column + 1, afterBlank := true
                                        waiting := c :: g.waiting
                                        single := g.single || atStop } t
        else
          -- The blanks that wait are part of the tab, except for one right before another stop.
          let kept : Text := if g.single then ['\t'] else []
          kept ++ '\t' :: unexpanded stops all
            (after { g with column := if c = '\t' then next else g.column + 1 }) t
    else
      let column := if c = '\x08' then g.column - 1 else g.column + 1
      g.held ++ c :: unexpanded stops all (after { g with column }) t

def unexpand (c : Call) : Work Nat :=
  withStops c '#' { flags := "af", valued := "t#",
                    long := [("all", 'a'), ("tabs", 't'), ("first-only", 'f')] } fun o stops =>
    let all := (o.has 'a' || o.has 't') && !o.has 'f'
    c.filter o.operands fun t =>
      ofLinesLike (isUnfinished t) ((linesOf t).map (unexpanded stops all {}))

end GoRepl.Machine.Width
