import GoRepl.TestBed.Command.Order
import GoRepl.TestBed.Command.Quantity

/-! # Test bed: two sorted files

Lines of two sorted files are brought together, either whole lines or lines that have a field in
common. Files that are not sorted after all are found out while they are read. -/

namespace GoRepl.Machine.Sorted

open Call (reason quoted)
open GoRepl.Machine.Order (records compareTexts)

/-! ## What is found out while files are read -/

/-- When it is checked whether files are sorted. -/
inductive Check where
  | never
  /-- As soon as there is a line without a partner. -/
  | ifNeeded
  | always
deriving DecidableEq

/-- What is told while files are read. -/
inductive Told where
  | line (t : Text)
  /-- A line of a file is out of order. -/
  | complaint (first : Bool) (t : Text)

/-- What has been told, backwards, and what has been found out. -/
structure Report where
  told : List Told := []
  /-- Was there a line without a partner? -/
  unpaired : Bool := false
  /-- Was the work given up? -/
  stopped : Bool := false

namespace Report

def write (r : Report) (line : Text) : Report :=
  if r.stopped then r else { r with told := .line line :: r.told }

def hasComplaint (r : Report) (first : Bool) : Bool :=
  r.told.any fun
    | .complaint f _ => f = first
    | .line _ => false

/-- Complain about a line that has been read, unless it is in order. Of each file one line is
complained of. -/
def check (r : Report) (when_ : Check) (first : Bool) (isOrdered : Bool) (complaint : Text) :
    Report :=
  let isChecked := when_ = .always || (when_ = .ifNeeded && r.unpaired)
  if r.stopped || !isChecked || isOrdered || r.hasComplaint first then r
  else { r with told := .complaint first complaint :: r.told, stopped := when_ = .always }

/-- Tell all, and how the work came to its end. -/
def finish (r : Report) (c : Call) (ending : Char) (last : Text) : Work Nat := do
  for told in r.told.reverse do
    match told with
    | .line t => c.print (t ++ [ending])
    | .complaint _ t => c.complain t
  if r.stopped then return 1
  else
    c.print last
    if r.hasComplaint true || r.hasComplaint false then
      c.fail "input is not in sorted order".toList
    else return 0

end Report

/-- When files are checked, as options with the letters `C` and `N` ask for. -/
def checkOf (o : Options) : Check :=
  match o.given.reverse.find? fun (k, _) => k = 'C' || k = 'N' with
  | some ('C', _) => .always
  | some _ => .never
  | none => .ifNeeded

/-- The records of two files, unless one of them cannot be read. -/
def readBoth (c : Call) (ending : Char) (a b : Text) (unreadable : Fault → Text → Text) :
    Work (Except Text (List Text × List Text)) := do
  match ← c.contents a, ← c.contents b with
  | .ok f, .ok g =>
    if f.isEndless || g.isEndless then spin
    return .ok (records ending f.text, records ending g.text)
  | .error fault, _ => return .error (unreadable fault (Call.shownName a))
  | _, .error fault => return .error (unreadable fault (Call.shownName b))

/-- The two operands, or a complaint about their number. -/
def withOperands (c : Call) (operands : List Text) (go : Text → Text → Work Nat) : Work Nat :=
  match operands with
  | [] => c.misuse "missing operand".toList
  | [_] => c.misuse ("missing operand after ".toList ++ quoted (c.args.getLast?.getD []))
  | [a, b] => go a b
  | _ :: _ :: extra :: _ => c.misuse ("extra operand ".toList ++ quoted extra)

/-! ## Whole lines -/

/-- How lines of two files are shown side by side. -/
structure Columns where
  hidden : List Char := []
  joint : Text := ['\t']
  check : Check := .ifNeeded

/-- A line in its column; the columns of lines that are hidden are left out. -/
def Columns.write (s : Columns) (r : Report) (column : Char) (l : Text) : Report :=
  if s.hidden.contains column then r
  else
    let before := "123".toList.filter fun k => k < column && !s.hidden.contains k
    r.write ((List.replicate before.length s.joint).flatten ++ l)

/-- What is found out when the line after `l` is read. At the end of a file the last two lines are
looked at once more. -/
def Columns.step (s : Columns) (r : Report) (first : Bool) (before : Option Text) (l : Text)
    (rest : List Text) : Report :=
  let complaint := "file ".toList ++ [if first then '1' else '2'] ++
    " is not in sorted order".toList
  match rest, before with
  | next :: _, _ => r.check s.check first (Text.atMost l next) complaint
  | [], some before => r.check s.check first (Text.atMost before l) complaint
  | [], none => r

/-- Go through two files; what stands before each list is the line that was read before it. -/
def Columns.compare (s : Columns) : (fuel : Nat) → Report → Option Text → List Text →
    Option Text → List Text → Report
  | 0, r, _, _, _, _ => r
  | fuel + 1, r, p, as, q, bs =>
    let order : Option Ordering := match as, bs with
      | [], [] => none
      | _, [] => some .lt
      | [], _ => some .gt
      | a :: _, b :: _ => some (compareTexts a b)
    match order, as, bs with
    | some .eq, a :: as, b :: bs =>
      let r := s.step (s.step (s.write r '3' b) true p a as) false q b bs
      s.compare fuel r (some a) as (some b) bs
    | some .lt, a :: as, bs =>
      let r := s.step (s.write { r with unpaired := true } '1' a) true p a as
      s.compare fuel r (some a) as q bs
    | some .gt, as, b :: bs =>
      let r := s.step (s.write { r with unpaired := true } '2' b) false q b bs
      s.compare fuel r p as (some b) bs
    | _, _, _ => r

/-- How many lines are in the first file only, in the second one only, and in both. -/
def tally : (fuel : Nat) → List Text → List Text → Nat × Nat × Nat
  | 0, _, _ => (0, 0, 0)
  | _ + 1, [], bs => (0, bs.length, 0)
  | _ + 1, as, [] => (as.length, 0, 0)
  | fuel + 1, a :: as, b :: bs =>
    match compareTexts a b with
    | .eq =>
      let (m, n, k) := tally fuel as bs
      (m, n, k + 1)
    | .lt =>
      let (m, n, k) := tally fuel as (b :: bs)
      (m + 1, n, k)
    | .gt =>
      let (m, n, k) := tally fuel (a :: as) bs
      (m, n + 1, k)

def comm (c : Call) : Work Nat :=
  c.withOptions { flags := "123zTNC", valued := "O",
                  long := [("output-delimiter", 'O'), ("total", 'T'), ("nocheck-order", 'N'),
                    ("check-order", 'C'), ("zero-terminated", 'z')] } 1 fun o => do
    let joints := (o.given.filter (·.1 = 'O')).map Prod.snd
    if joints.any (some · ≠ joints.head?) then
      c.fail "multiple output delimiters specified".toList
    else withOperands c o.operands fun a b => do
      let ending := if o.has 'z' then '\x00' else '\n'
      let wrong (fault : Fault) (name : Text) : Text := name ++ [':', ' '] ++ reason fault
      match ← readBoth c ending a b wrong with
      | .error message => c.fail message
      | .ok (as, bs) =>
        let joint := match joints with
          | [] => ['\t']
          | [] :: _ => ['\x00']
          | joint :: _ => joint
        let s : Columns := ⟨"123".toList.filter o.has, joint, checkOf o⟩
        let fuel := as.length + bs.length + 1
        let (m, n, k) := tally fuel as bs
        let last := if o.has 'T' then
            List.intercalate joint [decimal m, decimal n, decimal k, "total".toList] ++ [ending]
          else []
        (s.compare fuel {} none as none bs).finish c ending last

/-! ## Lines with a field in common -/

/-- A field of a result: the common one, or a field of one of the files. -/
inductive Item where
  | common
  | field (first : Bool) (n : Nat)

/-- How lines are joined. -/
structure Joining where
  firstKey : Option Nat := none
  secondKey : Option Nat := none
  /-- The character between fields, or blanks if none is given. -/
  separator : Option Char := none
  filler : Option Text := none
  items : List Item := []
  automatic : Bool := false
  firstAlone : Bool := false
  secondAlone : Bool := false
  pairs : Bool := true

namespace Joining

/-- The number of a field, counted from zero. -/
def fieldNumber (t : Text) : Except Text Nat :=
  match natural? (if t.head? = some '+' then t.tail else t) with
  | some (n + 1) => return n
  | _ => throw ("invalid field number: ".toList ++ quoted t)

/-- A field of a result as it is written in a list. -/
def item (t : Text) : Except Text Item :=
  let wrong : Text := "invalid field specifier: ".toList ++ quoted t
  match t with
  | ['0'] => return .common
  | '0' :: _ => throw wrong
  | k :: rest =>
    if k = '1' || k = '2' then
      match rest with
      | '.' :: n => return .field (k = '1') (← fieldNumber n)
      | _ => throw wrong
    else throw ("invalid file number in field spec: ".toList ++ quoted t)
  | [] => throw ("invalid file number in field spec: ".toList ++ quoted t)

def addItems (s : Joining) (t : Text) : Except Text Joining := do
  let parts := t.splitOnP fun c => c = ',' || c = ' ' || c = '\t'
  return { s with items := s.items ++ (← parts.mapM item) }

/-- Set the number of a key, which cannot be changed afterwards. -/
def keyOf (old : Option Nat) (n : Nat) : Except Text (Option Nat) :=
  match old with
  | some m =>
    if m = n then return old
    else throw ("incompatible join fields ".toList ++ decimal m ++ ", ".toList ++ decimal n)
  | none => return some n

/-- Take one more option into account. -/
def add (s : Joining) : Char × Text → Except Text Joining
  | ('1', t) => do return { s with firstKey := ← keyOf s.firstKey (← fieldNumber t) }
  | ('2', t) => do return { s with secondKey := ← keyOf s.secondKey (← fieldNumber t) }
  | ('j', t) => do
    let n ← fieldNumber t
    return { s with firstKey := ← keyOf s.firstKey n, secondKey := ← keyOf s.secondKey n }
  | ('a', t) => alone s t
  | ('v', t) => alone { s with pairs := false } t
  | ('e', t) =>
    if s.filler.any (· ≠ t) then throw "conflicting empty-field replacement strings".toList
    else return { s with filler := some t }
  | ('o', t) => if t = "auto".toList then return { s with automatic := true } else s.addItems t
  | ('t', t) =>
    let separate (c : Char) : Except Text Joining :=
      if s.separator.any (· ≠ c) then throw "incompatible tabs".toList
      else return { s with separator := some c }
    match t with
    | [] => separate '\n'
    | ['\\', '0'] => separate '\x00'
    | [c] => separate c
    | t => throw ("multi-character tab ".toList ++ quoted t)
  | _ => return s
where
  alone (s : Joining) (t : Text) : Except Text Joining :=
    match natural? t with
    | some 1 => return { s with firstAlone := true }
    | some 2 => return { s with secondAlone := true }
    | _ => throw ("invalid field number: ".toList ++ quoted t)

def key (s : Joining) (first : Bool) : Nat :=
  ((if first then s.firstKey else s.secondKey)).getD 0

/-- The fields of a line; a field follows blanks at the end of a line too. -/
def fields (s : Joining) (l : Text) : List Text :=
  if l = [] then []
  else match s.separator with
    | some c => l.splitOn c
    | none =>
      let parts := (l.splitOnP Order.isBlank).filter (· ≠ [])
      if parts ≠ [] && l.getLast?.any Order.isBlank then parts ++ [[]] else parts

/-- A field as it is written. -/
def shownField (s : Joining) (row : List Text) (n : Nat) : Text :=
  match row[n]? with
  | some (c :: t) => c :: t
  | _ => s.filler.getD []

/-- Two rows as one line, either of which may be missing; `widths` tells how many fields they are
taken to have. -/
def line (s : Joining) (widths : Option (Nat × Nat)) (x y : Option (List Text)) : Text :=
  let common := match x with
    | some x => s.shownField x (s.key true)
    | none => s.shownField (y.getD []) (s.key false)
  let others (row : Option (List Text)) (first : Bool) (width : Option Nat) : List Text :=
    let row := row.getD []
    ((List.range (width.getD row.length)).filter (· ≠ s.key first)).map (s.shownField row)
  let shown := if s.items.isEmpty then
      common :: others x true (widths.map Prod.fst) ++ others y false (widths.map Prod.snd)
    else s.items.map fun
      | .common => common
      | .field first n => s.shownField ((if first then x else y).getD []) n
  List.intercalate [s.separator.getD ' '] shown

end Joining

/-- A line with its number and its fields. -/
structure Row where
  number : Nat
  text : Text
  fields : List Text

/-- What is joined, and how keys are compared. -/
structure Sides where
  how : Joining
  check : Check
  ignoresCase : Bool
  names : Text × Text
  widths : Option (Nat × Nat)

namespace Sides

def key (s : Sides) (first : Bool) (row : Row) : Text :=
  let k := (row.fields[s.how.key first]?).getD []
  if s.ignoresCase then k.map Char.toLower else k

/-- What is found out when a line is read after another one. -/
def step (s : Sides) (r : Report) (first : Bool) (row next : Row) : Report :=
  let name := if first then s.names.1 else s.names.2
  r.check s.check first (Text.atMost (s.key first row) (s.key first next))
    (name ++ [':'] ++ decimal next.number ++ ": is not sorted: ".toList ++ next.text)

def stepTo (s : Sides) (r : Report) (first : Bool) (row : Row) (rest : List Row) : Report :=
  match rest with
  | next :: _ => s.step r first row next
  | [] => r

/-- Write a line that has no partner, if such lines are asked for. -/
def writeAlone (s : Sides) (r : Report) (first : Bool) (row : Row) : Report :=
  if first then
    if s.how.firstAlone then r.write (s.how.line s.widths (some row.fields) none) else r
  else if s.how.secondAlone then r.write (s.how.line s.widths none (some row.fields)) else r

/-- What is left of one file when the other one has come to its end. -/
def rest (s : Sides) (first : Bool) (r : Report) (rows : List Row) : Report :=
  match rows with
  | [] => r
  | row :: rows =>
    (rows.foldl (fun ((r, before) : Report × Row) next =>
      (s.writeAlone (s.step r first before next) first next, next))
      (s.writeAlone r first row, row)).1

/-- Go through two files. -/
def join (s : Sides) : (fuel : Nat) → Report → List Row → List Row → Report
  | 0, r, _, _ => r
  | _ + 1, r, [], bs => s.rest false r bs
  | _ + 1, r, as, [] => s.rest true r as
  | fuel + 1, r, a :: as, b :: bs =>
    match compareTexts (s.key true a) (s.key false b) with
    | .lt =>
      let r := s.stepTo (s.writeAlone r true a) true a as
      join s fuel { r with unpaired := true } as (b :: bs)
    | .gt =>
      let r := s.stepTo (s.writeAlone r false b) false b bs
      join s fuel { r with unpaired := true } (a :: as) bs
    | .eq =>
      let k := s.key true a
      let xs := as.takeWhile (s.key true · = k)
      let ys := bs.takeWhile (s.key false · = k)
      let as := as.drop xs.length
      let bs := bs.drop ys.length
      let r := s.stepTo r true (xs.getLast?.getD a) as
      let r := s.stepTo r false (ys.getLast?.getD b) bs
      let lines := (a :: xs).flatMap fun x => (b :: ys).map fun y =>
        s.how.line s.widths (some x.fields) (some y.fields)
      join s fuel (if s.how.pairs then lines.foldl Report.write r else r) as bs

end Sides

/-- Operands before the last two belong to the list of fields if there is one. -/
def withLists (s : Joining) (hasList : Bool) (operands : List Text) :
    Except Text (Joining × List Text) := do
  let extra := if hasList then operands.take (operands.length - 2) else []
  return (← extra.foldlM Joining.addItems s, operands.drop extra.length)

/-- Join the lines of two files that have the same key. -/
def join (c : Call) : Work Nat :=
  c.withOptions { flags := "ihzNC", valued := "12javeot",
                  long := [("header", 'h'), ("nocheck-order", 'N'), ("check-order", 'C'),
                    ("ignore-case", 'i'), ("zero-terminated", 'z')] } 1 fun o => do
    let read : Except Text (Joining × List Text) := do
      let s ← o.given.foldlM Joining.add {}
      withLists s (!s.items.isEmpty) o.operands
    match read with
    | .error message => c.fail message
    | .ok (how, operands) => withOperands c operands fun a b => do
      if a = ['-'] && b = ['-'] then c.fail "both files cannot be standard input".toList
      else
        let ending := if o.has 'z' then '\x00' else '\n'
        let wrong (fault : Fault) (name : Text) : Text :=
          if fault = .isDirectory then "read error: Is a directory".toList
          else name ++ [':', ' '] ++ reason fault
        match ← readBoth c ending a b wrong with
        | .error message => c.fail message
        | .ok (as, bs) =>
          let rows (ls : List Text) : List Row :=
            ls.zipIdx.map fun (l, k) => ⟨k + 1, l, how.fields l⟩
          let (as, bs) := (rows as, rows bs)
          let width (rows : List Row) : Nat := (rows.head?.map (·.fields.length)).getD 0
          let s : Sides := ⟨how, checkOf o, o.has 'i', (a, b),
            if how.automatic then some (width as, width bs) else none⟩
          let isHeaded := o.has 'h' && !(as.isEmpty && bs.isEmpty)
          let head : Report := if isHeaded then
              let first (rows : List Row) := (rows.head?.map Row.fields).getD []
              ({} : Report).write (how.line s.widths (some (first as)) (some (first bs)))
            else {}
          let (as, bs) := if isHeaded then (as.drop 1, bs.drop 1) else (as, bs)
          (s.join (as.length + bs.length + 1) head as bs).finish c ending []

end GoRepl.Machine.Sorted
