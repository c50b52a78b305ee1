import GoRepl.TestBed.Command.Lines

/-! # Test bed: commands on columns

Commands that take lines apart into columns, and put columns together to lines. -/

namespace GoRepl.Machine.Columns

open Call (reason quoted)

/-- A range of positions, which may have no end. -/
abbrev Range := Nat × Option Nat

/-- What is wrong with a list of ranges. -/
inductive RangeFault where
  /-- What stands here is neither a digit nor a mark. -/
  | invalid (rest : Text)
  | zero
  | decreasing
  | noEnds
  | twoDashes
  | tooLarge (digits : Text)

/-- A range that has been read in part. -/
structure PartialRange where
  /-- The number before a dash that has been read. -/
  first : Option Nat := none
  /-- Was there a dash? -/
  dashed : Bool := false
  digits : Text := []

def PartialRange.number (p : PartialRange) : Nat := Shell.Expression.ofDigits 10 p.digits

/-- The range that has been read where it ends. -/
def PartialRange.finish (p : PartialRange) : Except RangeFault Range := do
  if !p.dashed then
    if p.number = 0 then throw .zero
    return (p.number, some p.number)
  else if p.first.isNone && p.digits = [] then throw .noEnds
  else
    let first := p.first.getD 1
    if p.digits = [] then return (first, none)
    if p.number < first then throw .decreasing
    return (first, some p.number)

/-- The ranges of a list such as `1,3-5,7-`. -/
def rangesFrom (p : PartialRange) : Text → Except RangeFault (List Range)
  | [] => return [← p.finish]
  | c :: t => do
    if c = '-' then
      if p.dashed then throw .twoDashes
      if p.digits ≠ [] && p.number = 0 then throw .zero
      rangesFrom { first := if p.digits = [] then none else some p.number, dashed := true } t
    else if c = ',' || c = ' ' || c = '\t' then return (← p.finish) :: (← rangesFrom {} t)
    else if Text.isDigit c then
      let p := { p with digits := p.digits ++ [c] }
      if 18446744073709551615 ≤ p.number then
        throw (.tooLarge (p.digits ++ t.takeWhile Text.isDigit))
      rangesFrom p t
    else throw (.invalid (c :: t))

def ranges (t : Text) : Except RangeFault (List Range) := rangesFrom {} t

def chosen (rs : List Range) (n : Nat) : Bool :=
  rs.any fun (a, b) => a ≤ n && b.all (n ≤ ·)

/-- The words for a fault in a list. -/
def RangeFault.message (fields : Bool) : RangeFault → Text
  | .invalid rest =>
    (if fields then "invalid field value " else "invalid byte/character position ").toList ++
      quoted rest
  | .zero =>
    (if fields then "fields are numbered from 1"
      else "byte/character positions are numbered from 1").toList
  | .decreasing => "invalid decreasing range".toList
  | .noEnds => "invalid range with no endpoint: -".toList
  | .twoDashes =>
    (if fields then "invalid field range" else "invalid byte or character range").toList
  | .tooLarge digits =>
    (if fields then "field number " else "byte/character offset ").toList ++ quoted digits ++
      " is too large".toList

/-- The chosen bytes of a line; a text stands between those of two ranges that do not touch. -/
def pickBytes (joint : Text) (keep : Nat → Bool) (starts : Nat → Bool) : (n : Nat) →
    (any : Bool) → Text → Text
  | _, _, [] => []
  | n, any, c :: t =>
    if keep n then
      (if any && starts n then joint else []) ++ c :: pickBytes joint keep starts (n + 1) true t
    else pickBytes joint keep starts (n + 1) any t

def cut (c : Call) : Work Nat :=
  c.withOptions { flags := "snzC", valued := "dfcbO",
                  long := [("delimiter", 'd'), ("fields", 'f'), ("output-delimiter", 'O'),
                    ("characters", 'c'), ("bytes", 'b'), ("only-delimited", 's'),
                    ("complement", 'C'), ("zero-terminated", 'z')] } 1 fun o => do
    let lists := o.given.filter fun (k, _) => k = 'f' || k = 'c' || k = 'b'
    let ending := if o.has 'z' then '\x00' else '\n'
    let linesOf (t : Text) : List Text :=
      let ls := t.splitOn ending
      if ls.getLast? = some [] then ls.dropLast else ls
    let ofLines (ls : List Text) : Text := ls.flatMap (· ++ [ending])
    match lists with
    | [] => c.misuse "you must specify a list of bytes, characters, or fields".toList
    | _ :: _ :: _ => c.misuse "only one list may be specified".toList
    | [(kind, list)] =>
      let fields := kind = 'f'
      if !fields && o.has 'd' then
        c.misuse "an input delimiter may be specified only when operating on fields".toList
      else if !fields && o.has 's' then
        c.misuse ("suppressing non-delimited lines makes sense\n\tonly when operating on " ++
          "fields").toList
      else if (o.value? 'd').any fun d => 1 < d.length then
        c.misuse "the delimiter must be a single character".toList
      else match ranges list with
        | .error fault => c.misuse (fault.message fields)
        | .ok rs =>
          let keep (n : Nat) : Bool := chosen rs n != o.has 'C'
          let joined := (o.value? 'O').map fun t => if t = [] then ['\x00'] else t
          if fields then
            let delimiter := ((o.value? 'd').map (·.headD '\x00')).getD '\t'
            let joint := joined.getD [delimiter]
            c.filter o.operands fun t =>
              -- Lines may themselves be the fields.
              if delimiter = ending then
                let kept := (linesOf t).zipIdx.filter fun (_, n) => keep (n + 1)
                if t = [] then [] else ofLines [List.intercalate joint (kept.map Prod.fst)]
              else ofLines ((linesOf t).filterMap fun l =>
              if l.contains delimiter then
                let kept := (l.splitOn delimiter).zipIdx.filter fun (_, n) => keep (n + 1)
                some (List.intercalate joint (kept.map Prod.fst))
              else if o.has 's' then none else some l)
          else
            let joint := joined.getD []
            let starts (n : Nat) : Bool :=
              if o.has 'C' then !keep (n - 1)
              else rs.any fun (a, _) => a = n &&
                !rs.any fun (x, y) => x < n && y.all (n - 1 < ·)
            c.filter o.operands fun t =>
              ofLines ((linesOf t).map fun l => pickBytes joint keep starts 1 false l)

/-! ## Side by side -/

/-- The texts that stand between columns, one after another. -/
def joints (t : Text) : List Text :=
  match t with
  | [] => []
  | '\\' :: c :: t =>
    (match c with
      | 'n' => ['\n']
      | 't' => ['\t']
      | '0' => []
      | 'b' => ['\x08']
      | 'f' => ['\x0c']
      | 'r' => ['\r']
      | 'v' => ['\x0b']
      | c => [c]) :: joints t
  | c :: t => [c] :: joints t

/-- A row, with the joints in turn between its columns. -/
def joinRow (js : List Text) : (n : Nat) → List Text → Text
  | _, [] => []
  | _, [t] => t
  | n, t :: ts => t ++ (js[n % js.length]?).getD [] ++ joinRow js (n + 1) ts

/-- Join the lines of files side by side, or those of each file one after another. Where the input
is named several times its lines are dealt out in turn. -/
def paste (c : Call) : Work Nat :=
  c.withOptions { flags := "sz", valued := "d",
                  long := [("serial", 's'), ("delimiters", 'd'), ("zero-terminated", 'z')] } 1
    fun o => do
      let delimiters := (o.value? 'd').getD ['\t']
      if (delimiters.reverse.takeWhile (· = '\\')).length % 2 = 1 then
        return ← c.fail ("delimiter list ends with an unescaped backslash: ".toList ++ delimiters)
      let js := joints delimiters
      let js := if js.isEmpty then [[]] else js
      let ending := if o.has 'z' then '\x00' else '\n'
      let records (t : Text) : List Text :=
        let ls := t.splitOn ending
        if ls.getLast? = some [] then ls.dropLast else ls
      let files := if o.operands.isEmpty then [['-']] else o.operands
      let isInput (file : Text) : Bool := file = ['-'] || file = "/dev/stdin".toList
      let input ← if files.any isInput then do
          let f ← c.inputFlow
          if f.isEndless then spin
          pure (records f.text)
        else pure []
      let inputs := files.countP isInput
      let mut columns : List (List Text) := []
      let mut dealt := 0
      for file in files do
        if isInput file then
          let k := dealt
          columns := columns ++ [if o.has 's' then (if k = 0 then input else [])
            else (input.zipIdx.filter fun (_, n) => n % inputs = k).map Prod.fst]
          dealt := dealt + 1
        else match ← c.contents file with
          | .ok f => columns := columns ++ [records f.text]
          | .error fault =>
            c.complainOf file fault
            if !o.has 's' then return 1
      if o.has 's' then
        c.print ((columns.map (joinRow js 0)).flatMap (· ++ [ending]))
      else
        let height := (columns.map List.length).foldl max 0
        c.print (((List.range height).map fun n =>
          joinRow js 0 (columns.map fun ls => (ls[n]?).getD [])).flatMap (· ++ [ending]))
      return if columns.length = files.length then 0 else 1

/-- A table: columns are as wide as they have to be. -/
def table (joint : Text) (right : Nat → Bool) (rows : List (List Text)) : Text :=
  let count := (rows.map List.length).foldl max 0
  let width (k : Nat) : Nat := (rows.map fun r => ((r[k]?).getD []).length).foldl max 0
  let widths := (List.range count).map width
  ofLines (rows.map fun row =>
    let cells := row.zipIdx.map fun (t, k) =>
      let w := (widths[k]?).getD 0
      if right k then padStart w ' ' t
      else if k + 1 = row.length then t
      else t ++ List.replicate (w - t.length) ' '
    List.intercalate joint cells)

/-- Put lines into columns, or into a table. -/
def column (c : Call) : Work Nat :=
  c.withOptions { flags := "tnxeL", valued := "socNR",
                  long := [("table", 't'), ("separator", 's'), ("output-separator", 'o'),
                    ("output-width", 'c'), ("table-columns", 'N'), ("table-right", 'R'),
                    ("fillrows", 'x')] } 1 fun o => do
    let (t, ok) ← c.gatherAll o.operands
    let ls := (linesOf t).filter fun l => !l.all Lines.isSpace
    if o.has 't' then
      let rows := ls.map fun l => match o.value? 's' with
        | some s => (l.splitOnP (s.contains ·)).filter fun t => s.length = 1 || t ≠ []
        | none => Lines.wordsOf l
      let rows := match o.value? 'N' with
        | some names => names.splitOn ',' :: rows
        | none => rows
      let rights := ((o.value? 'R').map fun r => (r.splitOn ',').filterMap natural?).getD []
      c.print (table ((o.value? 'o').getD [' ', ' ']) (fun k => rights.contains (k + 1)) rows)
    else
      let total := ((o.value? 'c').bind natural?).getD 80
      let longest := (ls.map List.length).foldl max 0
      let width := (longest / 8 + 1) * 8
      let count := max 1 (total / width)
      let height := (ls.length + count - 1) / count
      let tabs (l : Text) : Text :=
        List.replicate ((width - l.length + 7) / 8) '\t'
      c.print (ofLines ((List.range height).map fun n =>
        let cells := if o.has 'x' then (ls.drop (n * count)).take count
          else (List.range count).filterMap fun k => ls[k * height + n]?
        (cells.dropLast.flatMap fun l => l ++ tabs l) ++ cells.getLast?.getD []))
    return if ok then 0 else 1

end GoRepl.Machine.Columns
