import GoRepl.TestBed.Command.Format
import GoRepl.TestBed.Command.Quantity
import GoRepl.TestBed.Regex

/-! # Test bed: commands on lines

Commands that read texts and write parts of them, or the same lines in another form or order. -/

namespace GoRepl.Machine.Lines

/-- A character as it is shown if all are to be seen. -/
def visible (tabs : Bool) (c : Char) : Text :=
  let n := c.toNat
  let low (n : Nat) : Text :=
    if n < 32 then ['^', Char.ofNat (n + 64)] else if n = 127 then ['^', '?'] else [Char.ofNat n]
  if c = '\t' && !tabs then [c]
  else if n < 128 then low n else ['M', '-'] ++ low (n - 128)

/-- Show the numbered lines, or count them, as `cat` does. -/
def cat (c : Call) : Work Nat :=
  c.withOptions { flags := "nbsEvTAetu",
                  long := [("number", 'n'), ("show-all", 'A'), ("show-ends", 'E'),
                    ("number-nonblank", 'b'), ("squeeze-blank", 's'), ("show-tabs", 'T'),
                    ("show-nonprinting", 'v')] } 1 fun o => do
    let ends := o.has 'E' || o.has 'A' || o.has 'e'
    let tabs := o.has 'T' || o.has 'A' || o.has 't'
    let controls := o.has 'v' || o.has 'A' || o.has 'e' || o.has 't'
    let plain := o.given.all (·.1 = 'u')
    let shown (l : Text) : Text :=
      if controls then l.flatMap (visible tabs)
      else if tabs then l.flatMap fun ch => if ch = '\t' then ['^', 'I'] else [ch]
      else l
    let number (n : Nat) (l : Text) : Text := padStart 6 ' ' (decimal n) ++ ['\t'] ++ l
    let step (state : List Text × Nat × Bool) (l : Text) : List Text × Nat × Bool :=
      let (done, n, blank) := state
      if o.has 's' && l = [] && blank then state
      else
        let counted := if o.has 'b' then l ≠ [] else o.has 'n'
        let n := if counted then n + 1 else n
        let l' := shown l ++ if ends then ['$'] else []
        ((if counted then number n l' else l') :: done, n, l = [])
    let files := if o.operands.isEmpty then [['-']] else o.operands
    if plain then
      files.foldlM (fun status file => do
        match ← c.contents file with
        | .ok f =>
          if f.isEndless then c.pour f
          else match ← c.put 1 f.text with
            | .ok () => return status
            | .error fault =>
              c.complain ("write error: ".toList ++ Call.reason fault)
              return 1
          return status
        | .error fault =>
          c.complainOf file fault
          return 1) 0
    else c.filter o.operands fun t =>
      let unfinished := isUnfinished t
      let ls := ((linesOf t).foldl step ([], 0, false)).1.reverse
      -- A line without an end is not marked as one that has one.
      let ls := if unfinished && ends then
          ls.dropLast ++ (ls.getLast?.map List.dropLast).toList
        else ls
      ofLinesLike unfinished ls

/-! ## Counting -/

def isSpace (c : Char) : Bool := c == ' ' || ('\t' ≤ c && c ≤ '\r')

def wordsOf (t : Text) : List Text := (t.splitOnP isSpace).filter (· ≠ [])

/-- The length of the longest line, in which tabs lead to the next of their stops. -/
def longest (t : Text) : Nat :=
  let step (state : Nat × Nat) (c : Char) : Nat × Nat :=
    let (most, n) := state
    match c with
    | '\n' | '\r' | '\x0c' => (max most n, 0)
    | '\t' => (most, n + 8 - n % 8)
    | c => (most, if ' ' ≤ c && c ≠ '\x7f' then n + 1 else n)
  let (most, n) := t.foldl step (0, 0)
  max most n

/-- The numbers of lines, words, characters and bytes, and the length of the longest line. -/
def counts (t : Text) : List Nat :=
  let isShown (c : Char) : Bool := ' ' < c && c ≠ '\x7f'
  [t.count '\n', (wordsOf t).countP (·.any isShown), (Narrow.toText t).length, t.length, longest t]

/-- Two rows of counts together. -/
def addCounts (a b : List Nat) : List Nat :=
  List.zipWith (· + ·) (a.take 4) (b.take 4) ++ [max ((a[4]?).getD 0) ((b[4]?).getD 0)]

def wc (c : Call) : Work Nat :=
  c.withOptions { flags := "lwcmL"
                  long := [("lines", 'l'), ("words", 'w'), ("bytes", 'c'), ("chars", 'm'),
                    ("max-line-length", 'L')] } 1
    fun o => do
      let wanted : List Bool :=
        if o.given.isEmpty then [true, true, false, true, false]
        else "lwmcL".toList.map o.has
      let files := if o.operands.isEmpty then [['-']] else o.operands
      let regular ← match c.stream? 0 with
        | some id => do
          match ← stream id with
          | .file .. => pure true
          | _ => pure false
        | none => pure false
      let (rows, status) ← files.foldlM (fun (rows, status) file => do
        match ← c.contents file with
        | .ok f =>
          if f.isEndless then spin
          return (rows ++ [(counts f.text, file, if file = ['-'] then regular else true)], status)
        | .error fault =>
          c.complainOf file fault
          if fault = .isDirectory then return (rows ++ [([0, 0, 0, 0, 0], file, false)], 1)
          else return (rows, 1)) (([] : List (List Nat × Text × Bool)), 0)
      let sum := rows.foldl (fun sums (row, _) => addCounts sums row) [0, 0, 0, 0, 0]
      let size := (rows.filter (·.2.2)).foldl (fun n (row, _) => n + (row[3]?).getD 0) 0
      let width := if files.length = 1 && (wanted.filter id).length = 1 then 1
        else if rows.all (·.2.2) then (decimal size).length else max 7 (decimal size).length
      let line (row : List Nat) (name : Text) : Text :=
        let shown := (row.zip wanted).filterMap fun (n, wanted) =>
          if wanted then some (padStart width ' ' (decimal n)) else none
        List.intercalate [' '] shown ++ (if name = [] then [] else ' ' :: name) ++ ['\n']
      for (row, file, _) in rows do
        c.print (line row (if o.operands.isEmpty then [] else file))
      if files.length > 1 then c.print (line sum "total".toList)
      return status

/-! ## Backwards -/

/-- The pieces of a text up to each separator, or from each separator on. -/
def separated (separator : Text) (before : Bool) : (fuel : Nat) → (current : Text) → Text →
    List Text
  | 0, current, t => [current.reverse ++ t]
  | _, current, [] => if current = [] then [] else [current.reverse]
  | fuel + 1, current, c :: t =>
    match Text.after? separator (c :: t) with
    | some rest =>
      if before then
        (if current = [] then [] else [current.reverse]) ++
          separated separator before fuel separator.reverse rest
      else (current.reverse ++ separator) :: separated separator before fuel [] rest
    | none => separated separator before fuel (c :: current) t

def tac (c : Call) : Work Nat :=
  c.withOptions { flags := "br", valued := "s", long := [("separator", 's'), ("before", 'b')] } 1
    fun o => do
      let separator := ((o.value? 's').filter (· ≠ [])).getD ['\n']
      let files := if o.operands.isEmpty then [['-']] else o.operands
      files.foldlM (fun status file => do
        match ← c.contents file with
        | .ok f =>
          if f.isEndless then spin
          c.print (separated separator (o.has 'b') (f.text.length + 1) [] f.text).reverse.flatten
          return status
        | .error .isDirectory =>
          c.complain (Call.shownName file ++ ": read error: Invalid argument".toList)
          return 1
        | .error fault =>
          c.complain ("failed to open ".toList ++ Call.quotedName file ++ " for reading: ".toList ++
            Call.reason fault)
          return 1) 0

/-- Write each line from its end to its beginning. -/
def rev (c : Call) : Work Nat := do
  let files := c.args.filter (·.head? ≠ some '-')
  files.foldlM (fun status file => do
    match ← c.contents file with
    | .ok f =>
      c.pour (f.map reversed)
      return status
    | .error fault =>
      c.complain ("cannot open ".toList ++ file ++ ": ".toList ++ Call.reason fault)
      return 1) 0 >>= fun status => do
    if files.isEmpty then c.pour ((← c.inputFlow).map reversed)
    return status
where
  reversed (t : Text) : Text :=
    let bytes (l : Text) : Text := Narrow.ofText (Narrow.toText l).reverse
    ofLinesLike (isUnfinished t) ((linesOf t).map bytes)

/-! ## Copies -/

/-- Write the input to files too. -/
def tee (c : Call) : Work Nat :=
  c.withOptions { flags := "aip", long := [("append", 'a'), ("ignore-interrupts", 'i')] } 1
    fun o => do
      let ids ← o.operands.filterMapM fun file => do
        match ← c.openFile (if o.has 'a' then .append else .write) file with
        | .ok id => return some id
        | .error fault =>
          c.complainOf file fault
          return none
      let f ← c.inputFlow
      c.write 1 f.text
      for id in ids do
        write id f.text
        release id
      if f.isEndless then c.pour ⟨[], f.cycle⟩
      return if ids.length = o.operands.length then 0 else 1

/-- The ending of the `n`th piece, of at least a length: letters, or digits. -/
def pieceEnding (digits : Bool) (size n : Nat) : Text :=
  let base := if digits then 10 else 26
  let first := if digits then '0' else 'a'
  (List.range size).reverse.map fun k =>
    Char.ofNat (first.toNat + n / Nat.pow base k % base)

/-- A size that an option asks for, which is not zero, or the words about what is none. -/
def pieceSize (what : String) (t : Text) : Except Text Nat :=
  match Quantity.read t with
  | .ok (n + 1) => return n + 1
  | _ => throw ("invalid number of ".toList ++ what.toList ++ ": ".toList ++ Call.quoted t)

/-- How a text is cut into pieces. -/
inductive Cut where
  | lines
  | bytes
  /-- A number of pieces of the same size. -/
  | chunks
  /-- A number of pieces that end where lines end. -/
  | lineChunks
deriving DecidableEq

/-- The pieces of a text, of `n` lines or bytes each, or `n` of them. -/
def Cut.pieces (cut : Cut) (n : Nat) (t : Text) : List Text :=
  let lines := (linesOf t).map (· ++ ['\n'])
  let lines := if isUnfinished t then lines.dropLast ++ (lines.getLast?.map List.dropLast).toList
    else lines
  let whole := t.length / n
  match cut with
  | .lines => (Machine.pieces n lines).map List.flatten
  | .bytes => Machine.pieces n t
  | .chunks => (List.range n).map fun k =>
    if k + 1 = n then t.drop (k * whole) else (t.drop (k * whole)).take whole
  | .lineChunks =>
    let place (k : Nat) : Nat := min (k / max whole 1) (n - 1)
    let (placed, _) := lines.foldl (fun (placed, k) (l : Text) =>
      (placed ++ [(place k, l)], k + l.length)) (([], 0) : List (Nat × Text) × Nat)
    (List.range n).map fun k =>
      (placed.filter fun (p : Nat × Text) => p.1 = k).flatMap Prod.snd

/-- How options ask for a text to be cut, and by which number. -/
def Cut.ofOption (k : Char) (t : Text) : Except Text (Cut × Nat) :=
  if k = 'l' then return (.lines, ← pieceSize "lines" t)
  else if k = 'n' then
    match Text.after? "l/".toList t with
    | some t => return (.lineChunks, ← pieceSize "chunks" t)
    | none => return (.chunks, ← pieceSize "chunks" t)
  else return (.bytes, ← pieceSize "bytes" t)

/-- How long the endings of names are. -/
def endingLength (o : Options) : Except Text Nat :=
  let t := (o.value? 'a').getD ['2']
  match natural? t with
  | some n => return n
  | none => throw ("invalid suffix length: ".toList ++ Call.quoted t)

/-- Write the pieces of a text to files. -/
def split (c : Call) : Work Nat :=
  { c with args := c.args.flatMap fun t => match t with
      | '-' :: d :: ds => if Text.isDigit d then ["-l".toList, d :: ds] else [t]
      | t => [t] }.withOptions
    { flags := "dzuex", valued := "labnCtS",
      long := [("lines", 'l'), ("bytes", 'b'), ("number", 'n'), ("suffix-length", 'a'),
        ("numeric-suffixes", 'd'), ("additional-suffix", 'S'), ("verbose", 'v')] } 1 fun o => do
    let file := o.operands.head?.getD ['-']
    let start := (o.operands[1]?).getD ['x']
    let ways := o.given.filter fun (w : Char × Text) => "lbnC".toList.contains w.1
    if 1 < ways.length then return ← c.misuse "cannot split in more than one way".toList
    if let some extra := o.operands[2]? then
      return ← c.misuse ("extra operand ".toList ++ Call.quoted extra)
    let asked : Except Text ((Cut × Nat) × Nat) := do
      let (k, t) := ways.headD ('l', "1000".toList)
      return (← Cut.ofOption k t, ← endingLength o)
    match asked with
    | .error message => c.fail message
    | .ok ((cut, n), size) =>
      match ← c.contents file with
      | .error fault =>
        c.fail ("cannot open ".toList ++ Call.quotedName file ++ " for reading: ".toList ++
          Call.reason fault)
      | .ok f =>
        for (p, k) in (cut.pieces n f.text).zipIdx do
          let name := start ++ pieceEnding (o.has 'd') size k ++ (o.value? 'S').getD []
          discard (c.save name p)
        return 0

end GoRepl.Machine.Lines
