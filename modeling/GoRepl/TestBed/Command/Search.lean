import GoRepl.TestBed.Command.Files
import GoRepl.TestBed.Command.Order
import GoRepl.TestBed.Regex

/-! # Test bed: searching lines

Which lines of files match an expression, and how the matches are shown. -/

namespace GoRepl.Machine.Search

open Call (quoted reason)
open Files (joined)

/-- What is searched for. -/
structure Query where
  expression : Regex
  whole : Bool := false
  words : Bool := false
  inverted : Bool := false

/-- Does a match begin and end where it may? -/
def Query.accepts (q : Query) (s e : Regex.Spot) : Bool :=
  (!q.whole || (s.before = [] && e.rest = [])) &&
    (!q.words || (!s.before.head?.any Regex.isWordChar && !e.rest.head?.any Regex.isWordChar))

/-- The matches in a text from a place on, one after another, each with the place where it begins;
what stands before is given backwards. -/
def matchesFrom (q : Query) : (fuel n : Nat) → (before : Text) → Text → List (Nat × Text)
  | 0, _, _, _ => []
  | fuel + 1, n, before, t =>
    let s : Regex.Spot := { before, rest := t }
    match (Regex.matchAt? q.expression s (q.accepts s)).filter (·.matched ≠ []), t with
    | some m, _ =>
      let k := m.before.length
      (n + k, m.matched) ::
        matchesFrom q fuel (n + k + m.matched.length) m.after.before m.after.rest
    | none, [] => []
    | none, c :: t => matchesFrom q fuel (n + 1) (c :: before) t

/-- The matches that are not empty. -/
def Query.matches (q : Query) (l : Text) : List (Nat × Text) := matchesFrom q (l.length + 2) 0 [] l

/-- Does a match begin here or later? -/
def Query.occursFrom (q : Query) : (before : Text) → Text → Bool
  | before, t =>
    let s : Regex.Spot := { before, rest := t }
    (Regex.matchAt? q.expression s (q.accepts s)).isSome || match t with
      | [] => false
      | c :: t => q.occursFrom (c :: before) t
termination_by _ t => t.length

/-- Is a line selected? -/
def Query.selects (q : Query) (l : Text) : Bool := q.occursFrom [] l != q.inverted

/-! ## Showing -/

/-- How the lines that are found are shown. -/
structure View where
  /-- The name of the file, if it is to stand before each line. -/
  label : Option Text := none
  numbers : Bool := false
  offsets : Bool := false
  onlyMatches : Bool := false
  coloured : Bool := false
  tabbed : Bool := false
  /-- What stands behind the name of a file if no other sign is to. -/
  afterLabel : Option Char := none
  ending : Char := '\n'
  /-- The numbers of lines that are shown before and after each one that is found. -/
  context : Option (Nat × Nat) := none
  separator : Option Text := some ['-', '-']
  /-- How many lines may be found. -/
  most : Option Nat := none

namespace View

def paint (v : View) (code : String) (t : Text) : Text :=
  if v.coloured && t ≠ [] then
    "\x1b[".toList ++ code.toList ++ "m\x1b[K".toList ++ t ++ "\x1b[m\x1b[K".toList
  else t

/-- The name of the file with what follows it. -/
def labelled (v : View) (sign : Char) : Text :=
  match v.label with
  | none => []
  | some l => v.paint "35" l ++ match v.afterLabel with
    | some c => [c]
    | none => v.paint "36" [sign]

/-- What stands before a line. -/
def start (v : View) (sign : Char) (number offset : Nat) : Text :=
  let column (on : Bool) (n : Nat) : Text :=
    if on then v.paint "32" (padStart (if v.tabbed then 4 else 0) ' ' (decimal n)) ++
      v.paint "36" [sign]
    else []
  let whole := v.labelled sign ++ column v.numbers (number + 1) ++ column v.offsets offset
  if v.tabbed && whole ≠ [] then whole ++ ['\t'] else whole

/-- A line with its matches marked. -/
def marked (v : View) (q : Query) (l : Text) : Text :=
  if !v.coloured || q.inverted then l
  else
    let (done, n) := (q.matches l).foldl (fun (done, n) (k, m) =>
      (done ++ ((l.take k).drop n) ++ v.paint "01;31" m, k + m.length)) (([] : Text), 0)
    done ++ l.drop n

end View

/-- How far a search has come in a file. -/
structure Progress where
  /-- The pieces that are written, latest first. -/
  written : List Text := []
  found : Nat := 0
  offset : Nat := 0
  /-- The number of the line that was shown last. -/
  last : Option Nat := none
  /-- Lines that are not shown yet, latest first. -/
  earlier : List (Nat × Nat × Text) := []
  /-- How many lines are still to be shown. -/
  after : Nat := 0
  /-- Has something been shown, of this file or another one? -/
  used : Bool := false

namespace Progress

/-- Show a line. -/
def shown (v : View) (q : Query) (hit : Bool) (p : Progress) (n offset : Nat) (l : Text) :
    Progress :=
  let sign := if hit then ':' else '-'
  let gap : Text :=
    match v.context, v.separator with
    | some _, some t =>
      if p.used && p.last.all (· + 1 ≠ n) then v.paint "36" t ++ ['\n'] else []
    | _, _ => []
  let text := if v.onlyMatches then
      if q.inverted || !hit then []
      else (q.matches l).flatMap fun (k, m) =>
        v.start sign n (offset + k) ++ v.paint "01;31" m ++ [v.ending]
    else v.start sign n offset ++ (if hit then v.marked q l else l) ++ [v.ending]
  { p with written := text :: gap :: p.written, last := some n, used := true }

/-- Go on with a line. -/
def step (v : View) (q : Query) (p : Progress) (n : Nat) (l : Text) : Progress :=
  let hit := q.selects l
  let offset := p.offset
  let p := { p with offset := offset + l.length + 1 }
  let isFull := v.most.any (· ≤ p.found)
  if hit && isFull then { p with after := 0 }
  else if hit then
    let p := p.earlier.reverse.foldl (fun p (n, o, l) => p.shown v q false n o l) p
    let p := p.shown v q true n offset l
    { p with found := p.found + 1, earlier := [], after := (v.context.getD (0, 0)).2 }
  else if 0 < p.after then
    { p.shown v q false n offset l with after := p.after - 1 }
  else { p with earlier := ((n, offset, l) :: p.earlier).take (v.context.getD (0, 0)).1 }

/-- Is there nothing more to be done? -/
def isOver (v : View) (p : Progress) : Bool := v.most.any (· ≤ p.found) && p.after = 0

/-- Go on with lines until all is done, and give those that are left. -/
def run (v : View) (q : Query) : Nat → List Text → Progress → Progress × List Text
  | _, [], p => (p, [])
  | n, l :: ls, p =>
    if p.isOver v then (p, l :: ls) else run v q (n + 1) ls (p.step v q n l)

end Progress

/-! ## Files -/

/-- Which files are searched below a directory. -/
structure Choice where
  included : List Text := []
  excluded : List Text := []
  excludedDirectories : List Text := []

def globbed (pattern t : Text) : Bool := Glob.matches? (pattern.map (⟨·, false⟩)) t

namespace Choice

def admits (s : Choice) (name : Text) : Bool :=
  (s.included = [] || s.included.any (globbed · name)) && !s.excluded.any (globbed · name)

end Choice

/-- The files below a path, if it is one of a directory. -/
def below (d : Disk) (s : Choice) (followed : Bool) : (depth : Nat) → (shown : Text) → NodeId →
    List Text
  | 0, _, _ => []
  | depth + 1, shown, id =>
    match d.entries? id with
    | none => [shown]
    | some entries => entries.entries.flatMap fun (name, id) =>
      let name := Narrow.ofText name
      let path := if shown = [] then name else joined shown name
      match (d.node? id).map Node.content with
      | some (.directory _) =>
        if s.excludedDirectories.any (globbed · name) then []
        else below d s followed depth path id
      | some (.file _) => if s.admits name then [path] else []
      | some (.link _) => if followed && s.admits name then [path] else []
      | _ => []

/-- The files that are searched for an operand. -/
def filesOf (d : Disk) (place : Place) (s : Choice) (recursive followed : Bool) (t : Text) :
    List Text :=
  let shown := if t = [] then ['.'] else t
  match if recursive then d.locate place (Call.path shown) else .error .notFound with
  | .ok spot =>
    if (d.entries? spot.id).isSome then
      if t ≠ [] && s.excludedDirectories.any (globbed · (Files.lastPart t)) then []
      else below d s followed Disk.depthLimit t spot.id
    else if s.admits (Files.lastPart t) then [t] else []
  | .error _ =>
    if t ≠ ['-'] && !s.admits (Files.lastPart t) then [] else [t]

/-! ## The command -/

def usage (c : Call) : Work Nat := do
  c.write 2 ("Usage: ".toList ++ c.name ++ " [OPTION]... PATTERNS [FILE]...\n".toList)
  c.write 2 ("Try '".toList ++ c.name ++ " --help' for more information.\n".toList)
  return 2

def rules : OptionRules where
  flags := "EFGPivycnoqsxwlLhHrRazbIUZT0123456789\x01\x02\x03"
  valued := "efmABCdD\x11\x12\x13\x14\x15\x16"
  long := [("ignore-case", 'i'), ("invert-match", 'v'), ("count", 'c'), ("line-number", 'n'),
    ("only-matching", 'o'), ("quiet", 'q'), ("silent", 'q'), ("no-messages", 's'),
    ("line-regexp", 'x'), ("word-regexp", 'w'), ("files-with-matches", 'l'), ("regexp", 'e'),
    ("files-without-match", 'L'), ("with-filename", 'H'), ("no-filename", 'h'),
    ("extended-regexp", 'E'), ("fixed-strings", 'F'), ("basic-regexp", 'G'), ("perl-regexp", 'P'),
    ("max-count", 'm'), ("file", 'f'), ("byte-offset", 'b'), ("recursive", 'r'),
    ("dereference-recursive", 'R'), ("text", 'a'), ("null-data", 'z'), ("null", 'Z'),
    ("initial-tab", 'T'), ("after-context", 'A'), ("before-context", 'B'), ("context", 'C'),
    ("no-ignore-case", '\x01'), ("line-buffered", '\x02'), ("no-group-separator", '\x03'),
    ("binary", 'U'), ("directories", 'd'), ("devices", 'D'), ("label", '\x11'),
    ("include", '\x12'), ("exclude", '\x13'), ("exclude-dir", '\x14'),
    ("group-separator", '\x15'), ("binary-files", '\x16')]

/-- The letter of the last option that is one of several. -/
def latest? (o : Options) (letters : String) : Option Char :=
  (o.given.reverse.find? fun g => letters.toList.contains g.1).map Prod.fst

def values (o : Options) (c : Char) : List Text := (o.given.filter (·.1 = c)).map Prod.snd

/-- How many lines around each one are asked for. -/
def contextOf (o : Options) : Except Text (Option (Nat × Nat)) := do
  let number (c : Char) : Except Text (Option Nat) :=
    match o.value? c with
    | none => return none
    | some t => match natural? t with
      | some n => return some n
      | none => throw (t ++ ": invalid context length argument".toList)
  let digits := (o.given.map Prod.fst).filter Text.isDigit
  let around := (← number 'C') <|> natural? digits
  match (← number 'B') <|> around, (← number 'A') <|> around with
  | none, none => return none
  | b, a => return some (b.getD 0, a.getD 0)

/-- The letter of the kind of patterns that are given, and the form in which they are read. -/
def formOf (o : Options) (extended fixed : Bool) : Char × Regex.Form :=
  let kind := (latest? o "EFGP").getD (if fixed then 'F' else if extended then 'E' else 'G')
  (kind, {
    extended := kind = 'E' || kind = 'P', rich := kind = 'P', wary := true
    ignoreCase := latest? o "iy\x01" |>.any (· ≠ '\x01') })

/-- The expression for several patterns, or what is wrong with one of them. -/
def expressionOf (kind : Char) (form : Regex.Form) (patterns : List Text) :
    Except Text Regex := do
  if kind = 'P' && patterns.length > 1 then
    throw "the -P option only supports a single pattern".toList
  let read (t : Text) : Except Text Regex :=
    if kind = 'F' then .ok (Regex.ofText form t)
    else match Regex.fault? form t with
      | some message => .error message.toList
      | none => .ok (Regex.read form t)
  match ← patterns.mapM read with
  | [] => return .nothing
  | r :: rs => return rs.foldl .either r

/-- Warn of the signs in patterns that have nothing to repeat. -/
def warnOf (c : Call) (form : Regex.Form) (patterns : List Text) : Work Unit := do
  for t in patterns do
    for sign in Regex.idleSigns form (t.length + 1) 0 true t do
      let shown := if sign = '\x7b' then "\x7b...\x7d".toList else [sign]
      c.complain ("warning: ".toList ++ shown ++ " at start of expression".toList)

/-- What a search has found in a file: the text to be shown, whether a line was selected, and how
much of the file is left. -/
def report (o : Options) (v : View) (q : Query) (used : Bool) (name : Text) (f : Flow) :
    Text × Bool × Progress × Nat :=
  let text := if f.isEndless then f.unrolled 1000 else f.text
  let isBinary := !o.has 'z' && !o.has 'a' && o.value? '\x16' ≠ some "text".toList &&
    text.contains '\x00'
  let ls := if o.has 'z' then Order.records '\x00' text else linesOf text
  let isBrief := o.has 'q' || o.has 'l' || o.has 'L'
  let v := if isBrief || isBinary && !o.has 'c' then { v with most := some (min 1 (v.most.getD 1)) }
    else v
  let v := if isBrief || o.has 'c' then { v with context := none } else v
  let (p, rest) := Progress.run v q 0 ls { used }
  let hit := 0 < p.found
  let left := (ofLines rest).length - if isUnfinished text && rest ≠ [] then 1 else 0
  let skipsBinary := isBinary && (o.has 'I' || o.value? '\x16' = some "without-match".toList)
  let mark := v.afterLabel.getD '\n'
  let painted := v.paint "35" name ++ [mark]
  if skipsBinary then (if o.has 'L' then painted else [], false, { p with used }, left)
  else if o.has 'q' then ([], hit, p, left)
  else if o.has 'l' then (if hit then painted else [], hit, p, left)
  else if o.has 'L' then (if hit then [] else painted, hit, p, left)
  else if o.has 'c' then (v.labelled ':' ++ decimal p.found ++ ['\n'], hit, p, left)
  else if isBinary then
    (if hit then "grep: ".toList ++ name ++ ": binary file matches\n".toList else [], hit,
      { p with used }, left)
  else (p.written.reverse.flatten, hit, p, left)

/-- Search with the expressions that options or the first operand give. -/
def search (extended fixed : Bool) (c : Call) : Work Nat := do
  let c := { c with name := "grep".toList }
  let isColour (t : Text) : Bool := "--color".toList.isPrefixOf t || "--colour".toList.isPrefixOf t
  let colours := (c.args.takeWhile (· ≠ ['-', '-'])).filter isColour
  let coloured := colours.getLast?.any fun t => "=always".toList.isSuffixOf t
  match Options.read rules (c.args.filter (!isColour ·)) with
  | .error message =>
    c.complain message
    usage c
  | .ok o =>
    let mut fromFiles : List Text := []
    for file in values o 'f' do
      match ← c.contents file with
      | .ok f => fromFiles := fromFiles ++ linesOf f.text
      | .error fault =>
        c.complainPlainlyOf file fault
        return 2
    let isGiven := o.has 'e' || o.has 'f'
    if !isGiven && o.operands.isEmpty then return ← usage c
    let given := if isGiven then values o 'e' else o.operands.take 1
    let files := if isGiven then o.operands else o.operands.drop 1
    let patterns := given.flatMap (·.splitOn '\n') ++ fromFiles
    let most ← match o.value? 'm' with
      | none => pure none
      | some t => match natural? t with
        | some n => pure (some n)
        | none =>
          c.complain "invalid max count".toList
          return 2
    let (kind, form) := formOf o extended fixed
    match contextOf o, expressionOf kind form patterns with
    | .error message, _ | _, .error message =>
      c.complain message
      return 2
    | .ok context, .ok expression =>
    if kind = 'E' then warnOf c form patterns
    if most = some 0 then return 1
    let q : Query := ⟨expression, o.has 'x', o.has 'w', o.has 'v'⟩
    let recursive := o.has 'r' || o.has 'R' || o.value? 'd' = some "recurse".toList
    let choice : Choice := ⟨values o '\x12', values o '\x13',
      (values o '\x14').map (Text.dropEndWhile (· == '/'))⟩
    let d := (← get).disk
    let operands := if !files.isEmpty then files else if recursive then [[]] else [['-']]
    let searched := operands.flatMap (filesOf d c.place choice recursive (o.has 'R'))
    let labelled : Bool := match latest? o "hH" with
      | some l => l = 'H'
      | none => files.length > 1 || (recursive && operands.any fun t =>
          t = [] || d.isDirectory c.place (Call.path t))
    let view : View :=
      { numbers := o.has 'n', offsets := o.has 'b', onlyMatches := o.has 'o', coloured
        tabbed := o.has 'T', afterLabel := if o.has 'Z' then some '\x00' else none
        ending := if o.has 'z' then '\x00' else '\n', context, most
        separator := if o.has '\x03' then none else some ((o.value? '\x15').getD ['-', '-']) }
    let output ← match c.stream? 1 with
      | some id => stream id
      | none => pure .null
    let isOutput (file : Text) : Bool :=
      match output, d.locate c.place (Call.path file) with
      | .file id _ _, .ok s => file ≠ ['-'] && s.id = id && !o.has 'q' && !o.has 'l' && !o.has 'L'
      | _, _ => false
    let (found, wrong, _) ← searched.foldlM (fun ((found, wrong, used) : Bool × Bool × Bool) file =>
      do
        if found && o.has 'q' then return (found, wrong, used)
        if isOutput file then
          c.complain (file ++ ": input file is also the output".toList)
          return (found, true, used)
        match ← c.contents file with
        | .error fault =>
          if fault = .isDirectory && o.value? 'd' = some "skip".toList then
            return (found, wrong, used)
          if !o.has 's' then c.complainPlainlyOf file fault
          return (found, true, used)
        | .ok f =>
          let name := if file = ['-'] then (o.value? '\x11').getD "(standard input)".toList
            else file
          let v := { view with label := if labelled then some name else none }
          let (shown, hit, p, left) := report o v q used name f
          if file = ['-'] && v.most.isSome then
            match c.stream? 0 with
            | some id =>
              if (← stream id) matches .file _ _ _ then
                giveBack id (f.text.drop (f.text.length - left))
            | none => pure ()
          if f.isEndless && !(o.has 'q' && hit) && v.most.isNone then
            c.pour ⟨shown, shown⟩
            if shown = [] then spin
          else c.print shown
          return (found || hit, wrong, p.used)) (false, false, false)
    return if found && o.has 'q' then 0 else if wrong then 2 else if found then 0 else 1

end GoRepl.Machine.Search
