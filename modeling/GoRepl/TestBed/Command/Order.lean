import GoRepl.TestBed.Command.Key
import GoRepl.TestBed.Command.Lines

/-! # Test bed: commands on ordered lines

Sorting lines by keys, and what can be done with lines that are sorted. -/

namespace GoRepl.Machine.Order

open Call (reason quoted)

/-! ## Sorting -/

/-- Join lists that are in order; of equal lines the one from the earlier list comes first. -/
def mergeLists (before : Text → Text → Bool) : (fuel : Nat) → List (List Text) → List Text
  | 0, _ => []
  | fuel + 1, ls =>
    let heads := ls.zipIdx.filterMap fun (l, k) => l.head?.map (·, k)
    match heads with
    | [] => []
    | first :: rest =>
      let (least, k) := rest.foldl (fun best h => if before best.1 h.1 then best else h) first
      least :: mergeLists before fuel (ls.set k ((ls[k]?).getD []).tail)

def sortRules : OptionRules where
  flags := "rnufbcChVsgdiMRzm*"
  valued := "ktoSTy=#@%:"
  optional := "c"
  long := [("reverse", 'r'), ("numeric-sort", 'n'), ("unique", 'u'), ("stable", 's'),
    ("key", 'k'), ("field-separator", 't'), ("output", 'o'), ("ignore-case", 'f'),
    ("human-numeric-sort", 'h'), ("version-sort", 'V'), ("general-numeric-sort", 'g'),
    ("month-sort", 'M'), ("merge", 'm'), ("check", 'c'), ("ignore-leading-blanks", 'b'),
    ("dictionary-order", 'd'), ("ignore-nonprinting", 'i'), ("zero-terminated", 'z'),
    ("random-sort", 'R'), ("sort", '='), ("buffer-size", 'S'), ("temporary-directory", 'T'),
    ("parallel", '#'), ("batch-size", '@'), ("compress-program", '%'), ("random-source", ':'),
    ("debug", '*')]

/-- The letters that words for the manner of sorting stand for. -/
def sortWords : Call.Choices Char :=
  [(["general-numeric"], 'g'), (["human-numeric"], 'h'), (["month"], 'M'), (["numeric"], 'n'),
   (["random"], 'R'), (["version"], 'V')]

def checkWords : Call.Choices Char := [(["quiet", "silent"], 'C'), (["diagnose-first"], 'c')]

/-- An option in the place of one that is given by a word. -/
def settled : Char × Text → Except Text (Char × Text)
  | ('=', word) => return (← Call.choose "--sort" sortWords word, [])
  | ('c', word) =>
    if word = [] then return ('c', []) else return (← Call.choose "--check" checkWords word, [])
  | given => return given

/-- How lines are to be sorted. -/
structure Sorting where
  keys : List Key := []
  /-- The key that tells how keys without letters are compared. -/
  general : Key := {}
  separator : Option Char := none
  output : Option Text := none
  /-- The letter of the option that asks for a check. -/
  check : Option Char := none

namespace Sorting

/-- The message about letters that cannot stand together. -/
def incompatible (letters : Text) : Text :=
  "options '-".toList ++ letters ++ "' are incompatible".toList

/-- Take one more option into account. -/
def add (s : Sorting) : Char × Text → Except Text Sorting
  | ('k', t) => return { s with keys := s.keys ++ [← Key.read t] }
  | ('t', t) =>
    match t with
    | [] => throw "empty tab".toList
    | ['\\', '0'] => separateBy '\x00'
    | [c] => separateBy c
    | t => throw ("multi-character tab ".toList ++ quoted t)
  | ('o', file) =>
    if s.output.any (· ≠ file) then throw "multiple output files specified".toList
    else return { s with output := some file }
  | ('b', _) =>
    return { s with general := { s.general with startBlanks := true, stopBlanks := true } }
  | (c, _) =>
    if c = 'c' || c = 'C' then
      if s.check.any (· ≠ c) then throw (incompatible ['c', 'C'])
      else return { s with check := some c }
    else if Key.isLetter c then
      return { s with general := { s.general with letters := s.general.letters ++ [c] } }
    else return s
where
  separateBy (c : Char) : Except Text Sorting :=
    if s.separator.any (· ≠ c) then throw "incompatible tabs".toList
    else return { s with separator := some c }

/-- How the options ask for lines to be sorted. -/
def read (given : List (Char × Text)) : Except Text Sorting := do
  let s ← given.foldlM add {}
  let inherit (k : Key) : Key :=
    if k.isPlain then { s.general with start := k.start, stop := k.stop } else k
  let keys := if s.keys.isEmpty then [s.general] else s.keys.map inherit
  match keys.findSome? Key.conflict? with
  | some letters => throw (incompatible letters)
  | none => return { s with keys }

/-- Compare lines by their keys. -/
def byKeys (s : Sorting) (a b : Text) : Ordering :=
  s.keys.foldl (fun order k => if order = .eq then k.compare s.separator a b else order) .eq

/-- Compare lines by their keys, and those whose keys are the same as a whole. -/
def byAll (s : Sorting) (a b : Text) : Ordering :=
  (s.byKeys a b).then
    (let order := compareTexts a b
      if s.general.letters.contains 'r' then order.swap else order)

end Sorting

/-- The records of a text, each ended by a sign. -/
def records (ending : Char) (t : Text) : List Text :=
  let ls := t.splitOn ending
  if ls.getLast? = some [] then ls.dropLast else ls

def ofRecords (ending : Char) (ls : List Text) : Text := ls.flatMap (· ++ [ending])

/-- The first one of neighbours that an order does not tell apart. -/
def firstOfEqual (order : Text → Text → Ordering) (ls : List Text) : List Text :=
  (ls.foldl (fun done l => match done with
    | m :: _ => if order m l = .eq then done else l :: done
    | [] => [l]) []).reverse

/-- The records of a file that is to be sorted. -/
def recordsIn (c : Call) (ending : Char) (trouble : String) (file : Text) :
    Work (Except Text (List Text)) := do
  let name := Call.shownName file
  match ← c.contents file with
  | .ok f =>
    if f.isEndless then spin
    return .ok (records ending f.text)
  | .error .isDirectory =>
    return .error ("read failed: ".toList ++ name ++ ": Is a directory".toList)
  | .error fault =>
    return .error (trouble.toList ++ ": ".toList ++ name ++ ": ".toList ++ reason fault)

/-- Tell whether the records of a file are in order. -/
def checkOrder (c : Call) (s : Sorting) (o : Options) (ending : Char) (file : Text) :
    Work Nat := do
  match ← recordsIn c ending "open failed" file with
  | .error message => c.fail message 2
  | .ok ls =>
    let isWrong (a b : Text) : Bool :=
      if o.has 'u' then s.byKeys a b ≠ .lt
      else (if o.has 's' then s.byKeys else s.byAll) a b = .gt
    match (ls.zip ls.tail).zipIdx.find? fun ((a, b), _) => isWrong a b with
    | some ((_, b), n) =>
      if s.check = some 'C' then return 1
      else c.fail (file ++ ":".toList ++ decimal (n + 2) ++ ": disorder: ".toList ++ b)
    | none => return 0

/-- Sort the records of all files. -/
def sortFiles (c : Call) (s : Sorting) (o : Options) (ending : Char) (files : List Text) :
    Work Nat := do
  -- That all files are there is seen before the first one is read.
  let missing ← files.findSomeM? fun file => do
    if file = ['-'] || (c.device? file).isSome then return none
    else match (← get).disk.find c.place (Call.path file) with
      | .error fault => return some (file, fault)
      | .ok n => return if n.allows 4 then none else some (file, .permissionDenied)
  if let some (file, fault) := missing then
    return ← c.fail ("cannot read: ".toList ++ Call.shownName file ++ ": ".toList ++
      reason fault) 2
  let order := if o.has 's' || o.has 'u' then s.byKeys else s.byAll
  let mut columns : List (List Text) := []
  for file in files do
    match ← recordsIn c ending "cannot read" file with
    | .ok ls => columns := columns ++ [ls]
    | .error message => return ← c.fail message 2
  let before (a b : Text) : Bool := order a b ≠ .gt
  let sorted := if o.has 'm' then mergeLists before (columns.flatten.length + 1) columns
    else columns.flatten.mergeSort before
  let shown := ofRecords ending (if o.has 'u' then firstOfEqual s.byKeys sorted else sorted)
  match s.output with
  | none =>
    c.print shown
    return 0
  | some file =>
    match ← c.save file shown with
    | .ok () => return 0
    | .error fault =>
      c.fail ("open failed: ".toList ++ Call.shownName file ++ ": ".toList ++ reason fault) 2

/-- Options among the operands count too. -/
def sort (c : Call) : Work Nat :=
  c.withOptions sortRules 2 fun o =>
    match o.given.mapM settled with
    | .error message => c.misuse message
    | .ok given =>
      match Sorting.read given with
      | .error message => c.fail message 2
      | .ok s =>
        let ending := if o.has 'z' then '\x00' else '\n'
        match s.check, o.operands, s.output with
        | some letter, _ :: extra :: _, _ =>
          c.misuse ("extra operand ".toList ++ quoted extra ++ " not allowed with -".toList ++
            [letter]) 2
        | some letter, _, some _ => c.fail (Sorting.incompatible [letter, 'o']) 2
        | some _, files, none => checkOrder c s o ending (files.headD ['-'])
        | none, files, _ => sortFiles c s o ending (if files.isEmpty then [['-']] else files)

/-! ## Neighbours -/

/-- Where an empty record is written between groups of equal records. -/
inductive Gap where
  | nowhere
  | before
  | after
  | between
  | around
deriving DecidableEq

def groupWords : Call.Choices Gap :=
  [(["prepend"], .before), (["append"], .after), (["separate"], .between), (["both"], .around)]

def repeatWords : Call.Choices Gap :=
  [(["none"], .nowhere), (["prepend"], .before), (["separate"], .between)]

/-- Groups of records with gaps. -/
def Gap.spread (gap : Gap) (groups : List (List Text)) : List Text :=
  let marked := match gap with
    | .nowhere => groups
    | .before => groups.map ([] :: ·)
    | .after => groups.map (· ++ [[]])
    | .between | .around => List.intersperse [[]] groups
  if gap = .around && !groups.isEmpty then [[]] ++ marked.flatten ++ [[]] else marked.flatten

/-- Neighbours that have the same key, group by group. -/
def grouped (key : Text → Text) (ls : List Text) : List (List Text) :=
  ls.splitBy fun a b => key a = key b

/-- What the options of `uniq` ask for. -/
structure Folding where
  fields : Nat := 0
  chars : Nat := 0
  width : Option Nat := none
  /-- How all records are shown in groups, if they are. -/
  groups : Option Gap := none
  /-- How all records that are repeated are shown, if they are. -/
  repeats : Option Gap := none

namespace Folding

/-- A number that is given to an option, or the words about what is none. -/
def number (what : String) (t : Text) : Except Text Nat :=
  let unsigned := match Shell.Expression.blank t with
    | '+' :: t => t
    | t => t
  match natural? unsigned with
  | some n => return n
  | none => throw (t ++ ": invalid number of ".toList ++ what.toList)

/-- Take a number into account. -/
def addNumber (s : Folding) : Char × Text → Except Text Folding
  | ('f', t) => return { s with fields := ← number "fields to skip" t }
  | ('s', t) => return { s with chars := ← number "bytes to skip" t }
  | ('w', t) => return { s with width := some (← number "bytes to compare" t) }
  | _ => return s

/-- Take a word into account. -/
def addWord (s : Folding) : Char × Text → Except Text Folding
  | ('g', t) =>
    return { s with groups := some (← gapOf "--group" groupWords .between t) }
  | ('D', t) =>
    return { s with repeats := some (← gapOf "--all-repeated" repeatWords .nowhere t) }
  | _ => return s
where
  gapOf (option : String) (words : Call.Choices Gap) (default : Gap) (t : Text) :
      Except Text Gap :=
    if t = [] then return default else Call.choose option words t

/-- What counts of a record when it is compared. -/
def key (s : Folding) (ignoresCase : Bool) (l : Text) : Text :=
  let l := (afterFields none s.fields l).drop s.chars
  let l := match s.width with
    | some n => l.take n
    | none => l
  if ignoresCase then l.map Char.toLower else l

/-- The records that are shown of those of a text. -/
def shown (s : Folding) (o : Options) (ls : List Text) : List Text :=
  let groups := grouped (s.key (o.has 'i')) ls
  let counted (ls : List Text) : List Text :=
    (ls.take 1).map fun l =>
      if o.has 'c' then padStart 7 ' ' (decimal ls.length) ++ [' '] ++ l else l
  match s.groups, s.repeats with
  | some gap, _ => gap.spread groups
  | none, some gap =>
    gap.spread ((groups.filter (·.length > 1)).map fun ls => if o.has 'u' then ls.dropLast else ls)
  | none, none =>
    (groups.filter fun ls => if ls.length = 1 then !o.has 'd' else !o.has 'u').flatMap counted

end Folding

/-- Write equal neighbours once. -/
def uniq (c : Call) : Work Nat :=
  c.withOptions { flags := "cduiDzg", valued := "fsw", optional := "Dg",
                  long := [("count", 'c'), ("repeated", 'd'), ("unique", 'u'),
                    ("ignore-case", 'i'), ("all-repeated", 'D'), ("skip-fields", 'f'),
                    ("skip-chars", 's'), ("check-chars", 'w'), ("zero-terminated", 'z'),
                    ("group", 'g')] } 1
    fun o =>
      match o.given.foldlM Folding.addNumber {} with
      | .error message => c.fail message
      | .ok s =>
        match o.given.foldlM Folding.addWord s, o.operands with
        | .error message, _ => c.misuse message
        | .ok _, _ :: _ :: extra :: _ => c.misuse ("extra operand ".toList ++ quoted extra)
        | .ok s, operands => do
          if s.groups.isSome && ['c', 'd', 'D', 'u'].any o.has then
            c.misuse "--group is mutually exclusive with -c/-d/-D/-u".toList
          else if o.has 'c' && o.has 'D' then
            c.misuse
              "printing all duplicated lines and repeat counts is meaningless".toList
          else
            let ending := if o.has 'z' then '\x00' else '\n'
            match ← c.contents (operands.head?.getD ['-']) with
            | .error fault =>
              c.complainOf (operands.head?.getD []) fault
              return 1
            | .ok f =>
              if f.isEndless then spin
              let shown := ofRecords ending (s.shown o (records ending f.text))
              match operands[1]? with
              | some file =>
                if file = ['-'] then
                  c.print shown
                  return 0
                else match ← c.save file shown with
                  | .ok () => return 0
                  | .error fault =>
                    c.complainOf file fault
                    return 1
              | none =>
                c.print shown
                return 0

/-! ## Order from pairs -/

/-- What is known of pairs that are put in order: how many go before each name, and which ones come
after it, those from later pairs first. -/
structure Graph where
  counts : Ledger Text Nat := .empty
  after : Ledger Text (List Text) := .empty

namespace Graph

def count (g : Graph) (n : Text) : Nat := (g.counts.get? n).getD 0

/-- One more pair. A name that is paired with itself is only named. -/
def add (g : Graph) (a b : Text) : Graph :=
  let known (g : Graph) (n : Text) : Graph :=
    if (g.counts.get? n).isSome then g else { g with counts := g.counts.put n 0 }
  let g := known (known g a) b
  if a = b then g
  else ⟨g.counts.put b (g.count b + 1), g.after.put a (b :: (g.after.get? a).getD [])⟩

/-- Take the first one of those that nothing goes before, until there is none. -/
def run : (fuel : Nat) → Graph → (queue done : List Text) → Graph × List Text
  | 0, g, _, done => (g, done)
  | _ + 1, g, [], done => (g, done)
  | fuel + 1, g, n :: queue, done =>
    let (g, freed) := ((g.after.get? n).getD []).foldl (fun ((g, freed) : Graph × List Text) m =>
      let k := g.count m - 1
      ({ g with counts := g.counts.put m k }, if k = 0 then freed ++ [m] else freed)) (g, [])
    run fuel g (queue ++ freed) (done ++ [n])

end Graph

/-- Put names in order so that the first one of each pair goes before the second one. -/
def tsort (c : Call) : Work Nat :=
  c.withOptions { flags := "" } 1 fun o => do
    let file := o.operands.head?.getD ['-']
    match o.operands[1]? with
    | some extra => c.misuse ("extra operand ".toList ++ quoted extra)
    | none =>
      match ← c.contents file with
      | .error fault =>
        let why := if fault = .isDirectory then ": read error: " else ": "
        c.fail (Call.shownName file ++ why.toList ++ reason fault)
      | .ok f =>
        if f.isEndless then spin
        let words := (f.text.splitOnP isBlank).filter (· ≠ [])
        if words.length % 2 = 1 then
          c.fail (file ++ ": input contains an odd number of tokens".toList)
        else
          let g := (pieces 2 words).foldl (fun (g : Graph) pair => match pair with
            | [a, b] => g.add a b
            | _ => g) {}
          let names := Text.sorted g.counts.keys
          let (_, done) := g.run (names.length + 1) (names.filter (g.count · = 0)) []
          c.print (ofLines done)
          let left := names.filter (!done.contains ·)
          if left.isEmpty then return 0
          else
            c.complain (file ++ ": input contains a loop:".toList)
            for n in left do
              c.complain n
            c.print (ofLines left)
            return 1

end GoRepl.Machine.Order
