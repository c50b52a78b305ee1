import GoRepl.TestBed.Command.Files
import GoRepl.TestBed.Command.Quantity

/-! # Test bed: comparing files

Whether files and directories hold the same, and where they differ. -/

namespace GoRepl.Machine.Compare

open Call (path reason quoted)

/-! ## Byte by byte -/

/-- Why two texts are not the same. -/
inductive Difference where
  | none
  /-- The bytes differ at a position. -/
  | byte (position : Nat)
  /-- One text ends where the other goes on. -/
  | length (position : Nat) (firstEnds : Bool)
deriving DecidableEq, Repr

def difference (f g : Text) : Difference :=
  let same := ((f.zip g).takeWhile fun (x, y) => x = y).length
  if same < min f.length g.length then .byte same
  else if f.length = g.length then .none
  else .length same (f.length < g.length)

/-- A byte as it is shown. -/
def shownByte (c : Char) : Text :=
  let n := c.toNat
  let high : Text := if 128 ≤ n then ['M', '-'] else []
  let n := n % 128
  high ++ if n < 32 then ['^', Char.ofNat (n + 64)] else if n = 127 then ['^', '?']
    else [Char.ofNat n]

/-- The bytes that differ: where, and both in octal digits, with the characters
that they stand for if `shows`. -/
def listed (shows : Bool) (f g : Text) : Text :=
  let all := ((f.zip g).zipIdx.filter fun ((x, y), _) => x ≠ y)
  let width := (decimal (min f.length g.length)).length
  all.flatMap fun ((x, y), n) =>
    let byte (c : Char) : Text := padStart 3 ' ' (Mode.octal c.toNat)
    let seen := shownByte x
    padStart width ' ' (decimal (n + 1)) ++ [' '] ++ byte x ++ [' '] ++
      (if shows then seen ++ List.replicate (5 - seen.length) ' ' else []) ++ byte y ++
      (if shows then ' ' :: shownByte y else []) ++ ['\n']

def cmp (c : Call) : Work Nat :=
  c.withOptions { flags := "slb", valued := "ni",
                  long := [("silent", 's'), ("quiet", 's'), ("verbose", 'l'), ("print-bytes", 'b'),
                    ("bytes", 'n'), ("ignore-initial", 'i')], namesHint := true } 2 fun o => do
    let refuse (message : Text) : Work Nat := c.misuse message 2 true
    let skips := match o.value? 'i' with
      | some t => t.splitOn ':'
      | none => (o.operands.drop 2).take 2
    let wrongSkip := skips.find? fun t => !(Quantity.read t).isOk
    match wrongSkip, (o.value? 'n').filter fun t => !(Quantity.read t).isOk, o.operands with
    | some t, _, _ => refuse ("invalid --ignore-initial value ".toList ++ quoted t)
    | none, some t, _ => refuse ("invalid --bytes value ".toList ++ quoted t)
    | none, none, [] => refuse ("missing operand after ".toList ++ quoted c.name)
    | none, none, _ :: _ :: _ :: _ :: extra :: _ =>
      refuse ("extra operand ".toList ++ quoted extra)
    | none, none, a :: bs =>
      if o.has 'l' && o.has 's' then
        return ← refuse "options -l and -s are incompatible".toList
      let b := bs.head?.getD ['-']
      let size (t : Text) : Nat := (Quantity.read t).toOption.getD 0
      let skip (k : Nat) : Nat := match o.value? 'i' with
        | some _ => ((skips[k]? <|> skips[0]?).map size).getD 0
        | none => ((skips[k]?).map size).getD 0
      let limit := (o.value? 'n').map size
      match ← c.contents a, ← c.contents b with
      | .error fault, _ =>
        if !o.has 's' then c.complainPlainlyOf a fault
        return 2
      | _, .error fault =>
        if !o.has 's' then c.complainPlainlyOf b fault
        return 2
      | .ok f, .ok g =>
        let cut (k : Nat) (f : Flow) : Text :=
          let t := (if f.isEndless then f.text ++ (List.replicate 100000 f.cycle).flatten
            else f.text).drop (skip k)
          match limit with
          | some n => t.take n
          | none => t
        let f := cut 0 f
        let g := cut 1 g
        let ends (t : Text) (name : Text) (position : Nat) : Work Unit :=
          let lines := t.count '\n'
          let where' : Text :=
            if o.has 'l' then []
            else if isUnfinished t then ", in line ".toList ++ decimal (lines + 1)
            else ", line ".toList ++ decimal lines
          c.complain ("EOF on ".toList ++ name ++
            if position = 0 then " which is empty".toList
            else " after byte ".toList ++ decimal position ++ where')
        match difference f g with
        | .none => return 0
        | d =>
          if !o.has 's' then
            if o.has 'l' then c.print (listed (o.has 'b') f g)
            match d with
            | .byte n =>
              if !o.has 'l' then
                let bytes := match f[n]?, g[n]? with
                  | some x, some y =>
                    " is ".toList ++ padStart 3 ' ' (Mode.octal x.toNat) ++ [' '] ++ shownByte x ++
                      [' '] ++ padStart 3 ' ' (Mode.octal y.toNat) ++ [' '] ++ shownByte y
                  | _, _ => []
                let unit := if o.has 'b' then "byte" else "char"
                c.print (a ++ [' '] ++ b ++ " differ: ".toList ++ unit.toList ++ [' '] ++
                  decimal (n + 1) ++ ", line ".toList ++ decimal ((f.take n).count '\n' + 1) ++
                  (if o.has 'b' then bytes else []) ++ ['\n'])
              else if f.length ≠ g.length then
                let n := min f.length g.length
                if f.length < g.length then ends f a n else ends g b n
            | .length n true => ends f a n
            | .length n false => ends g b n
            | .none => pure ()
          return 1

/-! ## Line by line -/

/-- A step from one list of lines to another. -/
inductive Edit where
  | keep (old new : Text)
  | delete (l : Text)
  | insert (l : Text)
deriving DecidableEq, Repr

/-- The lengths of the longest common sublists of a list and the ends of another, given those for
the list without its first line. -/
def commonRow (same : Text → Bool) : List Text → List Nat → List Nat
  | b :: bs, n :: ns =>
    let row := commonRow same bs ns
    (if same b then (ns.head?.getD 0) + 1 else max n (row.head?.getD 0)) :: row
  | _, _ => [0]

/-- A shortest list of edits, from the table of the lengths. -/
def editsFrom (same : Text → Text → Bool) : (fuel : Nat) → List Text → List Text →
    List (List Nat) → List Edit
  | 0, _, _, _ => []
  | fuel + 1, as, bs, rows =>
    match as, bs with
    | [], bs => bs.map .insert
    | as, [] => as.map .delete
    | a :: as, b :: bs =>
      let below := rows.tail
      if same a b then .keep a b :: editsFrom same fuel as bs (below.map List.tail)
      else
        let delete := ((below.head?).bind List.head?).getD 0
        let insert := ((rows.head?).bind (·[1]?)).getD 0
        if insert ≤ delete then .delete a :: editsFrom same fuel as (b :: bs) below
        else .insert b :: editsFrom same fuel (a :: as) bs (rows.map List.tail)

/-- The edits between lists of lines. What both begin or end with is kept. -/
def edits (same : Text → Text → Bool) (as bs : List Text) : List Edit :=
  let start := ((as.zip bs).takeWhile fun (a, b) => same a b)
  let as := as.drop start.length
  let bs := bs.drop start.length
  let ending := ((as.reverse.zip bs.reverse).takeWhile fun (a, b) => same a b).reverse
  let as := as.take (as.length - ending.length)
  let bs := bs.take (bs.length - ending.length)
  let rows := as.foldr (fun a rows => commonRow (same a) bs ((rows.head?).getD []) :: rows)
    [List.replicate (bs.length + 1) 0]
  start.map (fun (a, b) => .keep a b) ++
    editsFrom same (as.length + bs.length + 1) as bs rows ++ ending.map fun (a, b) => .keep a b

/-- Changes that only add or only take away are moved as far down as they can be. -/
def settled (same : Text → Text → Bool) : (fuel : Nat) → List Edit → List Edit
  | 0, es => es
  | _ + 1, [] => []
  | fuel + 1, .insert l :: es =>
    let run := es.takeWhile (· matches .insert _)
    match es.drop run.length with
    | .keep a b :: rest =>
      if same l b then
        .keep a l :: settled same fuel (run ++ .insert b :: rest)
      else .insert l :: (run ++ settled same fuel (.keep a b :: rest))
    | rest => .insert l :: (run ++ settled same fuel rest)
  | fuel + 1, .delete l :: es =>
    let run := es.takeWhile (· matches .delete _)
    match es.drop run.length with
    | .keep a b :: rest =>
      if same l a then
        .keep l b :: settled same fuel (run ++ .delete a :: rest)
      else .delete l :: (run ++ settled same fuel (.keep a b :: rest))
    | .insert i :: rest =>
      let news := rest.takeWhile (· matches .insert _)
      .delete l :: (run ++ .insert i :: (news ++ settled same fuel (rest.drop news.length)))
    | rest => .delete l :: (run ++ settled same fuel rest)
  | fuel + 1, e :: es => e :: settled same fuel es

/-- Neighbouring changes: the lines before them in each list, what goes and what comes. -/
structure Hunk where
  first : Nat
  second : Nat
  gone : List Text := []
  come : List Text := []

def hunks (es : List Edit) : List Hunk :=
  let step (state : List Hunk × Option Hunk × Nat × Nat) (e : Edit) :
      List Hunk × Option Hunk × Nat × Nat :=
    let (done, current, m, n) := state
    let h := current.getD ⟨m, n, [], []⟩
    match e with
    | .keep _ _ => (current.toList ++ done, none, m + 1, n + 1)
    | .delete l => (done, some { h with gone := h.gone ++ [l] }, m + 1, n)
    | .insert l => (done, some { h with come := h.come ++ [l] }, m, n + 1)
  let (done, current, _, _) := es.foldl step ([], none, 0, 0)
  (current.toList ++ done).reverse

/-- A line as it is shown after a mark; the end that a last line lacks is noted. -/
def marked (mark l : Text) : Text :=
  mark ++ if l.getLast? = some '\n' then l else l ++ "\n\\ No newline at end of file\n".toList

def Hunk.shown (h : Hunk) : Text :=
  let range (start count : Nat) : Text :=
    if count = 0 then decimal start
    else if count = 1 then decimal (start + 1)
    else decimal (start + 1) ++ [','] ++ decimal (start + count)
  let kind := if h.gone.isEmpty then 'a' else if h.come.isEmpty then 'd' else 'c'
  range h.first h.gone.length ++ [kind] ++ range h.second h.come.length ++ ['\n'] ++
    h.gone.flatMap (marked ['<', ' ']) ++
    (if kind = 'c' then "---\n".toList else []) ++ h.come.flatMap (marked ['>', ' '])

/-- The commands of an editor that lead from one file to the other, last change first. -/
def script (hs : List Hunk) : Text :=
  hs.reverse.flatMap fun h =>
    let place := if h.gone.length < 2 then decimal (h.first + min h.gone.length 1)
      else decimal (h.first + 1) ++ [','] ++ decimal (h.first + h.gone.length)
    let text := h.come.flatten ++ ".\n".toList
    if h.gone.isEmpty then decimal h.first ++ "a\n".toList ++ text
    else if h.come.isEmpty then place ++ "d\n".toList
    else place ++ "c\n".toList ++ text

/-- Edits with lines around them. The counts of lines before it in each file stand with each. -/
structure Region where
  first : Nat
  second : Nat
  edits : List Edit

/-- Fall apart where more than twice `n` lines are kept. -/
def regions (n : Nat) (es : List Edit) : List Region :=
  let placed := (es.foldl (fun (done, i, j) e => match e with
    | .keep _ _ => ((i, j, e) :: done, i + 1, j + 1)
    | .delete _ => ((i, j, e) :: done, i + 1, j)
    | .insert _ => ((i, j, e) :: done, i, j + 1)) (([] : List (Nat × Nat × Edit)), 0, 0)).1.reverse
  let changed := (placed.zipIdx.filter fun ((_, _, e), _) => !(e matches .keep _ _)).map Prod.snd
  let ranges := changed.foldl (fun (rs : List (Nat × Nat)) k => match rs with
    | (a, b) :: rest => if k ≤ b + 2 * n + 1 then (a, k) :: rest else (k, k) :: rs
    | [] => [(k, k)]) []
  ranges.reverse.map fun (a, b) =>
    let start := a - n
    let piece := (placed.drop start).take (b + n + 1 - start)
    match piece with
    | [] => ⟨0, 0, []⟩
    | (i, j, _) :: _ => ⟨i, j, piece.map fun (_, _, e) => e⟩

def Region.oldCount (r : Region) : Nat := r.edits.countP fun e => !(e matches .insert _)

def Region.newCount (r : Region) : Nat := r.edits.countP fun e => !(e matches .delete _)

def Region.unified (r : Region) : Text :=
  let range (start count : Nat) : Text :=
    if count = 1 then decimal (start + 1)
    else decimal (if count = 0 then start else start + 1) ++ [','] ++ decimal count
  "@@ -".toList ++ range r.first r.oldCount ++ " +".toList ++ range r.second r.newCount ++
    " @@\n".toList ++ r.edits.flatMap fun
      | .keep l _ => marked [' '] l
      | .delete l => marked ['-'] l
      | .insert l => marked ['+'] l

def Region.contextual (r : Region) : Text :=
  let range (start count : Nat) : Text :=
    if count = 0 then decimal start
    else if count = 1 then decimal (start + 1)
    else decimal (start + 1) ++ [','] ++ decimal (start + count)
  -- Lines that go and lines that come at the same place are changed lines.
  let mixed (run : List Edit) : Bool :=
    run.any (· matches .insert _) && run.any (· matches .delete _)
  let runs : List (List Edit) := r.edits.foldr (fun e rs => match e, rs with
    | .keep a b, rs => [.keep a b] :: rs
    | e, (.keep a b :: run) :: rs => [e] :: (.keep a b :: run) :: rs
    | e, run :: rs => (e :: run) :: rs
    | e, [] => [[e]]) []
  let old := runs.flatMap fun run =>
    let mark : Text := if mixed run then ['!', ' '] else ['-', ' ']
    run.flatMap fun
      | .keep l _ => marked [' ', ' '] l
      | .delete l => marked mark l
      | .insert _ => []
  let new := runs.flatMap fun run =>
    let mark : Text := if mixed run then ['!', ' '] else ['+', ' ']
    run.flatMap fun
      | .keep _ l => marked [' ', ' '] l
      | .insert l => marked mark l
      | .delete _ => []
  "***************\n*** ".toList ++ range r.first r.oldCount ++ " ****\n".toList ++
    (if r.edits.any (· matches .delete _) then old else []) ++ "--- ".toList ++
    range r.second r.newCount ++ " ----\n".toList ++
    (if r.edits.any (· matches .insert _) then new else [])

/-- The lines of a text with their ends. -/
def fullLines (t : Text) : List Text :=
  let ls := t.splitOn '\n'
  (ls.dropLast.map (· ++ ['\n'])) ++ (ls.getLast?.filter (· ≠ [])).toList

/-- A line as far as its differences count. -/
def essence (o : Options) (l : Text) : Text :=
  let l := if o.has 'i' then l.map Char.toLower else l
  let isSpace (c : Char) : Bool := c == ' ' || ('\t' ≤ c && c ≤ '\r')
  let ended := l.getLast? = some '\n'
  let inner := if ended then l.dropLast else l
  let inner := if o.has 'Z' || o.has 'b' then Text.dropEndWhile isSpace inner else inner
  if o.has 'w' then l.filter (!isSpace ·)
  else if o.has 'b' then
    (inner.foldl (fun (t : Text) ch => if isSpace ch then
        if t.head? = some ' ' then t else ' ' :: t
      else ch :: t) []).reverse ++ if ended then ['\n'] else []
  else inner ++ if ended then ['\n'] else []

/-- Does a hunk only concern blank lines? -/
def isBlankHunk (o : Options) (h : Hunk) : Bool :=
  o.has 'B' && (h.gone ++ h.come).all fun l => essence o l = ['\n'] || l = ['\n']

/-- Two columns. -/
def sideBySide (es : List Edit) (suppress : Bool) (width : Nat) : Text :=
  let half := (width - 3) / 2
  let cell (t : Text) : Text :=
    let t := (Text.dropEndWhile (· = '\n') t).take half
    t ++ List.replicate (half - t.length) ' '
  let tabbed (t : Text) : Text := Text.dropEndWhile (· = ' ') t
  hunksOrKeeps es |>.flatMap fun
    | .inl (a, b) => if suppress then [] else tabbed (cell a ++ "   ".toList ++ (cell b)) ++ ['\n']
    | .inr h =>
      (List.range (max h.gone.length h.come.length)).flatMap fun k =>
        match h.gone[k]?, h.come[k]? with
        | some a, some b => tabbed (cell a ++ " | ".toList ++ cell b) ++ ['\n']
        | some a, none => tabbed (cell a ++ " <".toList) ++ ['\n']
        | none, some b => tabbed (cell [] ++ " > ".toList ++ cell b) ++ ['\n']
        | none, none => []
where
  hunksOrKeeps (es : List Edit) : List ((Text × Text) ⊕ Hunk) :=
    es.foldr (fun e rs => match e, rs with
      | .keep a b, rs => .inl (a, b) :: rs
      | .delete l, .inr h :: rs => .inr { h with gone := l :: h.gone } :: rs
      | .insert l, .inr h :: rs => .inr { h with come := l :: h.come } :: rs
      | .delete l, rs => .inr ⟨0, 0, [l], []⟩ :: rs
      | .insert l, rs => .inr ⟨0, 0, [], [l]⟩ :: rs) []

/-- The time of a file as it stands in the head of a comparison. -/
def stamp (c : Call) (file : Text) : Work Text := do
  let m ← get
  let time := ((m.disk.find c.place (path file)).toOption.map Node.time).getD m.clock
  return Calendar.write (Calendar.ofMicros time) "%Y-%m-%d %H:%M:%S.%N %z".toList

def wantsRegions? (o : Options) : Option (Bool × Nat) :=
  match (o.value? 'U').bind natural?, (o.value? 'C').bind natural? with
  | some n, _ => some (true, n)
  | none, some n => some (false, n)
  | none, none => if o.has 'u' then some (true, 3) else if o.has 'c' then some (false, 3) else none

/-- Compare two files that have been read; `head` is written before the first difference. -/
def compareTexts (c : Call) (o : Options) (head a b f g : Text) : Work Nat := do
  if f = g then
    if o.has 's' then
      c.print ("Files ".toList ++ a ++ " and ".toList ++ b ++ " are identical\n".toList)
    return 0
  else
    let same (x y : Text) : Bool := x = y || essence o x = essence o y
    let as := fullLines f
    let bs := fullLines g
    let es := settled same (2 * (as.length + bs.length) + 2) (edits same as bs)
    let hs := (hunks es).filter (!isBlankHunk o ·)
    if o.has 'y' then
      let width := ((o.value? 'W').bind natural?).getD 130
      c.print (head ++ sideBySide es (o.has '1') width)
      return if hs.isEmpty then 0 else 1
    else if hs.isEmpty then
      if o.has 's' then
        c.print ("Files ".toList ++ a ++ " and ".toList ++ b ++ " are identical\n".toList)
      return 0
    else if o.has 'q' then
      c.print ("Files ".toList ++ a ++ " and ".toList ++ b ++ " differ\n".toList)
      return 1
    else if f.contains '\x00' || g.contains '\x00' then
      c.print (head ++ "Binary files ".toList ++ a ++ " and ".toList ++ b ++ " differ\n".toList)
      return 2
    else
      match wantsRegions? o with
      | none =>
        c.print (head ++ if o.has 'e' then script hs else hs.flatMap Hunk.shown)
      | some (isUnified, n) =>
        let labels := (o.given.filter (·.1 = 'L')).map Prod.snd
        let title (k : Nat) (file : Text) : Work Text := do
          match labels[k]? with
          | some label => return label
          | none => return file ++ ['\t'] ++ (← stamp c file)
        let (x, y) := if isUnified then ("--- ", "+++ ") else ("*** ", "--- ")
        c.print (head ++ x.toList ++ (← title 0 a) ++ ['\n'] ++ y.toList ++ (← title 1 b) ++
          ['\n'] ++ (regions n es).flatMap fun r => if isUnified then r.unified else r.contextual)
      return 1

def diffRules : OptionRules where
  flags := "qswbBiruNcyeaZdtTlE1"
  valued := "UCLWxIF"
  long := [("brief", 'q'), ("report-identical-files", 's'), ("ignore-case", 'i'),
    ("ignore-all-space", 'w'), ("ignore-space-change", 'b'), ("ignore-blank-lines", 'B'),
    ("ignore-trailing-space", 'Z'), ("recursive", 'r'), ("new-file", 'N'), ("unified", 'u'),
    ("context", 'c'), ("side-by-side", 'y'), ("suppress-common-lines", '1'), ("ed", 'e'),
    ("label", 'L'), ("width", 'W'), ("text", 'a'), ("normal", 'n'), ("exclude", 'x')]

/-- Compare what stands at two paths; directories are compared name by name. -/
def comparePaths (c : Call) (o : Options) (shown : Text) : (depth : Nat) → (top : Bool) →
    Text → Text → Work Nat
  | 0, _, _, _ => return 0
  | depth + 1, top, a, b => do
    let d := (← get).disk
    let isDirectory (t : Text) : Bool := t ≠ ['-'] && d.isDirectory c.place (path t)
    if isDirectory a && isDirectory b then
      let names (t : Text) : List Text :=
        ((d.locate c.place (path t)).toOption.map fun s => d.children s.id).getD []
      let as := names a
      let bs := names b
      let all := (Text.sorted (as ++ bs.filter (!as.contains ·))).map Narrow.ofText
      all.foldlM (fun status name => do
        let inA := (as.map Narrow.ofText).contains name
        let inB := (bs.map Narrow.ofText).contains name
        let x := Files.joined a name
        let y := Files.joined b name
        if o.value? 'x' = some name then return status
        else if (inA && inB) || o.has 'N' then
          if isDirectory x && isDirectory y && !o.has 'r' then
            c.print ("Common subdirectories: ".toList ++ x ++ " and ".toList ++ y ++ ['\n'])
            return status
          else return max status (← comparePaths c o shown depth false x y)
        else
          let dir := if inA then a else b
          c.print ("Only in ".toList ++ dir ++ ": ".toList ++ name ++ ['\n'])
          return max status 1) 0
    else if top && isDirectory a && b ≠ ['-'] then
      comparePaths c o shown depth top (Files.joined a (Files.lastPart b)) b
    else if top && isDirectory b && a ≠ ['-'] then
      comparePaths c o shown depth top a (Files.joined b (Files.lastPart a))
    else if isDirectory a != isDirectory b then
      let kind (t : Text) : Text :=
        (((d.find c.place (path t)).toOption.map Files.kindOf).getD "regular file").toList
      c.print ("File ".toList ++ a ++ " is a ".toList ++ kind a ++ " while file ".toList ++ b ++
        " is a ".toList ++ kind b ++ ['\n'])
      return 1
    else
      let contents (t : Text) : Work (Except Fault Flow) := do
        match ← c.contents t with
        | .error .notFound => return if o.has 'N' then .ok {} else .error .notFound
        | r => return r
      match ← contents a, ← contents b with
      | .error fault, r =>
        c.complainPlainlyOf a fault
        match r with
        | .error fault => c.complainPlainlyOf b fault
        | .ok _ => pure ()
        return 2
      | _, .error fault =>
        c.complainPlainlyOf b fault
        return 2
      | .ok f, .ok g =>
        let head := if top then [] else shown ++ [' '] ++ a ++ [' '] ++ b ++ ['\n']
        compareTexts c o head a b f.text g.text

def diff (c : Call) : Work Nat :=
  c.withOptions diffRules 2 fun o => do
    match o.operands with
    | [a, b] =>
      let options := c.args.filter fun t => t ≠ a && t ≠ b
      comparePaths c o (List.intercalate [' '] (c.name :: options)) Disk.depthLimit true a b
    | [] => c.misuse ("missing operand after ".toList ++ quoted c.name) 2 true
    | [a] => c.misuse ("missing operand after ".toList ++ quoted a) 2 true
    | _ :: _ :: extra :: _ => c.misuse ("extra operand ".toList ++ quoted extra) 2 true

end GoRepl.Machine.Compare
