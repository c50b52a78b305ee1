import GoRepl.TestBed.Command.Key
import GoRepl.TestBed.Command.Listing.Facts
import GoRepl.TestBed.Command.Listing.Layout
import GoRepl.TestBed.Pattern

/-! # Test bed: what stands in directories

The names in a directory, in the order and with the facts that options ask for. -/

namespace GoRepl.Machine.Listing

open Call (path reason quoted quotedName Choices choose)
open Files (joined)

/-! ## What is asked for -/

/-- What names are sorted by. -/
inductive Sorter where
  | nothing
  | name
  | time
  | size
  | ending
  | version
  | width
deriving DecidableEq

/-- Which kinds of files get a sign after their names. -/
inductive Marks where
  | nothing
  | directories
  | kinds
  | all
deriving DecidableEq

/-- How names are quoted. -/
inductive Quotation where
  | literal
  | escapes
  | doubleQuotes
  | singleQuotes
  | shell
  | shellAlways
deriving DecidableEq

/-- Which of the hidden names are shown. -/
inductive Hidden where
  | nothing
  | almostAll
  | all
deriving DecidableEq

/-- How files are listed. -/
structure View where
  layout : Layout := .single
  sorter : Option Sorter := none
  /-- Is there a time that is asked for? -/
  asksTime : Bool := false
  reversed : Bool := false
  directoriesFirst : Bool := false
  hidden : Hidden := .nothing
  marks : Marks := .nothing
  quotation : Quotation := .literal
  /-- The base of the units of sizes, if they are shown in units. -/
  unit : Option Nat := none
  /-- The number of bytes that a block stands for. -/
  block : Nat := 1024
  owner : Bool := true
  group : Bool := true
  author : Bool := false
  /-- The forms of recent times and of others. -/
  times : Text × Text := ("%b %e %H:%M".toList, "%b %e  %Y".toList)
  line : Nat := 80
  tab : Nat := 8
  ending : Char := '\n'

namespace View

def layoutWords : Choices Layout :=
  [(["verbose", "long"], .long), (["commas"], .commas), (["horizontal", "across"], .across),
   (["vertical"], .down), (["single-column"], .single)]

def sorterWords : Choices Sorter :=
  [(["none"], .nothing), (["time"], .time), (["size"], .size), (["extension"], .ending),
   (["version"], .version), (["width"], .width)]

def timeWords : Choices Unit :=
  [(["atime", "access", "use"], ()), (["ctime", "status"], ()),
   (["mtime", "modification"], ()), (["birth", "creation"], ())]

def markWords : Choices Marks :=
  [(["none"], .nothing), (["slash"], .directories), (["file-type"], .kinds), (["classify"], .all)]

def whenWords : Choices Bool :=
  [(["always", "yes", "force"], true), (["never", "no", "none"], false),
   (["auto", "tty", "if-tty"], false)]

def quotationWords : Choices Quotation :=
  [(["literal"], .literal), (["shell"], .shell), (["shell-always"], .shellAlways),
   (["shell-escape"], .shell), (["shell-escape-always"], .shellAlways), (["c"], .doubleQuotes),
   (["c-maybe"], .doubleQuotes), (["escape"], .escapes), (["locale"], .singleQuotes),
   (["clocale"], .doubleQuotes)]

def fullTime : Text := "%Y-%m-%d %H:%M:%S.%N %z".toList

/-- The forms of recent times and of others that a style stands for. -/
def timesOf (style : Text) : Except Text (Text × Text) :=
  match style with
  | '+' :: form =>
    return match Text.cutAt? '\n' form with
      | some (others, recent) => (recent, others)
      | none => (form, form)
  | style =>
    let standard := (({} : View).times)
    -- Styles that are for other places than the standard one do not count.
    if "posix-".toList.isPrefixOf style then return standard
    else match String.ofList style with
      | "full-iso" => return (fullTime, fullTime)
      | "long-iso" => return ("%Y-%m-%d %H:%M".toList, "%Y-%m-%d %H:%M".toList)
      | "iso" => return ("%m-%d %H:%M".toList, "%Y-%m-%d ".toList)
      | "locale" => return standard
      | _ =>
        let styles := ["[posix-]full-iso", "[posix-]long-iso", "[posix-]iso", "[posix-]locale",
          "+FORMAT (e.g., +%H:%M) for a 'date'-style format"]
        throw ("invalid argument ".toList ++ quoted style ++
          " for 'time style'\nValid arguments are:".toList ++
          styles.flatMap fun s => "\n  - ".toList ++ s.toList)

/-- Take a word that is given to an option into account. -/
def addWord (v : View) : Char × Text → Except Text View
  | ('=', t) => return { v with layout := ← choose "--format" layoutWords t }
  | ('@', t) => return { v with sorter := some (← choose "--sort" sorterWords t) }
  | ('%', t) => do
    choose "--time" timeWords t
    return { v with asksTime := true }
  | (';', t) => return { v with marks := ← choose "--indicator-style" markWords t }
  | (':', t) => return { v with quotation := ← choose "--quoting-style" quotationWords t }
  | ('~', t) => do
    let _ ← if t = [] then pure true else choose "--color" whenWords t
    return v
  | ('^', t) => do
    let _ ← if t = [] then pure true else choose "--hyperlink" whenWords t
    return v
  | ('F', t) =>
    if t = [] then return { v with marks := .all }
    else return if ← choose "--classify" whenWords t then { v with marks := .all } else v
  | ('+', t) => return { v with times := ← timesOf t }
  | _ => return v

/-- Take a number that is given to an option into account. -/
def addNumber (v : View) : Char × Text → Except Text View
  | ('w', t) =>
    match natural? t with
    | some n => return { v with line := n }
    | none => throw ("invalid line width: ".toList ++ quoted t)
  | ('T', t) =>
    match natural? t with
    | some n => return { v with tab := n }
    | none => throw ("invalid tab size: ".toList ++ quoted t)
  | ('!', t) =>
    let unit (base : Nat) : View := { v with unit := some base }
    let digits := t.takeWhile Text.isDigit
    let power := match t.drop digits.length with
      | [] => some 1
      | ['K'] | ['k'] => some 1024
      | ['M'] => some (1024 * 1024)
      | ['G'] => some (1024 * 1024 * 1024)
      | _ => none
    if t = "human-readable".toList then return unit 1024
    else if t = "si".toList then return unit 1000
    else match power with
      | some power =>
        let n := (natural? digits).getD 1 * power
        if t = [] || n = 0 then throw ("invalid --block-size argument ".toList ++ quoted t)
        else return { v with block := n, unit := none }
      | none => throw ("invalid --block-size argument ".toList ++ quoted t)
  | _ => return v

/-- Take an option without a value into account. -/
def addLetter (v : View) (c : Char) : View :=
  match c with
  | 'l' | 'n' => { v with layout := .long }
  | 'g' => { v with layout := .long, owner := false }
  | 'o' => { v with layout := .long, group := false }
  | 'G' => { v with group := false }
  | '*' => { v with author := true }
  | '/' => { v with layout := .long, times := (fullTime, fullTime) }
  | 'C' => { v with layout := .down }
  | 'x' => { v with layout := .across }
  | 'm' => { v with layout := .commas }
  | '1' => if v.layout = .long then v else { v with layout := .single }
  | '0' => { v with layout := if v.layout = .long then .long else .single,
                    quotation := .literal, ending := '\x00' }
  | 'f' => { v with layout := if v.layout = .long then .single else v.layout, hidden := .all,
                    sorter := some .nothing }
  | 'a' => { v with hidden := .all }
  | 'A' => if v.hidden = .all then v else { v with hidden := .almostAll }
  | 'U' => { v with sorter := some .nothing }
  | 't' => { v with sorter := some .time }
  | 'S' => { v with sorter := some .size }
  | 'X' => { v with sorter := some .ending }
  | 'v' => { v with sorter := some .version }
  | 'c' | 'u' => { v with asksTime := true }
  | 'r' => { v with reversed := true }
  | '>' => { v with directoriesFirst := true }
  | 'p' => { v with marks := .directories }
  | '&' => { v with marks := .kinds }
  | 'Q' => { v with quotation := .doubleQuotes }
  | 'b' => { v with quotation := .escapes }
  | 'N' => { v with quotation := .literal }
  | 'h' => { v with unit := some 1024 }
  | '<' => { v with unit := some 1000 }
  | _ => v

/-- What names are sorted by if nothing else is asked for. -/
def chosenSorter (v : View) : Sorter :=
  v.sorter.getD (if v.asksTime && v.layout ≠ .long then .time else .name)

end View

/-! ## Files -/

/-- A file with the name under which it is shown. -/
structure Entry where
  shown : Text
  id : NodeId
  node : Node
  /-- What a link leads to, if the file is one that leads somewhere. -/
  target : Option Node := none

/-- Is a file a directory or a link to one? -/
def Entry.leadsToDirectory (e : Entry) : Bool := (e.target.getD e.node).isDirectory

/-- Does one file come before another one? -/
def View.order (v : View) (a b : Entry) : Ordering :=
  let ending (e : Entry) : Text := match Text.cutAtLast? (· = '.') e.shown with
    | some (_, ending) => '.' :: ending
    | none => []
  let order := match v.chosenSorter with
    | .nothing | .name => Ordering.eq
    | .time => compare b.node.time a.node.time
    | .size => compare (size b.node) (size a.node)
    | .ending => Order.compareTexts (ending a) (ending b)
    | .version => Order.compareVersions a.shown b.shown
    | .width => compare a.shown.length b.shown.length
  let order := order.then (Order.compareTexts a.shown b.shown)
  if v.reversed then order.swap else order

/-- Files in the order that is asked for. -/
def View.ordered (v : View) (es : List Entry) : List Entry :=
  let es := if v.chosenSorter = .nothing then es else es.mergeSort fun a b => v.order a b ≠ .gt
  if v.directoriesFirst then
    es.filter Entry.leadsToDirectory ++ es.filter (!·.leadsToDirectory)
  else es

/-- The sign of a kind of file after its name. -/
def View.mark (v : View) (n : Node) : Text :=
  match n.content with
  | .directory _ => if v.marks = .nothing then [] else ['/']
  | .link _ => if v.marks = .kinds || v.marks = .all then ['@'] else []
  | .pipe => if v.marks = .kinds || v.marks = .all then ['|'] else []
  | .file _ => if v.marks = .all && n.allows 1 then ['*'] else []
  | _ => []

/-- A name as it is quoted. -/
def View.quote (v : View) (t : Text) : Text :=
  let escaped (special : List Char) : Text := t.flatMap fun c =>
    if c = '\\' || special.contains c then ['\\', c] else (Call.escaped? c).getD [c]
  match v.quotation with
  | .literal => t
  | .escapes => escaped [' ']
  | .doubleQuotes => ['"'] ++ escaped ['"'] ++ ['"']
  | .singleQuotes => quoted t
  | .shell => Call.shownName t
  | .shellAlways => quotedName t

/-- A name with what is shown after it. -/
def View.cell (v : View) (t after : Text) : Cell :=
  let shown := v.quote t ++ after
  ⟨shown, shown.length⟩

/-- A number of bytes in blocks or in the units that are asked for. -/
def View.inBlocks (v : View) (n : Nat) : Text :=
  match v.unit with
  | some base => humanSize n base
  | none => decimal ((n + v.block - 1) / v.block)

/-- The lines that tell all about some files. -/
def longLines (now : Int) (d : Disk) (o : Options) (v : View) (es : List Entry) : List Cell :=
  let sizeOf (e : Entry) : Text := match v.unit with
    | some base => humanSize (size e.node) base
    | none => if v.block = 1024 then decimal (size e.node) else v.inBlocks (size e.node)
  let user (e : Entry) : Text :=
    if o.has 'n' then decimal (ownerNumber e.node) else owner e.node
  let padEnd (n : Nat) (t : Text) : Text := t ++ List.replicate (n - t.length) ' '
  let width (f : Entry → Text) : Nat := (es.map fun e => (f e).length).foldl max 0
  let links (e : Entry) : Text := decimal (linkCount d e.id)
  let users := (if v.owner then 1 else 0) + (if v.group then 1 else 0) +
    if v.author then 1 else 0
  es.map fun e =>
    let age := now - e.node.time
    let isRecent := decide (0 ≤ age) && decide (age < 15778476000000)
    let form := if isRecent then v.times.1 else v.times.2
    let target := match e.node.content with
      | .link t =>
        " -> ".toList ++ v.quote (Narrow.ofText t) ++ (e.target.map v.mark).getD []
      | _ => v.mark e.node
    let name := v.cell e.shown target
    ⟨Mode.letters (kindLetter e.node) e.node.mode ++ [' '] ++
      padStart (width links) ' ' (links e) ++ [' '] ++
      (List.replicate users (padEnd (width user) (user e) ++ [' '])).flatten ++
      padStart (width sizeOf) ' ' (sizeOf e) ++ [' '] ++
      Calendar.write (Calendar.ofMicros e.node.time) form ++ [' '] ++ name.text, name.width⟩

/-- Some files as they are shown. -/
def shownEntries (now : Int) (d : Disk) (o : Options) (v : View) (es : List Entry) : Text :=
  let es := v.ordered es
  let cells := if v.layout = .long then longLines now d o v es
    else es.map fun e => v.cell e.shown (v.mark e.node)
  -- A number before each name, in a column of its own unless names follow one another.
  let numbered (asked : Bool) (number : Entry → Text) (cells : List Cell) : List Cell :=
    if asked then
      let width := if v.layout = .commas then 0
        else (es.map fun e => (number e).length).foldl max 0
      (cells.zip es).map fun (cell, e) =>
        let n := padStart width ' ' (number e) ++ [' ']
        ⟨n ++ cell.text, n.length + cell.width⟩
    else cells
  let cells := numbered (o.has 's') (fun e => v.inBlocks (blocks e.node * 512)) cells
  let cells := numbered (o.has 'i') (fun e => decimal e.id) cells
  v.layout.render v.line v.tab v.ending cells

/-! ## Directories -/

/-- A file in a directory. -/
def entryOf (c : Call) (d : Disk) (name n : Text) (id : NodeId) : Option Entry :=
  (d.node? id).map fun node =>
    let target := if node.isLink then (d.find c.place (path (joined name n))).toOption else none
    ⟨n, id, node, target⟩

/-- The files in a directory that are shown. -/
def entriesOf (c : Call) (d : Disk) (o : Options) (v : View) (name : Text) (id : NodeId) :
    List Entry :=
  let names := ((d.entries? id).getD .empty).entries
  let isAny (k : Char) (n : Text) : Bool :=
    o.given.any fun (k', p) => k' = k && Glob.matches? (p.map (⟨·, false⟩)) n
  let shown := names.filterMap fun (n, id) =>
    let n := Narrow.ofText n
    let isHidden := v.hidden = .nothing && (n.head? = some '.' || isAny ',' n)
    let isBackup := o.has 'B' && n.getLast? = some '~'
    let followed (id : NodeId) : NodeId :=
      ((d.locateBy true c.place (path (joined name n))).map (·.id)).toOption.getD id
    if isHidden || isBackup || isAny 'I' n then none
    else entryOf c d name n (if o.has 'L' then followed id else id)
  let dots : List Text := if v.hidden = .all then [['.'], ['.', '.']] else []
  let above := ((d.locate c.place (path (joined name ['.', '.']))).map (·.id)).toOption.getD id
  (dots.filter (!isAny 'I' ·)).filterMap (fun n =>
    entryOf c d name n (if n = ['.'] then id else above)) ++ shown

/-- Does it take more than the names to list files? -/
def View.needsFacts (v : View) (o : Options) : Bool :=
  v.layout = .long || v.chosenSorter = .time || v.chosenSorter = .size || v.directoriesFirst ||
    v.marks ≠ .nothing || o.has 's' || o.has 'R'

/-- The contents of a directory, and of those in it if that is asked for. -/
def listDirectory (c : Call) (o : Options) (v : View) : (depth : Nat) → (head : Text) →
    (id : NodeId) → (name : Text) → Work Nat
  | 0, _, _, _ => return 0
  | depth + 1, head, id, name => do
    let m ← get
    let d := m.disk
    if !d.allows id 4 then
      c.fail ("cannot open directory ".toList ++ quotedName name ++ ": ".toList ++
        reason .permissionDenied) (if depth + 1 = Disk.depthLimit then 2 else 1)
    else
      let es := entriesOf c d o v name id
      let broken := if o.has 'L' && v.needsFacts o then es.filter (·.node.isLink) else []
      for e in broken do
        c.complain ("cannot access ".toList ++ quotedName
          (if name = ['.'] then e.shown else joined name e.shown) ++ ": ".toList ++
          reason .notFound)
      let status := if broken.isEmpty then 0 else 1
      let total := if v.layout = .long || o.has 's' then
          let n := (es.map fun e => blocks e.node).foldl (· + ·) 0 * 512
          "total ".toList ++ v.inBlocks n ++ [v.ending]
        else []
      c.print (head ++ total ++ shownEntries m.clock d o v es)
      if o.has 'R' then
        let isInner (e : Entry) : Bool :=
          e.node.isDirectory && e.shown ≠ ['.'] && e.shown ≠ ['.', '.']
        ((v.ordered es).filter isInner).foldlM (fun status e => do
          let name := joined name e.shown
          return max status
            (← listDirectory c o v depth (['\n'] ++ v.quote name ++ ":\n".toList) e.id name)) status
      else return status

/-- List the operands: first those that are no directories, and then what the others hold. -/
def list (c : Call) (o : Options) (v : View) : Work Nat := do
  let m ← get
  let d := m.disk
  let operands := if o.operands.isEmpty then [['.']] else o.operands
  let follows := o.has 'L' || o.has 'H' ||
    !(v.layout = .long || o.has 'd' || v.marks = .all)
  let found ← operands.filterMapM fun t => do
    let target := d.locateBy true c.place (path t)
    let itself := d.locateBy false c.place (path t)
    -- Only links to directories are followed if nothing is said about links.
    let followed := match target with
      | .ok s => o.has 'L' || o.has 'H' || (d.entries? s.id).isSome
      | .error _ => false
    match if follows && followed then target else if o.has 'L' then target else itself with
    | .ok s =>
      return (d.node? s.id).map fun n =>
        ⟨t, s.id, n, target.toOption.bind fun s => d.node? s.id⟩
    | .error fault =>
      c.complain ("cannot access ".toList ++ quotedName t ++ ": ".toList ++ reason fault)
      return none
  let isListed (e : Entry) : Bool := e.node.isDirectory && !o.has 'd'
  let files := found.filter (!isListed ·)
  c.print (shownEntries m.clock d o v files)
  let headed := operands.length > 1 || o.has 'R'
  let (_, status) ← (v.ordered (found.filter isListed)).foldlM (fun (isFirst, status) e => do
    let head := if headed then
        (if isFirst then [] else ['\n']) ++ v.quote e.shown ++ ":\n".toList
      else []
    return (false, max status (← listDirectory c o v Disk.depthLimit head e.id e.shown)))
    (files.isEmpty, 0)
  return if found.length = operands.length then status else 2

def listRules : OptionRules where
  flags := "1aAbBcCdDfFgGhHiklLmnNopqQrRsStuUvxXZ*/></0&|?"
  valued := "IwT=@%:+,;!"
  optional := "~^F"
  long := [("all", 'a'), ("almost-all", 'A'), ("author", '*'), ("escape", 'b'),
    ("block-size", '!'), ("ignore-backups", 'B'), ("color", '~'), ("directory", 'd'),
    ("dired", 'D'), ("classify", 'F'), ("file-type", '&'), ("format", '='), ("full-time", '/'),
    ("group-directories-first", '>'), ("no-group", 'G'), ("human-readable", 'h'), ("si", '<'),
    ("dereference-command-line", 'H'), ("dereference-command-line-symlink-to-dir", '|'),
    ("hide", ','), ("hyperlink", '^'), ("indicator-style", ';'), ("inode", 'i'), ("ignore", 'I'),
    ("kibibytes", 'k'), ("dereference", 'L'), ("numeric-uid-gid", 'n'), ("literal", 'N'),
    ("hide-control-chars", 'q'), ("show-control-chars", '?'), ("quote-name", 'Q'),
    ("quoting-style", ':'), ("reverse", 'r'), ("recursive", 'R'), ("size", 's'), ("sort", '@'),
    ("time", '%'), ("time-style", '+'), ("tabsize", 'T'), ("width", 'w'), ("context", 'Z'),
    ("zero", '0')]

def ls (c : Call) : Work Nat :=
  c.withOptions listRules 2 fun o =>
    let words := o.given.foldlM (fun v given => do
      return (← v.addWord given).addLetter given.1) ({} : View)
    match words with
    | .error message =>
      c.misuse message (if (o.value? '+').any fun t => !(View.timesOf t).isOk then 2 else 1)
    | .ok v =>
      match o.given.foldlM View.addNumber v with
      | .error message => c.fail message 2
      | .ok v => list c o v

end GoRepl.Machine.Listing
