import GoRepl.TestBed.Command.Listing.Directory

/-! # Test bed: facts about paths

What is known of single files, where paths lead, and what directories take up. -/

namespace GoRepl.Machine.Listing

open Call (path reason quotedName)
open Files (joined each)

/-! ## Single files -/

/-- What a directive of `stat` stands for. -/
def fact (d : Disk) (id : NodeId) (n : Node) (name : Text) (c : Char) : Text :=
  let time := Calendar.write (Calendar.ofMicros n.time) "%Y-%m-%d %H:%M:%S.%N %z".toList
  match c with
  | 's' => decimal (size n)
  | 'n' => name
  | 'N' => quotedName name ++ (match n.content with
    | .link t => " -> ".toList ++ quotedName (Narrow.ofText t)
    | _ => [])
  | 'F' => (Files.kindOf n).toList
  | 'a' => Mode.octal n.mode
  | 'A' => Mode.letters (kindLetter n) n.mode
  | 'f' => Nat.toDigits 16 (n.mode + (match n.content with
    | .directory _ => 16384
    | .file _ => 32768
    | .link _ => 40960
    | .pipe => 4096
    | .device _ => 8192))
  | 'h' => decimal (linkCount d id)
  | 'i' => decimal id
  | 'u' | 'g' => decimal (ownerNumber n)
  | 'U' | 'G' => owner n
  | 'b' => decimal (blocks n)
  | 'B' => "512".toList
  | 'o' => "4096".toList
  | 'x' | 'y' | 'z' | 'w' => time
  | 'X' | 'Y' | 'Z' | 'W' => decimal (n.time.fdiv 1000000).toNat
  | 'd' => "1".toList
  | 't' | 'T' => ['0']
  | 'm' => ['/']
  | '%' => ['%']
  | c => ['?', c].take 1

/-- A form with directives, each of which may have flags and a width. -/
def filled (fact : Char → Text) : (fuel : Nat) → Text → Text
  | 0, _ => []
  | _, [] => []
  | fuel + 1, '%' :: t =>
    let flags := t.takeWhile ("-0#+ ".toList.contains ·)
    let rest := t.drop flags.length
    let width := rest.takeWhile Text.isDigit
    match rest.drop width.length with
    | [] => ['%']
    | c :: t =>
      let shown := fact c
      let n := Shell.Expression.ofDigits 10 width
      (if c = '%' then ['%']
        else if flags.contains '-' then shown ++ List.replicate (n - shown.length) ' '
        else padStart n (if flags.contains '0' then '0' else ' ') shown) ++ filled fact fuel t
  | fuel + 1, c :: t => c :: filled fact fuel t

/-- All that is known of a file, as it is shown if nothing else is asked for. -/
def fullForm : Text :=
  ("  File: %N\n  Size: %-10s\tBlocks: %-10b IO Block: %-6o %F\n" ++
    "Device: 8,1\tInode: %-11i Links: %h\nAccess: (%04a/%A)  Uid: (%5u/%8U)   Gid: (%5g/%8G)\n" ++
    "Access: %x\nModify: %y\nChange: %z\n Birth: %w").toList

/-- The same in numbers. -/
def briefForm : Text := "%n %s %b %f %u %g 801 %i %h %t %T %X %Y %Z %W %o".toList

def stat (c : Call) : Work Nat :=
  c.withOptions { flags := "Ltf", valued := "cP",
                  long := [("format", 'c'), ("printf", 'P'), ("dereference", 'L'),
                    ("terse", 't'), ("file-system", 'f')] } 1 fun o => do
    if o.operands.isEmpty then c.misuse "missing operand".toList
    else each o.operands fun t => do
      let d := (← get).disk
      match d.locateBy (o.has 'L') c.place (path t) with
      | .error fault =>
        c.fail ("cannot statx ".toList ++ quotedName t ++ ": ".toList ++ reason fault)
      | .ok s =>
        let n := (d.node? s.id).getD { content := .pipe }
        let fact (k : Char) : Text :=
          if k = 'N' && (o.value? 'c').isNone && (o.value? 'P').isNone && !n.isLink then t
          else fact d s.id n t k
        match o.value? 'P', o.value? 'c' with
        | some form, _ =>
          let shown := filled fact (form.length + 1) form
          c.print (unescape false (shown.length + 1) shown).1
        | none, form =>
          let form := form.getD (if o.has 't' then briefForm else fullForm)
          c.print (filled fact (form.length + 1) form ++ ['\n'])
        return 0

/-! ## Where paths lead -/

/-- Where steps lead; those that lead nowhere are taken by name. -/
def canonical (d : Disk) (strict : Bool) (missing : Bool) (directory : Place) (t : Text) :
    Except Fault Place := do
  let p := path t
  match d.locate directory p with
  | .ok s => return s.place
  | .error fault =>
    if strict || p = [] then throw fault
    else if missing then
      let origin := if Path.isAbsolute p then [] else directory
      return (Disk.steps p).foldl (fun place name =>
        if name = ['.'] then place
        else if name = ['.', '.'] then place.dropLast
        else match d.locate place name with
          | .ok s => s.place
          | .error _ => place ++ [name]) origin
    else
      let (above, name) ← d.locateLast true directory p
      if fault ≠ .notFound then throw fault
      return above.place ++ [name]

/-- The path of a file from the root, or from another directory. -/
def realpath (c : Call) : Work Nat :=
  c.withOptions { flags := "eELPmsqz", valued := "rb",
                  long := [("canonicalize-existing", 'e'), ("canonicalize-missing", 'm'),
                    ("no-symlinks", 's'), ("strip", 's'), ("quiet", 'q'), ("zero", 'z'),
                    ("relative-to", 'r'), ("relative-base", 'b')] } 1 fun o => do
    if o.operands.isEmpty then c.misuse "missing operand".toList
    else each o.operands fun t => do
      let d := (← get).disk
      match canonical d (o.has 'e') (o.has 'm' || o.has 's') c.place t with
      | .ok place =>
        let placeOf (t : Text) : Place := (canonical d false true c.place t).toOption.getD []
        let above := (o.value? 'b').map placeOf
        let isWithin (p : Place) : Bool := above.all fun a => a.isPrefixOf p
        let relativeTo (base : Text) : Text :=
          if isWithin place && isWithin (placeOf base) then Files.relative (placeOf base) place
          else Path.ofParts true place
        let shown := match o.value? 'r' <|> o.value? 'b' with
          | some base => relativeTo base
          | none => Path.ofParts true place
        c.print (Narrow.ofText shown ++ [if o.has 'z' then '\x00' else '\n'])
        return 0
      | .error fault =>
        if o.has 'q' then return 1
        else
          c.complainOf t fault
          return 1

/-- What a link holds, or where a path leads. -/
def readlink (c : Call) : Work Nat :=
  c.withOptions { flags := "femnqsvz", long := [("canonicalize", 'f'), ("no-newline", 'n'),
                  ("canonicalize-existing", 'e'), ("canonicalize-missing", 'm')] } 1 fun o => do
    if o.operands.isEmpty then c.misuse "missing operand".toList
    else each o.operands fun t => do
      let d := (← get).disk
      let ending : Text := if o.has 'n' && o.operands.length = 1 then []
        else if o.has 'z' then ['\x00'] else ['\n']
      let result := if o.has 'f' || o.has 'e' || o.has 'm' then
          (canonical d (o.has 'e') (o.has 'm') c.place t).map (Path.ofParts true)
        else match d.findBy false c.place (path t) with
          | .ok n => match n.content with
            | .link target => .ok target
            | _ => .error (.other "Invalid argument".toList)
          | .error fault => .error fault
      match result with
      | .ok shown =>
        c.print (Narrow.ofText shown ++ ending)
        return 0
      | .error fault =>
        if o.has 'v' then c.complainOf t fault
        return 1

/-- The blocks that directories take up. -/
def du (c : Call) : Work Nat :=
  c.withOptions { flags := "ashkbcmL", valued := "d",
                  long := [("max-depth", 'd'), ("summarize", 's'), ("all", 'a'), ("bytes", 'b'),
                    ("total", 'c'), ("apparent-size", 'A')] } 1 fun o => do
    let operands := if o.operands.isEmpty then [['.']] else o.operands
    each operands fun t => do
      let d := (← get).disk
      match d.locateBy false c.place (path t) with
      | .error fault =>
        c.fail ("cannot access ".toList ++ quotedName t ++ ": ".toList ++ reason fault)
      | .ok s =>
        let weight (id : NodeId) : Nat := match d.node? id with
          | some n => if o.has 'b' then size n else blocks n * 512
          | none => 0
        let total (id : NodeId) : Nat :=
          (d.below id).foldl (fun k (_, id) => k + weight id) (weight id)
        let shown (n : Nat) : Text :=
          if o.has 'b' then decimal n else if o.has 'h' then humanSize n else decimal (n / 1024)
        let limit := if o.has 's' then 0 else ((o.value? 'd').bind natural?).getD Disk.depthLimit
        let inner := (d.below s.id).filter fun (p, id) =>
          p.length ≤ limit && (o.has 'a' || (d.entries? id).isSome)
        let line (p : Place) (id : NodeId) : Text :=
          shown (total id) ++ ['\t'] ++ p.foldl (fun t n => joined t (Narrow.ofText n)) t ++ ['\n']
        -- What stands in a directory is told before the directory.
        c.print (inner.reverse.flatMap (fun (p, id) => line p id) ++ line [] s.id)
        return 0

end GoRepl.Machine.Listing
