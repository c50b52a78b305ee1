import GoRepl.TestBed.Calendar
import GoRepl.TestBed.Command.Basic
import GoRepl.TestBed.Command.Mode
import GoRepl.TestBed.Command.Quantity

/-! # Test bed: commands on files

Commands that make, copy, move, link and remove what stands on the disk. -/

namespace GoRepl.Machine.Files

open Call (path reason quoted quotedName)

/-- The last part of a path. -/
def lastPart (t : Text) : Text :=
  let trimmed := Text.dropEndWhile (· == '/') t
  if trimmed = [] then t.take 1 else (trimmed.reverse.takeWhile (· != '/')).reverse

def joined (directory name : Text) : Text :=
  if directory.getLast? = some '/' then directory ++ name else directory ++ ['/'] ++ name

/-- A path from one directory to another place. -/
def relative (directory target : Place) : Text :=
  let common := ((directory.zip target).takeWhile fun (a, b) => a = b).length
  let steps := List.replicate (directory.length - common) ['.', '.'] ++ target.drop common
  if steps.isEmpty then ['.'] else List.intercalate ['/'] steps

/-- Work on each operand; the status is the highest one. -/
def each (operands : List Text) (work : Text → Work Nat) : Work Nat :=
  operands.foldlM (fun status t => do return max status (← work t)) 0

/-- Report on a change that may have been impossible. -/
def attempt (c : Call) (change : Disk → Except Fault Disk) (failure : Text) : Work Nat := do
  match ← Call.alter change with
  | .ok () => return 0
  | .error fault => c.fail (failure ++ ": ".toList ++ reason fault)

/-! ## Making -/

/-- The mode that an option asks for, or a message that there is none. -/
def givenMode (c : Call) (o : Options) (standard : Nat) : Except Text Nat :=
  match o.value? 'm' with
  | none => .ok (masked standard c.umask)
  | some t =>
    match Mode.altered? c.umask true standard t with
    | some mode => .ok mode
    | none => .error ("invalid mode ".toList ++ quoted t)

def mkdir (c : Call) : Work Nat :=
  c.withOptions { flags := "pv", valued := "m",
                  long := [("parents", 'p'), ("mode", 'm'), ("verbose", 'v')] } 1 fun o => do
    match givenMode c o 511 with
    | .error message => c.fail message
    | .ok mode =>
      if o.operands.isEmpty then c.misuse "missing operand".toList
      else each o.operands fun t => do
        let failure := "cannot create directory ".toList ++ quotedName t
        let told (t : Text) : Work Unit := do
          if o.has 'v' then c.print ("mkdir: created directory ".toList ++ quotedName t ++ ['\n'])
        let trimmed := Text.dropEndWhile (· == '/') t
        let t := if trimmed = [] then t else trimmed
        if o.has 'p' then
          let before := (← get).disk
          let (result, disk) := before.createDirectories c.place (path t) c.directoryMode
          let disk := match before.exists? c.place (path t), disk.locate c.place (path t) with
            | false, .ok s => disk.alter s.id ({ · with mode })
            | _, _ => disk
          modify ({ · with disk })
          match result with
          | .ok () =>
            for k in List.range (t.length + 1) do
              let piece := t.take k
              if piece ≠ [] && (k = t.length || t[k]? = some '/') &&
                  !before.exists? c.place (path piece) then told piece
            return 0
          | .error fault =>
            -- The first part of the path that is no directory stands in the way.
            let parts := (List.range t.length).filterMap fun k =>
              if 0 < k && t[k]? = some '/' then some (t.take k) else none
            let first := parts.find? fun p => !disk.isDirectory c.place (path p)
            c.fail ("cannot create directory ".toList ++ quotedName (first.getD t) ++
              ": ".toList ++ reason fault)
        else
          let status ← attempt c (·.makeDirectory c.place (path t) mode) failure
          if status = 0 then told t
          return status

def mkfifo (c : Call) : Work Nat :=
  c.withOptions { flags := "", valued := "m", long := [("mode", 'm')] } 1 fun o => do
    match givenMode c o 438 with
    | .error message => c.fail message
    | .ok mode =>
      if o.operands.isEmpty then c.misuse "missing operand".toList
      else each o.operands fun t => do
        attempt c (·.makeAt c.place (path t) { content := .pipe, mode })
          ("cannot create fifo ".toList ++ quotedName t)

/-- The time that options ask for. -/
def givenTime (c : Call) (o : Options) : Work (Except Text Int) := do
  let m ← get
  match o.value? 'r', o.value? 'd', o.value? 't' with
  | some file, _, _ =>
    match m.disk.find c.place (path file) with
    | .ok n => return .ok n.time
    | .error fault =>
      return .error ("failed to get attributes of ".toList ++ quotedName file ++ ": ".toList ++
        reason fault)
  | _, some t, _ =>
    match Calendar.read? m.clock t with
    | some time => return .ok time
    | none => return .error ("invalid date format ".toList ++ quoted t)
  | _, _, some t =>
    match Calendar.ofDigits? m.clock t with
    | some time => return .ok time
    | none => return .error ("invalid date format ".toList ++ quoted t)
  | _, _, _ => return .ok m.clock

/-- The times that a word names: those of access or those of change. -/
def timeWords : Call.Choices Char :=
  [(["atime", "access", "use"], 'a'), (["mtime", "modify"], 'm')]

def touch (c : Call) : Work Nat :=
  c.withOptions { flags := "acmfh", valued := "dtrw",
                  long := [("no-create", 'c'), ("date", 'd'), ("reference", 'r'), ("time", 'w'),
                    ("no-dereference", 'h')] } 1 fun o => do
    let asked := o.given.mapM fun (k, t) =>
      if k = 'w' then Call.choose "--time" timeWords t else return k
    match asked with
    | .error message => c.misuse message
    | .ok letters =>
      if o.operands.isEmpty then c.misuse "missing file operand".toList
      else match ← givenTime c o with
        | .error message => c.fail message
        | .ok time =>
          each o.operands fun t => do
            let d := (← get).disk
            let unset (fault : Fault) : Work Nat :=
              c.fail ("setting times of ".toList ++ quotedName t ++ ": ".toList ++ reason fault)
            match d.locateBy (!o.has 'h') c.place (path t) with
            | .ok s =>
              let n := d.node? s.id
              if n.any Node.foreign then
                if o.has 'c' || n.any Node.isDirectory then
                  unset (if ['d', 't', 'r'].any o.has then .notPermitted else .permissionDenied)
                else
                  c.fail ("cannot touch ".toList ++ quotedName t ++ ": ".toList ++
                    reason .permissionDenied)
              else
                if !letters.contains 'a' || letters.contains 'm' then
                  modify fun m => { m with disk := m.disk.alter s.id ({ · with time }) }
                return 0
            | .error fault =>
              if o.has 'c' then (if fault = .notFound then return 0 else unset fault)
              else match d.openForWriting c.place (path t) false c.fileMode with
                | .error .isDirectory => unset fault
                | .error fault =>
                  c.fail ("cannot touch ".toList ++ quotedName t ++ ": ".toList ++ reason fault)
                | .ok (d, id) =>
                  modify ({ · with disk := d.alter id ({ · with time }) })
                  return 0

/-! ## Sizes -/

/-- How the size of a file is to change. -/
inductive Resize where
  | exactly
  | grow
  | shrink
  | atMost
  | atLeast
  | roundDown
  | roundUp
deriving DecidableEq

/-- The new size of a file. -/
def Resize.size (r : Resize) (old n : Nat) : Nat :=
  match r with
  | .exactly => n
  | .grow => old + n
  | .shrink => old - n
  | .atMost => min old n
  | .atLeast => max old n
  | .roundDown => old / n * n
  | .roundUp => (old + n - 1) / n * n

/-- The largest size that a file can be given. -/
def sizeLimit : Nat := 16777216

/-- How a size is asked for, or a complaint and whether the use of the command is to be shown. -/
def resizing (t : Text) : Except (Text × Bool) (Resize × Nat) := do
  let t := Shell.Expression.blank t
  let (limit, t) := match t with
    | '<' :: t => (some Resize.atMost, t)
    | '>' :: t => (some .atLeast, t)
    | '/' :: t => (some .roundDown, t)
    | '%' :: t => (some .roundUp, t)
    | t => (none, t)
  let t := Shell.Expression.blank t
  let (sign, digits) := match t with
    | '+' :: rest => (some Resize.grow, rest)
    | '-' :: rest => (some .shrink, rest)
    | t => (none, t)
  if limit.isSome && sign.isSome then
    throw ("multiple relative modifiers specified".toList, true)
  let unit := digits.dropWhile Text.isDigit
  let known := unit.map fun c => if c = 'g' then 'G' else if c = 't' then 'T' else c
  let number := Quantity.read (digits.takeWhile Text.isDigit ++ known)
  match number with
  | .error fault =>
    throw ("Invalid number: ".toList ++ quoted t ++
      (if fault = .tooLarge then ": Value too large for defined data type".toList else []), false)
  | .ok n =>
    if unit = ['b'] || digits.head?.any (fun c => c = '+' || c = ' ') then
      throw ("Invalid number: ".toList ++ quoted t, false)
    if n = 0 && (limit = some .roundDown || limit = some .roundUp) then
      throw ("division by zero".toList, false)
    return ((limit <|> sign).getD .exactly, n)

def truncate (c : Call) : Work Nat :=
  c.withOptions { flags := "co", valued := "sr",
                  long := [("size", 's'), ("reference", 'r'), ("no-create", 'c'),
                    ("io-blocks", 'o')] } 1 fun o => do
    let size := (o.value? 's').map resizing
    match size, o.value? 'r' with
    | some (.error (message, true)), _ => c.misuse message
    | some (.error (message, false)), _ => c.fail message
    | none, none => c.misuse "you must specify either '--size' or '--reference'".toList
    | some (.ok (.exactly, _)), some _ =>
      c.misuse "you must specify a relative '--size' with '--reference'".toList
    | size, like =>
      if o.has 'o' && size.isNone then
        c.misuse "'--io-blocks' was specified but '--size' was not".toList
      else if o.operands.isEmpty then c.misuse "missing file operand".toList
      else
        let d := (← get).disk
        match like.map fun t => (t, d.find c.place (path t)) with
        | some (t, .error fault) =>
          c.fail ("cannot stat ".toList ++ quotedName t ++ ": ".toList ++ reason fault)
        | found =>
          let base := found.bind fun (_, n) => n.toOption.map fun n => n.bytes.length
          each o.operands fun t => do
            let failure := "cannot open ".toList ++ quotedName t ++ " for writing".toList
            let d := (← get).disk
            if o.has 'c' && !d.exists? c.place (path t) then return 0
            match d.openForWriting c.place (path t) false c.fileMode with
            | .error fault => c.fail (failure ++ ": ".toList ++ reason fault)
            | .ok (d, id) =>
              let old := ((d.node? id).map Node.bytes).getD []
              let asked := match size with
                | some (.ok (r, n)) => r.size (base.getD old.length) n
                | _ => base.getD 0
              if sizeLimit < asked then
                modify ({ · with disk := d })
                c.fail ("failed to truncate ".toList ++ quotedName t ++ " at ".toList ++
                  decimal asked ++ " bytes: File too large".toList)
              else
                let new := old.take asked ++ List.replicate (asked - old.length) 0
                modify ({ · with disk := d.setContents id new })
                return 0

/-! ## Removing -/

def rmdir (c : Call) : Work Nat :=
  c.withOptions { flags := "pvi", long := [("parents", 'p'), ("verbose", 'v'),
                  ("ignore-fail-on-non-empty", 'i')] } 1 fun o => do
    if o.operands.isEmpty then c.misuse "missing operand".toList
    else each o.operands fun t => do
      let above := if o.has 'p' then
          (List.range t.length).reverse.filterMap fun k =>
            if t[k]? = some '/' && 0 < k then some (t.take k) else none
        else []
      (t :: above).foldlM (fun status t => do
        if status ≠ 0 then return status
        if o.has 'v' then c.print ("rmdir: removing directory, ".toList ++ quotedName t ++ ['\n'])
        let change (d : Disk) : Except Fault Disk := do
          let s ← d.locateBy false c.place (path t)
          match d.entries? s.id with
          | none => throw .notDirectory
          | some entries =>
            if Disk.isDots (lastPart t) then throw (.other "Invalid argument".toList)
            if !entries.entries.isEmpty then throw .notEmpty
            d.remove c.place (path t)
        match ← Call.alter change with
        | .ok () => return 0
        | .error fault =>
          if fault = .notEmpty && o.has 'i' then return 0
          else c.fail ("failed to remove ".toList ++ quotedName t ++ ": ".toList ++ reason fault)) 0

/-- The kind of a node, in words. -/
def kindOf (n : Node) : String :=
  match n.content with
  | .directory _ => "directory"
  | .file [] => "regular empty file"
  | .file _ => "regular file"
  | .link _ => "symbolic link"
  | .pipe => "fifo"
  | .device _ => "character special file"

def rm (c : Call) : Work Nat :=
  c.withOptions { flags := "rRfvidI\x01\x02", long := [("recursive", 'r'), ("force", 'f'),
                  ("verbose", 'v'), ("dir", 'd'), ("no-preserve-root", '\x01'),
                  ("preserve-root", '\x02'), ("one-file-system", '\x02')] } 1 fun o => do
    let recursive := o.has 'r' || o.has 'R'
    if o.operands.isEmpty && !o.has 'f' then c.misuse "missing operand".toList
    else each o.operands fun t => do
      let d := (← get).disk
      let failure (why : Text) : Work Nat :=
        c.fail ("cannot remove ".toList ++ quotedName t ++ ": ".toList ++ why)
      if recursive && Disk.isDots (lastPart t) then
        c.fail ("refusing to remove '.' or '..' directory: skipping ".toList ++ quotedName t)
      else if recursive && !o.has '\x01' && t ≠ [] && t.all (· = '/') then
        c.complain ("it is dangerous to operate recursively on ".toList ++ quotedName t ++
          (if t = ['/'] then [] else " (same as '/')".toList))
        c.fail "use --no-preserve-root to override this failsafe".toList
      else match d.locateBy false c.place (path t) with
        | .error fault =>
          if o.has 'f' && (fault = .notFound || fault = .notDirectory) then return 0
          else failure (reason fault)
        | .ok s =>
          let n := (d.node? s.id).getD { content := .pipe }
          if n.isDirectory && !recursive && !(o.has 'd' && (d.below s.id).isEmpty) then
            failure (if o.has 'd' then reason .notEmpty else reason .isDirectory)
          else if n.isDirectory && !(n.allows 2 && n.allows 1) && !(d.below s.id).isEmpty then
            let inner := ((d.entries? s.id).getD .empty).keys.head?.getD []
            c.fail ("cannot remove ".toList ++ quotedName (joined t (Narrow.ofText inner)) ++
              ": ".toList ++ reason .permissionDenied)
          else
            let sure ← if o.has 'i' && !o.has 'f' then
                c.confirms ("remove ".toList ++ (kindOf n).toList ++ [' '] ++ quotedName t)
              else pure true
            if !sure then return 0
            match ← Call.alter (·.remove c.place (path t)) with
            | .error fault => failure (reason fault)
            | .ok () =>
              if o.has 'v' then
                let told (t : Text) (n : Option Node) : Text :=
                  (if n.any Node.isDirectory then "removed directory ".toList
                    else "removed ".toList) ++ quotedName t ++ ['\n']
                for (p, id) in (d.below s.id).reverse do
                  c.print (told (p.foldl (fun t n => joined t (Narrow.ofText n)) t) (d.node? id))
                c.print (told t (some n))
              return 0

/-- Take away one name. -/
def unlink (c : Call) : Work Nat := do
  match c.args with
  | [t] =>
    attempt c (fun d => do
      if (← d.findBy false c.place (path t)).isDirectory then throw .isDirectory
      d.remove c.place (path t)) ("cannot unlink ".toList ++ quotedName t)
  | [] => c.misuse "missing operand".toList
  | _ :: extra :: _ => c.misuse ("extra operand ".toList ++ quoted extra)

/-! ## Modes -/

/-- Options of `chmod`. What takes rights away is a mode, though it begins with a dash. -/
def modeRules : OptionRules where
  flags := "Rvfc\x01"
  valued := "="
  long := [("recursive", 'R'), ("verbose", 'v'), ("silent", 'f'), ("quiet", 'f'), ("changes", 'c'),
    ("reference", '='), ("preserve-root", '\x01'), ("no-preserve-root", '\x01')]

def chmod (c : Call) : Work Nat := do
  let isMode (t : Text) : Bool := match t with
    | '-' :: k :: _ => "rwxXstugoa,+=01234567".toList.contains k
    | _ => false
  let (before, after) := c.args.span (· ≠ ['-', '-'])
  let dashed := before.filter isMode
  let c := { c with args := before.filter (!isMode ·) ++ after }
  c.withOptions modeRules 1 fun o => do
    let (modes, files) := if dashed = [] && !o.has '=' then o.operands.splitAt 1
      else (dashed, o.operands)
    let mode := List.intercalate [','] modes
    if dashed ≠ [] && o.has '=' then
      c.misuse "cannot combine mode and --reference options".toList
    else if files = [] then
      if modes = [] || dashed ≠ [] then c.misuse "missing operand".toList
      else c.misuse ("missing operand after ".toList ++ quoted mode)
    else match o.value? '=' with
      | none =>
        if (Mode.altered? c.umask false 0 mode).isNone then
          c.misuse ("invalid mode: ".toList ++ quoted mode)
        else change c o files fun n =>
          (Mode.altered? c.umask n.isDirectory n.mode mode).getD n.mode
      | some file =>
        match (← get).disk.find c.place (path file) with
        | .error fault =>
          c.fail ("failed to get attributes of ".toList ++ quotedName file ++ ": ".toList ++
            reason fault)
        | .ok n => change c o files fun _ => n.mode
where
  change (c : Call) (o : Options) (files : List Text) (mode : Node → Nat) : Work Nat :=
    each files fun t => do
      let d := (← get).disk
      match d.locate c.place (path t) with
      | .error fault =>
        if o.has 'f' then return 1
        else c.fail ("cannot access ".toList ++ quotedName t ++ ": ".toList ++ reason fault)
      | .ok s =>
        let inner := if o.has 'R' then d.below s.id else []
        (([], s.id) :: inner).foldlM (fun status (p, id) => do
          let shown := p.foldl (fun t n => joined t (Narrow.ofText n)) t
          match d.node? id with
          | none => return status
          | some n =>
            if n.foreign then
              c.fail ("changing permissions of ".toList ++ quotedName shown ++ ": ".toList ++
                reason .notPermitted)
            else
              let new := mode n
              let same := new = n.mode
              if !n.isLink then
                modify fun m => { m with disk := m.disk.alter id ({ · with mode := new }) }
              let said (m : Nat) : Text :=
                padStart 4 '0' (Mode.octal m) ++ " (".toList ++ (Mode.letters '-' m).tail ++ [')']
              if o.has 'v' || (o.has 'c' && !same) then
                c.print ("mode of ".toList ++ quotedName shown ++
                  (if same then " retained as ".toList ++ said new
                    else " changed from ".toList ++ said n.mode ++ " to ".toList ++ said new) ++
                  ['\n'])
              return status) 0

/-! ## New names -/

/-- Make a file or directory with a new name. -/
def mktemp (c : Call) : Work Nat :=
  c.withOptions { flags := "dqut", valued := "pS",
                  long := [("directory", 'd'), ("dry-run", 'u'), ("quiet", 'q'), ("suffix", 'S'),
                    ("tmpdir", 'p')] } 1 fun o => do
    let d := (← get).disk
    let standard := o.operands.isEmpty
    let pattern := (o.operands.head?.getD "tmp.XXXXXXXXXX".toList) ++ (o.value? 'S').getD []
    let directory := (o.value? 'p').filter (· ≠ []) <|>
      if standard || o.has 't' then
        some (((c.environment.lookup "TMPDIR".toList).filter (· ≠ [])).getD "/tmp".toList)
      else none
    let reversed := pattern.reverse
    let ending := (reversed.takeWhile (· != 'X')).reverse
    let stem := pattern.take (pattern.length - ending.length)
    let start := Text.dropEndWhile (· == 'X') stem
    let made := stem.length - start.length
    if 1 < o.operands.length then c.misuse "too many templates".toList
    else if made < 3 then c.fail ("too few X's in template ".toList ++ quoted pattern)
    else
      let whole (t : Text) : Text := match directory with
        | some dir => joined dir t
        | none => t
      let name (n : Nat) : Text :=
        let ds := decimal n
        whole (start ++ List.replicate (made - ds.length) 'a' ++ ds ++ ending)
      let n := ((List.range 1000).find? fun n => !d.exists? c.place (path (name n))).getD 0
      let change (d : Disk) : Except Fault Disk :=
        if o.has 'u' then .ok d
        else if o.has 'd' then d.makeDirectory c.place (path (name n)) 448
        else d.writeFile c.place (path (name n)) [] 384
      match ← Call.alter change with
      | .ok () =>
        c.print (name n ++ ['\n'])
        return 0
      | .error fault =>
        let kind := if o.has 'd' then "directory" else "file"
        if o.has 'q' then return 1
        else c.fail ("failed to create ".toList ++ kind.toList ++ " via template ".toList ++
          quotedName (whole pattern) ++ ": ".toList ++ reason fault)

end GoRepl.Machine.Files
