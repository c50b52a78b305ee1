import GoRepl.TestBed.Command.Files

/-! # Test bed: copies, moves and links

Commands that give files new names or make copies of them. What stands in the way of a new name is
replaced, kept, or given another name itself. -/

namespace GoRepl.Machine.Transfer

open Call (path reason quoted quotedName Choices choose)
open Files (lastPart joined each attempt relative)

/-! ## What is asked for -/

/-- Which links are followed. -/
inductive Following where
  | all
  | operands
  | nothing
deriving DecidableEq

/-- What is done where a file exists. -/
inductive Clash where
  | replace
  | ask
  | keep
deriving DecidableEq

/-- Which names are given to files that are replaced. -/
inductive Backup where
  | simple
  /-- Names with numbers for files that have such names already. -/
  | existing
  | numbered
deriving DecidableEq

def backupWords : Choices (Option Backup) :=
  [(["none", "off"], none), (["simple", "never"], some .simple),
   (["existing", "nil"], some .existing), (["numbered", "t"], some .numbered)]

/-- How files are copied, moved or linked. -/
structure Manner where
  recursive : Bool := false
  following : Option Following := none
  keepsFacts : Bool := false
  clash : Clash := .replace
  forces : Bool := false
  updates : Bool := false
  told : Bool := false
  hard : Bool := false
  symbolic : Bool := false
  removesFirst : Bool := false
  parents : Bool := false
  backup : Option Backup := none
  ending : Text := ['~']
  directory : Option Text := none
  plainTarget : Bool := false
deriving DecidableEq

/-- The words about backups that are not known. -/
def backupOf (t : Text) : Except Text (Option Backup) :=
  if t = [] then return some .existing else choose "backup type" backupWords t

/-- Take one more option into account. -/
def Manner.add (m : Manner) : Char × Text → Except Text Manner
  | ('b', t) => do return { m with backup := ← backupOf t }
  | ('S', t) =>
    return { m with backup := m.backup <|> some .existing
                    ending := if t = [] || t.contains '/' then m.ending else t }
  | ('t', t) => return { m with directory := some t }
  | ('\x02', t) =>
    if t = [] then return { m with updates := true }
    else do
      let updates ← choose "--update" [(["all"], false), (["none"], true), (["older"], true)] t
      return { m with updates }
  | (c, _) => return match c with
    | 'r' | 'R' => { m with recursive := true }
    | 'a' => { m with recursive := true, following := some .nothing, keepsFacts := true }
    | 'd' | 'P' => { m with following := some .nothing }
    | 'L' => { m with following := some .all }
    | 'H' => { m with following := some .operands }
    | 'p' => { m with keepsFacts := true }
    | 'f' => { m with forces := true }
    | 'i' => { m with clash := .ask }
    | 'n' => { m with clash := .keep }
    | 'u' => { m with updates := true }
    | 'v' => { m with told := true }
    | 'l' => { m with hard := true }
    | 's' => { m with symbolic := true }
    | 'T' => { m with plainTarget := true }
    | '\x03' => { m with removesFirst := true }
    | '\x04' => { m with parents := true }
    | _ => m

/-- Is a link followed that is an operand, or one that is found in a directory? -/
def Manner.follows (m : Manner) (isOperand : Bool) : Bool :=
  match m.following.getD (if m.recursive && !m.hard then .nothing else .all) with
  | .all => true
  | .operands => isOperand
  | .nothing => false

/-! ## Sources and targets -/

/-- A complaint about operands, with a hint if it is about their number. -/
structure Misuse where
  message : Text
  hints : Bool := false

/-- Each source with the path that it is to get. -/
def targets (c : Call) (m : Manner) (operands : List Text) :
    Work (Except Misuse (List (Text × Text))) := do
  let d := (← get).disk
  let isDirectory (t : Text) : Bool := d.isDirectory c.place (path t)
  let into (target : Text) (sources : List Text) : List (Text × Text) :=
    sources.map fun s =>
      if m.parents then (s, joined target (Text.dropEndWhile (· = '/') s))
      else (s, joined target (let last := lastPart s; if last = ['.', '.'] then ['.'] else last))
  let missing (target : Text) : Text :=
    match d.locate c.place (path target) with
    | .ok _ => reason .notDirectory
    | .error fault => reason fault
  match m.directory, operands.reverse with
  | none, [] => return .error ⟨"missing file operand".toList, true⟩
  | some _, [] => return .error ⟨"missing file operand".toList, true⟩
  | none, [t] =>
    return .error ⟨"missing destination file operand after ".toList ++ quotedName t, true⟩
  | some target, _ =>
    if m.plainTarget then
      return .error ⟨("cannot combine --target-directory (-t) and " ++
        "--no-target-directory (-T)").toList, false⟩
    else if isDirectory target then return .ok (into target operands)
    else return .error ⟨"target directory ".toList ++ quotedName target ++ ": ".toList ++
      missing target, false⟩
  | none, target :: sources =>
    if m.plainTarget then
      match operands[2]? with
      | some extra => return .error ⟨"extra operand ".toList ++ quotedName extra, true⟩
      | none => return .ok (sources.map (·, target))
    else if isDirectory target then return .ok (into target sources.reverse)
    else if sources.length > 1 then
      return .error ⟨"target ".toList ++ quotedName target ++ ": ".toList ++ missing target, false⟩
    else if m.parents then
      return .error ⟨"with --parents, the destination must be a directory".toList, true⟩
    else return .ok (sources.map (·, target))

/-- Read the options and go on with the sources and targets. -/
def withTargets (c : Call) (rules : OptionRules)
    (go : Manner → List (Text × Text) → Work Nat) : Work Nat :=
  c.withOptions rules 1 fun o => do
    match o.given.foldlM Manner.add {} with
    | .error message => c.misuse message
    | .ok m =>
      if m.backup.isSome && m.clash = .keep then
        c.misuse "options --backup and --no-clobber are mutually exclusive".toList
      else if m.hard && m.symbolic then
        c.misuse "cannot make both hard and symbolic links".toList
      else match ← targets c m o.operands with
        | .ok pairs => go m pairs
        | .error ⟨message, hints⟩ => if hints then c.misuse message else c.fail message

/-- Make a change of the disk that cannot fail. -/
def changing (f : Disk → Disk) : Work Unit :=
  modify fun w => { w with disk := f w.disk }

/-! ## What stands in the way -/

/-- The name that a file gets when it is replaced. -/
def backupName (c : Call) (d : Disk) (m : Manner) (kind : Backup) (target : Text) : Text :=
  let numbered (n : Nat) : Text := target ++ ".~".toList ++ decimal n ++ ['~']
  let last := ((List.range 1000).reverse.find? fun n => d.exists? c.place (path (numbered (n + 1))))
  match kind, last with
  | .simple, _ | .existing, none => target ++ m.ending
  | _, last => numbered (((last.map (· + 1)).getD 0) + 1)

/-- Give a file that is replaced another name, which is told. -/
def setAside (c : Call) (m : Manner) (target : Text) : Work (Except Text (Option Text)) := do
  match m.backup with
  | none => return .ok none
  | some kind =>
    let name := backupName c (← get).disk m kind target
    let change (d : Disk) : Except Fault Disk := do
      let s ← d.locateBy false c.place (path target)
      (← d.nameAt c.place (path name) s.id).remove c.place (path target)
    match ← Call.alter change with
    | .ok () => return .ok (some name)
    | .error fault =>
      return .error ("cannot backup ".toList ++ quotedName target ++ ": ".toList ++ reason fault)

/-- The names of a source and its target, as they are told. -/
def arrow (source target : Text) (backup : Option Text) : Text :=
  quotedName source ++ " -> ".toList ++ quotedName target ++ (match backup with
    | some name => " (backup: ".toList ++ quotedName name ++ [')']
    | none => []) ++ ['\n']

/-- What is to be done about a file that exists. -/
inductive Verdict where
  | replaced
  | kept
  | refused (message : Text)

/-- What is to be done where a source is to take the place of a file. -/
def verdict (c : Call) (m : Manner) (source target : Text) (new old : Node) : Work Verdict := do
  if m.updates && !new.isDirectory && decide (new.time ≤ old.time) then return .kept
  else if m.clash = .keep && !new.isDirectory then return .kept
  else
    let asks := m.clash = .ask && !new.isDirectory
    let sure ← if asks then c.confirms ("overwrite ".toList ++ quotedName target) else pure true
    if !sure then return .kept
    else if new.isDirectory && !old.isDirectory then
      return .refused ("cannot overwrite non-directory ".toList ++ quotedName target ++
        " with directory ".toList ++ quotedName source)
    else if !new.isDirectory && old.isDirectory then
      return .refused ("cannot overwrite directory ".toList ++ quotedName target ++
        " with non-directory".toList)
    else return .replaced

/-! ## Copying -/

/-- Fill the place of a file with bytes. A file that cannot be written is replaced if that is asked
for. -/
def writeFile (c : Call) (m : Manner) (target : Text) (bytes : Bytes) (mode : Nat) (d : Disk) :
    Except Fault Disk := do
  let opened := d.openForWriting c.place (path target) true mode
  let (d, id) ← match opened with
    | .error fault =>
      if m.forces && fault ≠ .notFound && fault ≠ .isDirectory then
        (← d.remove c.place (path target)).openForWriting c.place (path target) true mode
      else if fault = .isDirectory && target.getLast? = some '/' then throw .notDirectory
      else throw fault
    | .ok opened => pure opened
  return d.setContents id bytes

/-- Make a copy of a single file that is no directory. -/
def copySingle (c : Call) (m : Manner) (source target : Text) (id : NodeId) (n : Node)
    (isNew : Bool) : Work Nat := do
  let d := (← get).disk
  let mode := if m.keepsFacts then n.mode else masked n.mode c.umask
  let kept (d : Disk) : Disk :=
    if m.keepsFacts then
      match d.locateBy false c.place (path target) with
      | .ok s => d.alter s.id ({ · with mode := n.mode, time := n.time })
      | .error _ => d
    else d
  let dangling := isNew && (d.findBy false c.place (path target)).toOption.any Node.isLink
  let regular := "cannot create regular file ".toList ++ quotedName target
  if m.symbolic then
    let isElsewhere := (path source).head? ≠ some '/' && target.contains '/'
    let made (d : Disk) : Except Fault Disk :=
      d.makeAt c.place (path target) { content := .link (path source), mode := 511 }
    let failure := "cannot create symbolic link ".toList ++ quotedName target ++ " to ".toList ++
      quotedName source
    if isElsewhere then
      return ← c.fail (Call.shownName target ++
        ": can make relative symbolic links only in current directory".toList)
    attempt c made failure
  else if m.hard then
    attempt c (fun d => do
      if !isNew && !m.forces then throw .alreadyExists
      d.nameAt c.place (path target) id)
      ("cannot create hard link ".toList ++ quotedName target ++ " to ".toList ++
        quotedName source)
  else match n.content with
    | .link text =>
      attempt c (fun d => do
        let d := if isNew then d else (d.remove c.place (path target)).toOption.getD d
        return kept (← d.makeAt c.place (path target) { content := .link text, mode := 511 }))
        ("cannot create symbolic link ".toList ++ quotedName target)
    | .pipe =>
      if m.recursive then
        attempt c (fun d => do
          return kept (← d.makeAt c.place (path target) { content := .pipe, mode }))
          ("cannot create fifo ".toList ++ quotedName target)
      else fromStream dangling regular
    | .file bytes =>
      if !n.allows 4 then
        c.fail ("cannot open ".toList ++ quotedName source ++ " for reading: ".toList ++
          reason .permissionDenied)
      else if dangling then
        c.fail ("not writing through dangling symlink ".toList ++ quotedName target)
      else if (c.device? target).isSome then fromStream dangling regular
      else attempt c (fun d => do return kept (← writeFile c m target bytes mode d)) regular
    | _ => fromStream dangling regular
where
  fromStream (dangling : Bool) (regular : Text) : Work Nat := do
    if dangling then
      c.fail ("not writing through dangling symlink ".toList ++ quotedName target)
    else match ← c.contents source with
      | .error fault =>
        c.fail ("cannot open ".toList ++ quotedName source ++ " for reading: ".toList ++
          reason fault)
      | .ok f =>
        if f.isEndless then spin
        match ← c.save target f.text with
        | .ok () => return 0
        | .error fault => c.fail (regular ++ ": ".toList ++ reason fault)

/-- Copy a file, or a directory with all that it holds. `top` holds the operands if this is not the
first step, and `made` is the first directory that was made. -/
def copy (c : Call) (m : Manner) : (depth : Nat) → (top : Option (Text × Text)) →
    (made : Option NodeId) → (source target : Text) → Work (Nat × Option NodeId)
  | 0, _, made, _, _ => return (0, made)
  | depth + 1, top, made, source, target => do
    let d := (← get).disk
    let failed (message : Text) : Work (Nat × Option NodeId) := do
      return (← c.fail message, made)
    let device := (c.device? source).isSome && !m.recursive
    match (if device then .ok ⟨[], 0⟩
      else d.locateBy (m.follows top.isNone) c.place (path source) : Except Fault Disk.Spot) with
    | .error fault =>
      failed ("cannot stat ".toList ++ quotedName source ++ ": ".toList ++ reason fault)
    | .ok s =>
      let n := if device then { content := .pipe } else (d.node? s.id).getD { content := .pipe }
      if n.isDirectory && !m.recursive then
        return ← failed ("-r not specified; omitting directory ".toList ++ quotedName source)
      let isPlain := n.isFile && !(m.symbolic || m.hard || m.backup.isSome || m.removesFirst)
      let goal := d.locateBy (isPlain || device) c.place (path target)
      let isOther := match goal with
        | .error fault => fault ≠ .notFound
        | .ok _ => false
      if isOther && (c.device? target).isNone then
        let fault := match goal with
          | .error fault => fault
          | .ok _ => .notFound
        return ← failed ("cannot stat ".toList ++ quotedName target ++ ": ".toList ++ reason fault)
      let old := goal.toOption.bind fun g => (d.node? g.id).map (g.id, ·)
      let mut isNew := old.isNone
      let mut backup := none
      if let some (oldId, oldNode) := old then
        if oldId = s.id && !device && m.clash ≠ .keep then
          return ← failed (quotedName source ++ " and ".toList ++ quotedName target ++
            " are the same file".toList)
        match ← verdict c m source target n oldNode with
        | .kept => return (0, made)
        | .refused message => return ← failed message
        | .replaced =>
          if !oldNode.isDirectory then
            match ← setAside c m target with
            | .error message => return ← failed message
            | .ok name =>
              backup := name
              if name.isSome then isNew := true
            if m.removesFirst && backup.isNone then
              let _ ← Call.alter (·.remove c.place (path target))
              isNew := true
              if m.told then c.print ("removed ".toList ++ quotedName target ++ ['\n'])
      if m.told && !n.isDirectory then c.print (arrow source target backup)
      if !n.isDirectory then return (← copySingle c m source target s.id n isNew, made)
      let (topSource, topTarget) := top.getD (source, target)
      if made = some s.id then
        return ← failed ("cannot copy a directory, ".toList ++ quotedName topSource ++
          ", into itself, ".toList ++ quotedName topTarget)
      let mode := masked n.mode c.umask
      let place := Text.dropEndWhile (· = '/') target
      let destination := if place = [] then target else place
      if isNew then
        match ← Call.alter (·.makeDirectory c.place (path destination) (Nat.lor mode 448)) with
        | .error fault =>
          return ← failed ("cannot create directory ".toList ++ quotedName target ++ ": ".toList ++
            reason fault)
        | .ok () => if m.told then c.print (arrow source target none)
      let d := (← get).disk
      let new := (d.locate c.place (path destination)).toOption.map Disk.Spot.id
      let made := made <|> (if isNew then new else none)
      if !n.allows 4 then
        return (← c.fail ("cannot access ".toList ++ quotedName source ++ ": ".toList ++
          reason .permissionDenied), made)
      let names := ((d.entries? s.id).getD .empty).keys
      let (status, made) ← names.foldlM (fun ((status, made) : Nat × Option NodeId) name => do
        let name := Narrow.ofText name
        let (k, made) ← copy c m depth (some (topSource, topTarget)) made (joined source name)
          (joined target name)
        return (max status k, made)) (0, made)
      if isNew || m.keepsFacts then
        let facts (o : Node) : Node :=
          if m.keepsFacts then { o with mode := n.mode, time := n.time } else { o with mode }
        changing fun d => (new.map (d.alter · facts)).getD d
      return (status, made)

/-- Make the directories that a target stands in, as they are where the source stands. -/
def makeParents (c : Call) (m : Manner) (source target : Text) : Work Nat := do
  let start := target.length - (Text.dropEndWhile (· = '/') source).length
  let cuts := (List.range target.length).filter fun k => start < k && target[k]? = some '/'
  cuts.foldlM (fun status k => do
    if status ≠ 0 then return status
    let made := target.take k
    if (← get).disk.isDirectory c.place (path made) then return 0
    else
      let above := made.drop start
      let mode := ((← get).disk.find c.place (path above)).toOption.map Node.mode
      let status ← attempt c
        (·.makeDirectory c.place (path made) (masked (mode.getD 511) c.umask))
        ("cannot make directory ".toList ++ quotedName made)
      if status = 0 && m.told then
        c.print (above ++ " -> ".toList ++ made ++ ['\n'])
      return status) 0

def copyRules : OptionRules where
  flags := "rRapfvniHLPdlsuxTbZ\x01\x02\x03\x04"
  valued := "tS"
  optional := "b\x01\x02"
  long := [("recursive", 'r'), ("archive", 'a'), ("force", 'f'), ("verbose", 'v'),
    ("no-clobber", 'n'), ("interactive", 'i'), ("preserve", 'p'), ("update", '\x02'),
    ("no-dereference", 'P'), ("dereference", 'L'), ("target-directory", 't'),
    ("no-target-directory", 'T'), ("backup", 'b'), ("suffix", 'S'), ("link", 'l'),
    ("symbolic-link", 's'), ("one-file-system", 'x'), ("parents", '\x04'),
    ("remove-destination", '\x03'), ("attributes-only", '\x01'), ("copy-contents", '\x01'),
    ("no-preserve", '\x01'), ("reflink", '\x01'), ("sparse", '\x01'),
    ("strip-trailing-slashes", '\x01')]

def cp (c : Call) : Work Nat :=
  withTargets c copyRules fun m pairs => do
    let steps := pairs.zipIdx.map fun (pair, k) => (pair, pairs.take k)
    steps.foldlM (fun status ((source, target), before) => do
      let d := (← get).disk
      let idOf (t : Text) : Option NodeId :=
        (d.locateBy (m.follows true) c.place (path t)).toOption.map Disk.Spot.id
      let isFile := (idOf source).any fun id => (d.entries? id).isNone
      let again := before.any fun (s, _) => idOf s = idOf source
      if isFile && m.backup.isNone && again then
        c.complain ("warning: source file ".toList ++ quotedName source ++
          " specified more than once".toList)
        return status
      else if isFile && m.backup ≠ some .numbered && before.any (·.2 = target) &&
          d.exists? c.place (path target) then
        c.complain ("will not overwrite just-created ".toList ++ quotedName target ++
          " with ".toList ++ quotedName source)
        return 1
      else
        let made ← if m.parents then makeParents c m source target else pure 0
        if made ≠ 0 then return 1
        else return max status (← copy c m Disk.depthLimit none none source target).1) 0

/-! ## Moving -/

def moveRules : OptionRules where
  flags := "fvniuTbZ\x01\x02"
  valued := "tS"
  optional := "b\x02"
  long := [("force", 'f'), ("verbose", 'v'), ("no-clobber", 'n'), ("interactive", 'i'),
    ("update", '\x02'), ("target-directory", 't'), ("no-target-directory", 'T'), ("backup", 'b'),
    ("suffix", 'S'), ("strip-trailing-slashes", '\x01')]

/-- Does one path lead to a node below another one? -/
def isInside (d : Disk) (c : Call) (source target : Text) : Bool :=
  match d.locateBy false c.place (path source), d.locateLast false c.place (path target) with
  | .ok s, .ok (t, _) => s.place.isPrefixOf t.place
  | _, _ => false

/-- Move a file, or a directory with all that it holds. -/
def move (c : Call) (m : Manner) (source target : Text) : Work Nat := do
  let d := (← get).disk
  match d.locateBy false c.place (path source) with
  | .error fault =>
    c.fail ("cannot stat ".toList ++ quotedName source ++ ": ".toList ++ reason fault)
  | .ok s =>
    let n := (d.node? s.id).getD { content := .pipe }
    let goal := (d.locateBy false c.place (path target)).toOption
    let failure := "cannot move ".toList ++ quotedName source ++ " to ".toList ++ quotedName target
    let mut backup := none
    if let some old := goal.bind fun g => d.node? g.id then
      if goal.map Disk.Spot.id = some s.id && m.clash ≠ .keep then
        return ← c.fail (quotedName source ++ " and ".toList ++ quotedName target ++
          " are the same file".toList)
      -- What is given another name may be of another kind.
      match ← verdict c m source target n (if m.backup.isSome then { n with time := old.time }
        else old) with
      | .kept => return 0
      | .refused message => return ← c.fail message
      | .replaced =>
        match ← setAside c m target with
        | .error message => return ← c.fail message
        | .ok name => backup := name
    if n.isDirectory && isInside d c source target then
      return ← c.fail ("cannot move ".toList ++ quotedName source ++
        " to a subdirectory of itself, ".toList ++ quotedName target)
    let isFilled := backup.isNone && goal.any fun g => !(d.below g.id).isEmpty
    let change (d : Disk) : Except Fault Disk := do
      if !n.isDirectory && target.getLast? = some '/' then throw .notDirectory
      if isFilled then throw .notEmpty
      let named ← d.nameAt c.place (path target) s.id
      named.remove c.place (path source)
    let status ← attempt c change failure
    if status = 0 && m.told then c.print ("renamed ".toList ++ arrow source target backup)
    return status

def mv (c : Call) : Work Nat :=
  withTargets c moveRules fun m pairs =>
    -- The last one of the options counts that say what is done where a file exists.
    let decides (k : Char) : Bool := k = 'f' || k = 'i' || k = 'n'
    let last := c.args.reverse.find? fun t => match t with
      | '-' :: '-' :: _ => false
      | '-' :: cs => cs.any decides
      | _ => false
    let forces := last.any fun t => t.reverse.find? decides = some 'f'
    let m := if forces then { m with clash := .replace } else m
    pairs.foldlM (fun status (s, t) => do return max status (← move c m s t)) 0

/-! ## Linking -/

def linkRules : OptionRules where
  flags := "sfvnrTiPLbdF"
  valued := "tS"
  optional := "b"
  long := [("symbolic", 's'), ("force", 'f'), ("verbose", 'v'), ("no-dereference", 'n'),
    ("relative", 'r'), ("target-directory", 't'), ("no-target-directory", 'T'), ("backup", 'b'),
    ("suffix", 'S'), ("interactive", 'i'), ("logical", 'L'), ("physical", 'P')]

/-- Make a link. -/
def linkOne (c : Call) (o : Options) (m : Manner) (source target : Text) : Work Nat := do
  let d := (← get).disk
  let kind := if o.has 's' then "symbolic" else "hard"
  let old := (d.locateBy false c.place (path target)).toOption
  let oldNode := old.bind fun g => d.node? g.id
  let follows := o.has 'L'
  let id := d.locateBy follows c.place (path source)
  match id with
  | .error fault =>
    if !o.has 's' then
      return ← c.fail ("failed to access ".toList ++ quotedName source ++ ": ".toList ++
        reason fault)
  | .ok s =>
    if !o.has 's' && (d.entries? s.id).isSome then
      return ← c.fail (source ++ ": hard link not allowed for directory".toList)
  let replaces := m.backup.isSome || m.clash = .ask || o.has 'f'
  let mut backup := none
  if let some n := oldNode then
    if replaces then
      if n.isDirectory then
        return ← c.fail (quotedName target ++ ": cannot overwrite directory".toList)
      if !o.has 's' && id.toOption.map Disk.Spot.id = old.map Disk.Spot.id then
        return ← c.fail (quotedName source ++ " and ".toList ++ quotedName target ++
          " are the same file".toList)
      let sure ← if m.clash = .ask then c.confirms ("replace ".toList ++ quotedName target)
        else pure true
      if !sure then return 0
      match ← setAside c m target with
      | .error message => return ← c.fail message
      | .ok name => backup := name
  let clear (d : Disk) : Except Fault Disk :=
    if (o.has 'f' || m.clash = .ask) && (d.findBy false c.place (path target)).toOption.isSome then
      d.remove c.place (path target)
    else .ok d
  let shown := if o.has 'r' && o.has 's' then
      match id, d.locateLast false c.place (path target) with
      | .ok s, .ok (above, _) => relative above.place s.place
      | _, _ => path source
    else path source
  let failure := "failed to create ".toList ++ kind.toList ++ " link ".toList ++ quotedName target
  let stands := oldNode.isSome && !replaces
  let change (d : Disk) : Except Fault Disk := do
    let d ← clear d
    if o.has 's' then
      if shown = [] then throw .notFound
      d.makeAt c.place (path target) { content := .link shown, mode := 511 }
    else
      if (d.findBy false c.place (path target)).toOption.isSome then throw .alreadyExists
      d.nameAt c.place (path target) ((id.map Disk.Spot.id).toOption.getD 0)
  let names := if o.has 's' then (if source = [] then " -> ''".toList else [])
    else if stands then [] else " => ".toList ++ quotedName source
  let status ← attempt c change (failure ++ names)
  if status = 0 && o.has 'v' then
    let sign := if o.has 's' then " -> " else " => "
    let aside := match backup with
      | some name => quotedName name ++ " ~ ".toList
      | none => []
    c.print (aside ++ quotedName target ++ sign.toList ++
      quotedName (Narrow.ofText (if o.has 's' then shown else path source)) ++ ['\n'])
  return status

def ln (c : Call) : Work Nat :=
  c.withOptions linkRules 1 fun o => do
    match o.given.foldlM Manner.add {} with
    | .error message => c.misuse message
    | .ok m =>
      let d := (← get).disk
      let isLink (t : Text) : Bool := (d.findBy false c.place (path t)).toOption.any Node.isLink
      let operands := match o.operands with
        | [t] => if m.directory.isNone && !m.plainTarget then [t, ['.']] else [t]
        | ts => ts
      if o.has 'r' && !o.has 's' then
        return ← c.fail "cannot do --relative without --symbolic".toList
      if o.has 'T' && operands.length = 1 then
        return ← c.misuse ("missing destination file operand after ".toList ++
          quotedName (operands.headD []))
      let plain := m.plainTarget || (o.has 'n' && operands.length = 2 &&
        operands.getLast?.any isLink)
      match m.directory with
      | some target =>
        if !d.exists? c.place (path target) then
          return ← c.fail ("failed to access ".toList ++ quotedName target ++ ": ".toList ++
            reason .notFound)
      | none => pure ()
      match ← targets c { m with plainTarget := plain, parents := false } operands with
      | .error ⟨message, hints⟩ => if hints then c.misuse message else c.fail message
      | .ok pairs =>
        pairs.foldlM (fun status (s, t) => do return max status (← linkOne c o m s t)) 0

/-- A second name for a file, without options. -/
def link (c : Call) : Work Nat :=
  c.withOptions { flags := "" } 1 fun o =>
    match o.operands with
    | [a, b] =>
      attempt c (fun d => do
        let s ← d.locateBy false c.place (path a)
        if (d.findBy false c.place (path b)).toOption.isSome then throw .alreadyExists
        if (d.entries? s.id).isSome then throw .notPermitted
        d.nameAt c.place (path b) s.id)
        ("cannot create link ".toList ++ quotedName b ++ " to ".toList ++ quotedName a)
    | [] => c.misuse "missing operand".toList
    | [a] => c.misuse ("missing operand after ".toList ++ quoted a)
    | _ :: _ :: extra :: _ => c.misuse ("extra operand ".toList ++ quoted extra)

/-- Copy files and give them a mode, or make directories. -/
def install (c : Call) : Work Nat :=
  c.withOptions { flags := "dDvpcCsTbZ", valued := "mtogS", optional := "b",
                  long := [("mode", 'm'), ("directory", 'd'), ("target-directory", 't'),
                    ("verbose", 'v'), ("owner", 'o'), ("group", 'g'), ("strip", 's'),
                    ("no-target-directory", 'T'), ("preserve-timestamps", 'p'), ("backup", 'b'),
                    ("suffix", 'S'), ("compare", 'C')] } 1
    fun o => do
      let asked := o.value? 'm'
      let mode? := (asked.map (Mode.altered? 0 (o.has 'd') 0)).getD (some 493)
      match mode?, o.given.foldlM Manner.add {} with
      | none, _ => c.fail ("invalid mode ".toList ++ quoted (asked.getD []))
      | _, .error message => c.misuse message
      | some mode, .ok m =>
        if o.has 'd' then
          if o.operands.isEmpty then c.misuse "missing file operand".toList
          else each o.operands fun t => do
            let before := (← get).disk
            let (result, disk) := before.createDirectories c.place (path t) 493
            let disk := match disk.locate c.place (path t) with
              | .ok s => disk.alter s.id ({ · with mode })
              | .error _ => disk
            modify ({ · with disk })
            match result with
            | .ok () =>
              if o.has 'v' then
                for k in List.range (t.length + 1) do
                  let piece := t.take k
                  if piece ≠ [] && (k = t.length || t[k]? = some '/') &&
                      !before.exists? c.place (path piece) then
                    c.print ("install: creating directory ".toList ++ quotedName piece ++ ['\n'])
              return 0
            | .error fault =>
              c.fail ("cannot create directory ".toList ++ quotedName t ++ ": ".toList ++
                reason fault)
        else
          if o.has 'D' then
            let above := match m.directory, o.operands with
              | some t, _ => path t
              | none, [_, t] => (Path.parent? (path t)).getD []
              | _, _ => []
            changing fun d => (d.createDirectories c.place above 493).2
          let m := { m with recursive := false, following := none, hard := false, symbolic := false,
                            keepsFacts := o.has 'p', parents := false, removesFirst := true,
                            told := false, updates := false, clash := .replace }
          match ← targets c m o.operands with
          | .error ⟨message, hints⟩ => if hints then c.misuse message else c.fail message
          | .ok pairs =>
            pairs.foldlM (fun status (source, target) => do
              let d := (← get).disk
              if d.isDirectory c.place (path source) then
                return ← c.fail ("omitting directory ".toList ++ quotedName source)
              let had := d.exists? c.place (path target)
              let (k, _) ← copy c m 2 none none source target
              if k = 0 then
                if o.has 'v' then
                  if had then c.print ("removed ".toList ++ quotedName target ++ ['\n'])
                  c.print (arrow source target none)
                changing fun d => match d.locate c.place (path target) with
                  | .ok s => d.alter s.id ({ · with mode })
                  | .error _ => d
              return max status k) 0

end GoRepl.Machine.Transfer
