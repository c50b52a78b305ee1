import GoRepl.TestBed.Shell.Loop

/-! # Test bed: calling commands

What happens when a command is called by its name: a function is run, a text or a file is read as a
part of the script, or a command of the machine is started. -/

namespace GoRepl.Machine.Shell

/-! ## Functions -/

/-- How many calls of functions may be nested. -/
def functionLimit : Nat := 1000

/-- The occasions that are not dealt with inside of functions. -/
def outerOccasions (s : Shell) : List Text :=
  ((if s.hasOption 'E' then [] else ["ERR"]) ++
    if s.hasOption 'T' then [] else ["DEBUG", "RETURN"]).map String.toList

/-- End a shell whose functions call one another without an end. -/
def endCalls : Run Unit := do
  let s ← get
  if s.isExtended then
    work (send s.number 11)
    work (sleep 0)
  else
    fatal ("Maximum function recursion depth (".toList ++ decimal functionLimit ++
      ") reached".toList)

/-- Call a function. -/
def callFunction (x : Engine) (tested : Bool) (name : Text) (routine : Routine)
    (args : List Text) : Run Unit := do
  let before ← get
  if functionLimit ≤ before.callers.length then endCalls
  let outer := outerOccasions before
  let (hidden, traps) := before.traps.partition fun t => outer.contains t.1
  set { before with
    args, traps, locals := some [], loops := 0, callers := (name, before.line) :: before.callers
    inside := if before.isExtended then routine.origin else before.inside
    base := routine.base }
  let body : Run Unit := do
    match ← attempt (x.run tested routine.body) with
    | .ok () | .error .leaveFunction => runOccasion (runText x) "RETURN"
    | .error j => throw j
  always body (modify fun s => { s with
    args := before.args, locals := before.locals, loops := before.loops
    callers := before.callers, inside := before.inside, base := before.base
    line := if s.isExtended then before.line else s.line
    traps := hidden.filter (fun t => (s.traps.lookup t.1).isNone) ++ s.traps
    bindings := restored (s.locals.getD []) s.bindings })

/-! ## Texts and files -/

/-- Run a text as a part of the script. -/
def evaluateText (x : Engine) (tested : Bool) : Builtin := fun name args => do
  let s ← get
  setStatus 0
  runInside x (if s.isExtended then s.inside else some name)
    { text := List.intercalate [' '] args, tested, title := some name
      line := if s.isExtended then max s.line 1 else 1 }

/-- The first file with a name in the directories of the search path. -/
def fileFor? (s : Shell) (d : Disk) (name : Text) : Option Text :=
  let dirs := ((s.value? "PATH".toList).getD searchPath).splitOn ':'
  (dirs.map fun dir => Files.joined (if dir = [] then ['.'] else dir) name).find? fun path =>
    d.isFile s.place (Call.path path)

/-- The path of a file that is to be read as a part of the script. -/
def sourcePath? (s : Shell) (d : Disk) (name : Text) : Option Text :=
  if name.contains '/' then some name
  else fileFor? s d name <|> if s.isExtended then some name else none

/-- All of a file, or of the stream that a path stands for. -/
def wholeOf (path : Text) : Run (Except Fault Text) := do
  let s ← get
  match ← work ((s.call [] []).contents (if path = ['-'] then "./-".toList else path)) with
  | .error fault => return .error fault
  | .ok f =>
    if f.isEndless then work spin
    return .ok f.text

/-- Run the script in a file as a part of this one. -/
def readFile (x : Engine) (tested : Bool) : Builtin := fun name args => do
  let s ← get
  match args with
  | [] =>
    if s.isExtended then
      Shell.complainAs name "filename argument required".toList
      Builtin.showUsage name
    else setStatus 0
  | file :: rest =>
    let d := (← machine).disk
    let path? := sourcePath? s d file
    let contents : Except Fault Text ← match path? with
      | none => pure (.error .notFound)
      | some path => wholeOf path
    let path := path?.getD file
    match contents, s.dialect with
    | .error .isDirectory, .plain => setStatus 0
    | .error fault, .plain =>
      Builtin.fatalAs name (if path?.isSome then s.openFailure false file fault
        else file ++ ": not found".toList)
    | .error .isDirectory, .extended =>
      Builtin.complainAs name (path ++ ": is a directory".toList) 1
    | .error fault, .extended =>
      complain (s.openFailure false file fault)
      setStatus 1
    | .ok text, _ =>
      setStatus 0
      let replaces := s.isExtended && !rest.isEmpty
      let sources := path :: s.sources
      modify fun s => { s with args := if replaces then rest else s.args, sources }
      let script : Run Unit := do
        match ← attempt (runInside x (some path) { text, tested := tested && s.isExtended }) with
        | .ok () | .error .leaveFunction => runOccasion (runText x) "RETURN"
        | .error j => throw j
      always script do
        modify fun now => { now with
          args := if replaces then s.args else now.args, sources := s.sources }

/-! ## Commands of the machine -/

/-- Say why a command cannot be started; `path?` is where it was found. -/
def refuseStart (name : Text) (path? : Option Text) (fault : Fault) : Run Unit := do
  let s ← get
  let d := (← machine).disk
  let missing := fault = .notFound || fault = .notDirectory
  let isPath := name.contains '/'
  match s.dialect with
  | .plain =>
    -- In the search path a directory counts as something that must not be run.
    let dirs := ((s.value? "PATH".toList).getD searchPath).splitOn ':'
    let isThere := !isPath && path?.isNone && dirs.any fun dir =>
      d.exists? s.place (Call.path (Files.joined (if dir = [] then ['.'] else dir) name))
    let why := if isThere then "Permission denied".toList
      else if missing then "not found".toList else Call.reason fault
    complain (name ++ ": ".toList ++ why)
    setStatus (if missing || !isPath then 127 else 126)
  | .extended =>
    match if isPath then some name else path? <|> fileFor? s d name with
    | none =>
      let shown := if name.any isUnprintable then inEscapes name else name
      complain (shown ++ ": command not found".toList)
      setStatus 127
    | some path =>
      let why := if d.isDirectory s.place (Call.path path) then "Is a directory".toList
        else if fault = .notFound && d.exists? s.place (Call.path path) then
          "cannot execute: required file not found".toList
        else Call.reason fault
      complain (path ++ ": ".toList ++ why)
      setStatus (if fault = .notFound then 127 else 126)

/-- A command that is to be started: where it stands, and the name that it is given. -/
structure Start where
  path : Except Fault Text
  name : Text
  args : List Text
  environment : List (Text × Text)

/-- Start a command of the machine. A text without a first line that names a command is a script for
the same shell. -/
def Start.launch (x : Engine) (c : Start) : Run (Except Fault Result) := do
  let s ← get
  match c.path with
  | .error fault => return .error fault
  | .ok path =>
    let environment := if s.isExtended then c.environment.filter (·.1 ≠ ['_']) ++ [(['_'], path)]
      else c.environment
    let call := { s.call c.name c.args with environment }
    match ← work (x.launch path call) with
    | .error .notExecutable =>
      let shell := (if s.isExtended then "/usr/bin/bash" else "/usr/bin/sh").toList
      work (x.launch shell { call with args := path :: c.args })
    | r => return r

/-- Take on the status of a command that has ended. -/
def noteResult (r : Result) : Run Unit := do
  setStatus r.number
  match r.signal with
  | some n => tellSignal n
  | none => return

/-- Start a command by its name. -/
def startCommand (x : Engine) (standardPath : Bool) (name : Text) (args : List Text) :
    Run Unit := do
  let s ← get
  let d := (← machine).disk
  let path := if standardPath then pathOf d s.place searchPath name else Builtin.pathFor s d name
  match ← Start.launch x { path, name, args, environment := s.environment } with
  | .ok r => noteResult r
  | .error fault => refuseStart name path.toOption fault

/-- Say why a command does not take the place of the shell. -/
def refuseExec (name file : Text) (path : Except Fault Text) (fault : Fault) : Run Unit := do
  let s ← get
  let missing := fault = .notFound || fault = .notDirectory
  match s.dialect with
  | .plain =>
    let why := if file = [] then "Permission denied".toList
      else if missing then "not found".toList else Call.reason fault
    complainAs name (file ++ ": ".toList ++ why)
    setStatus (if missing && file ≠ [] then 127 else 126)
  | .extended =>
    match path with
    | .error _ =>
      complainAs name (file ++ ": not found".toList)
      setStatus 127
    | .ok path =>
      let d := (← machine).disk
      let whole := if Path.isAbsolute path then path
        else Files.joined (Builtin.here s) ((Text.after? "./".toList path).getD path)
      let isDirectory := d.isDirectory s.place (Call.path path)
      let isThere := d.exists? s.place (Call.path path)
      let why := if isDirectory then "Is a directory".toList else Call.reason fault
      if fault = .notFound && isThere then
        complain (whole ++ ": cannot execute: required file not found".toList)
      else if fault = .notFound then
        complain (whole ++ ": ".toList ++ why)
      else
        complain (whole ++ ": ".toList ++ why)
        complainAs name (whole ++ ": cannot execute: ".toList ++ why)
      setStatus (if fault = .notFound then 127 else 126)

/-- Let a command take the place of the shell. -/
def replaceShell (x : Engine) (name : Text) (args : List Text) : Run Unit := do
  let go (o : Options) : Run Unit := do
    match o.operands with
    | [] => setStatus 0
    | file :: args =>
      let s ← get
      let path := Builtin.pathFor s (← machine).disk file
      let environment := if o.has 'c' then [] else s.environment
      let shown := (o.value? 'a').getD file
      let shown := if o.has 'l' then '-' :: shown else shown
      match ← Start.launch x { path, name := shown, args, environment } with
      | .ok r =>
        setStatus r.number
        modify ({ · with traps := [] })
        match r.signal with
        | some n =>
          work (setCaught s.number n false)
          work (send s.number n)
          work (sleep 0)
        | none => pure ()
        throw .exit
      | .error fault =>
        refuseExec name file path fault
        if !s.hasSwitch "execfail" then throw .exit
  if (← get).isExtended then Builtin.withOptions "cl" "a" name args go else go ⟨[], args⟩

/-! ## Names -/

/-- How a command is called. -/
structure Calling where
  /-- Is its failure of no account for the shell? -/
  tested : Bool
  /-- The lists that stand after some of its arguments. -/
  give : Builtin.ListGiver
  /-- Are functions not meant, and may it fail? -/
  bare : Bool := false
  /-- Is the search path that of the machine? -/
  standardPath : Bool := false

/-- Run a command of the shell itself. In the plain shell a fault in it is no more than a failure,
unless it is one of those that end the shell. -/
def runOwn (c : Calling) (name : Text) (m : Run Unit) : Run Unit := do
  let s ← get
  let mayFail := c.bare || !(Builtin.isSpecial name || name = "local".toList)
  if s.isExtended then m
  else
    let runs := (Builtin.running ++ ["return"]).any (·.toList = name)
    let m := if runs then m else do
      modify ({ · with inside := some name })
      always m (modify ({ · with inside := s.inside }))
    if !mayFail then m
    else match ← attempt m with
      | .ok () | .error .fault => return
      | .error j => throw j

/-- A command of the shell itself that is called by its name. -/
def own? (x : Engine) (c : Calling) (again : Calling → Text → List Text → Run Unit) (s : Shell)
    (name : Text) : Option Builtin :=
  match String.ofList name with
  | "eval" => some (evaluateText x c.tested)
  | "." => some (readFile x c.tested)
  | "exec" => some (replaceShell x)
  | "type" => some Builtin.type
  | "hash" => some Builtin.hash
  | "command" => some (command again)
  | "source" => if s.isExtended then some (readFile x c.tested) else none
  | "builtin" => if s.isExtended then some (ownOnly again) else none
  | _ => Builtin.find? s.dialect c.give name
where
  /-- Call a command that is no function, or tell what a name stands for. -/
  command (again : Calling → Text → List Text → Run Unit) : Builtin := fun name args =>
    Builtin.withOptions "pvV" "" name args fun o => do
      let s ← get
      let names := if s.isExtended then o.operands else o.operands.take 1
      if names.isEmpty then setStatus 0
      else if o.has 'V' then Builtin.describeAll name true names
      else if o.has 'v' then Builtin.describeAll name false names
      else
        let c := { c with bare := true, standardPath := o.has 'p' }
        again c (o.operands.headD []) o.operands.tail
  ownOnly (again : Calling → Text → List Text → Run Unit) : Builtin := fun name args => do
    match args with
    | [] => setStatus 0
    | n :: args =>
      let s ← get
      if Builtin.isKnown s.dialect n then again { c with bare := true } n args
      else Builtin.complainAs name (n ++ ": not a shell builtin".toList) 1

/-- Call a command by its name: a function, a command of the shell or one of the machine. -/
def callCommand (x : Engine) : (fuel : Nat) → Calling → Text → List Text → Run Unit
  | 0, _, _, _ => overflow
  | fuel + 1, c, name, args => do
    let s ← get
    let isHidden := c.bare || (!s.isExtended && Builtin.isSpecial name)
    match if isHidden then none else s.functions.lookup name with
    | some routine => callFunction x c.tested name routine args
    | none =>
      match own? x c (callCommand x fuel) s name with
      | some run => runOwn c name (run name args)
      | none => startCommand x c.standardPath name args

end GoRepl.Machine.Shell
