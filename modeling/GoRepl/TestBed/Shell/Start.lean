import GoRepl.TestBed.Shell.Run

/-! # Test bed: shells that are started

What a shell is given when it is started, and where its script comes from. -/

namespace GoRepl.Machine.Shell

/-! ## Arguments -/

/-- How a shell is started: the letters of its options, the further options of the extended shell,
and what is left of its arguments. -/
structure Startup where
  letters : List Char := []
  switches : List Text := []
  rest : List Text := []

/-- The letters that a shell knows when it is started. -/
def startLetters (d : Dialect) : List Char :=
  match d with
  | .plain => "cefIimnsxvVECabupl".toList
  | .extended => "cabefhkmnptuvxBCEHPTilrsDO".toList

/-- The names of options that make no difference, with whether a value follows them. -/
def idleNames : List (String × Bool) :=
  [("debug", false), ("debugger", false), ("login", false), ("noediting", false),
    ("noprofile", false), ("norc", false), ("posix", false), ("restricted", false),
    ("rcfile", true), ("init-file", true)]

/-- How the arguments of a shell are at fault. -/
inductive StartFault where
  | option (t : Text)
  | name (t : Text)
  | switchName (t : Text)

/-- Read the arguments of a shell. -/
def Startup.read (d : Dialect) : (fuel : Nat) → Startup → List Text → Except StartFault Startup
  | 0, s, args => .ok { s with rest := args }
  | _, s, [] => .ok s
  | fuel + 1, s, arg :: args =>
    match arg, d with
    | ['-', '-'], _ | ['-'], _ => .ok { s with rest := args }
    | '-' :: '-' :: name, .extended =>
      match idleNames.find? (·.1.toList = name) with
      | some (_, isValued) => Startup.read d fuel s (if isValued then args.tail else args)
      | none =>
        if name = "verbose".toList then
          Startup.read d fuel { s with letters := 'v' :: s.letters } args
        else .error (.option arg)
    | '-' :: cs, _ | '+' :: cs, _ =>
      let on := arg.head? = some '-'
      match cs.find? fun c => c ≠ 'o' && !(startLetters d).contains c with
      | some c => .error (.option ['-', c])
      | none =>
        let given := cs.filter fun c => c ≠ 'o' && c ≠ 'O'
        let letters := if on then given ++ s.letters
          else s.letters.filter fun c => !given.contains c
        let s := { s with letters }
        match cs.contains 'o', cs.contains 'O', args with
        | true, _, name :: args =>
          match Builtin.optionChar? d name with
          | some c =>
            let letters := if on then c :: letters else letters.filter (· ≠ c)
            Startup.read d fuel { s with letters } args
          | none => .error (.name name)
        | _, true, name :: args =>
          if Builtin.switchNames.any (·.1.toList = name) then
            Startup.read d fuel { s with switches := name :: s.switches } args
          else .error (.switchName name)
        | _, _, args => Startup.read d fuel s args
    | _, _ => .ok { s with rest := arg :: args }

/-- The options that stay set. -/
def Startup.options (s : Startup) (d : Dialect) : List Char :=
  s.letters.filter fun c => (d = .extended || c ≠ 'c') && c ≠ 'l'

/-- How the extended shell is called. -/
def startUsage (name : Text) : Text :=
  let options := ["debug", "debugger", "dump-po-strings", "dump-strings", "help", "init-file",
    "login", "noediting", "noprofile", "norc", "posix", "pretty-print", "rcfile", "restricted",
    "verbose", "version"]
  "Usage:\t".toList ++ name ++ " [GNU long option] [option] ...\n\t".toList ++ name ++
    " [GNU long option] [option] script-file ...\nGNU long options:\n".toList ++
    options.flatMap (fun t => "\t--".toList ++ t.toList ++ ['\n']) ++
    ("Shell options:\n\t-ilrsD or -c command or -O shopt_option\t\t(invocation only)\n" ++
      "\t-abefhkmnptuvxBCEHPT or -o option\n").toList

/-! ## The first state -/

/-- The variables that the extended shell has from the start. -/
def extendedVariables (c : Call) (d : Disk) (parent : Nat) : List (Text × Variable) :=
  let search := searched c.environment
  let path := if c.name.contains '/' then c.name
    else (lookUp d c.place search c.name).toOption.getD "/usr/bin/bash".toList
  let path := if Path.isAbsolute path then path
    else Builtin.normalized (Files.joined (Narrow.ofText (Path.ofParts true c.place)) path)
  let version := ["5", "2", "15", "1", "release", "x86_64-pc-linux-gnu"].map String.toList
  let plain (n t : String) : Text × Variable := (n.toList, .ofText t.toList)
  let user := decimal Listing.userNumber
  let own (n : String) (t : Text) : Text × Variable :=
    (n.toList, { value := .text t, readonly := true, integer := true })
  [ ("BASH".toList, .ofText path),
    ("BASH_VERSINFO".toList, { value := .ofList version, readonly := true }),
    plain "BASH_VERSION" "5.2.15(1)-release", plain "HOSTNAME" "localhost",
    plain "HOSTTYPE" "x86_64", plain "OSTYPE" "linux-gnu",
    plain "MACHTYPE" "x86_64-pc-linux-gnu", plain "OPTERR" "1", plain "SHELL" "/bin/bash",
    plain "TERM" "dumb", own "UID" user, own "EUID" user, own "PPID" (decimal parent) ]

/-- The depth to which shells are nested, for one more of them. -/
def nextLevel (t : Option Text) : Text :=
  decimal (((t.bind natural?).getD 0) + 1)

/-- The variables with which a shell begins. -/
def firstVariables (dialect : Dialect) (c : Call) (d : Disk) (parent : Nat) :
    Ledger Text Variable :=
  let given := c.environment.filter fun ((n, _) : Text × Text) => isName n && n ≠ ['_']
  let vars : Ledger Text Variable := given.foldl (fun vars ((n, t) : Text × Text) =>
    vars.put n { value := .text t, exported := true }) .empty
  let default (vars : Ledger Text Variable) (v : Text × Variable) : Ledger Text Variable :=
    if (vars.get? v.1).isSome then vars else vars.put v.1 v.2
  let real := Narrow.ofText (Path.ofParts true c.place)
  let isHere (t : Text) : Bool := Path.isAbsolute t &&
    ((d.locate c.place (Call.path t)).toOption.map Disk.Spot.id) = d.at? c.place
  let here := (((vars.get? "PWD".toList).bind Variable.text?).filter isHere).getD real
  let vars := vars.put "PWD".toList { value := .text here, exported := true }
  let vars := vars.put "OPTIND".toList (.ofText ['1'])
  let vars := vars.put "IFS".toList (.ofText [' ', '\t', '\n'])
  let vars := [("PATH", searchPath), ("PS4", ['+', ' '])].foldl
    (fun vars ((n, t) : String × Text) => default vars (n.toList, .ofText t)) vars
  match dialect with
  | .plain =>
    let vars := [("PS1", ['$', ' ']), ("PS2", ['>', ' '])].foldl
      (fun vars ((n, t) : String × Text) => default vars (n.toList, .ofText t)) vars
    vars.put "PPID".toList (.ofText (decimal parent))
  | .extended =>
    let vars := default vars ("OLDPWD".toList, { exported := true })
    let level := nextLevel ((vars.get? "SHLVL".toList).bind Variable.text?)
    let vars := vars.put "SHLVL".toList { value := .text level, exported := true }
    (extendedVariables c d parent).foldl default vars

/-- The state in which a shell begins. -/
def firstState (dialect : Dialect) (c : Call) (number : Nat) (m : Machine) : Shell :=
  let parent := number - 1
  let bindings := firstVariables dialect c m.disk parent
  let reached := (bindings.get? "PWD".toList).bind Variable.text?
  { dialect, name := c.name, place := c.place, reached, bindings, streams := c.streams
    umask := c.umask, number, main := number, parent, start := m.clock
    lastWord := (c.environment.lookup ['_']).getD c.name
    switches := if dialect = .extended then Builtin.initialSwitches else [] }

/-! ## Starting -/

/-- Complain about the start of a shell, and end it with a status. -/
def refuseStartup (message : Text) (status : Nat) : Run Unit := do
  let s ← get
  let start := s.name ++ (if s.isExtended then ": " else ": 0: ").toList
  put 2 (start ++ message ++ ['\n'])
  setStatus status
  throw .exit

def refuseFault (fault : StartFault) : Run Unit := do
  let s ← get
  match s.dialect, fault with
  | .plain, .option t | .plain, .switchName t =>
    refuseStartup ("Illegal option ".toList ++ t.take 2) 2
  | .plain, .name t => refuseStartup ("Illegal option -o ".toList ++ t) 2
  | .extended, .option t =>
    put 2 (s.name ++ ": ".toList ++ t ++ ": invalid option\n".toList ++ startUsage s.name)
    setStatus 2
    throw .exit
  | .extended, .name t =>
    refuseStartup (s.name ++ ": ".toList ++ t ++ ": invalid option name".toList) 2
  | .extended, .switchName t => refuseStartup (t ++ ": invalid shell option name".toList) 2

/-- The path of the file that a shell reads its script from. -/
def scriptPath (s : Shell) (d : Disk) (file : Text) : Text :=
  if !s.isExtended || file.contains '/' || d.exists? s.place (Call.path file) then file
  else (fileFor? s d file).getD file

/-- Does a text begin with a line that no script has? -/
def isBinary (t : Text) : Bool :=
  ((t.take 80).takeWhile (· ≠ '\n')).contains '\x00'

/-- Run the script in a file. -/
def runFile (x : Engine) (file : Text) (args : List Text) : Run Unit := do
  let s ← get
  let d := (← machine).disk
  let path := scriptPath s d file
  let found := d.locate s.place (Call.path path)
  let feed : Feed := match found with
    | .ok spot => if d.isFile s.place (Call.path path) then .file spot.id else .fixed
    | .error _ => .fixed
  match s.dialect, ← wholeOf path with
  | _, .ok text =>
    if s.isExtended && isBinary text then
      refuseStartup (file ++ ": ".toList ++ file ++ ": cannot execute binary file".toList) 126
    else
      set { s with name := path, args }
      runScript x { text, feed }
  | .plain, .error .isDirectory => setStatus 0
  | .plain, .error fault => refuseStartup (s.openFailure false file fault) 2
  | .extended, .error .isDirectory =>
    set { s with name := file }
    refuseStartup (file ++ ": Is a directory".toList) 126
  | .extended, .error fault =>
    refuseStartup (path ++ ": ".toList ++ Call.reason fault)
      (if fault = .notFound then 127 else 126)

/-- Run the script that is read from the input. The plain shell reads all of it at once. -/
def runInput (x : Engine) : Run Unit := do
  let s ← get
  modify fun s => { s with options := 's' :: s.options.filter (· ≠ 's') }
  match s.streams.lookup 0 with
  | none => return
  | some id =>
    match s.dialect with
    | .plain => runScript x { text := ← work (drainAll id) }
    | .extended => runScript x { text := (← work (drain id)).text, feed := .input id }

/-- Run the script that the arguments of a shell ask for. -/
def runStartup (x : Engine) (args : List Text) : Run Unit := do
  let s ← get
  match Startup.read s.dialect (args.length + 1) {} args with
  | .error fault => refuseFault fault
  | .ok start =>
    modify fun s => { s with
      options := start.options s.dialect, switches := start.switches ++ s.switches }
    match start.letters.contains 'c', start.rest with
    | true, [] =>
      refuseStartup (if s.isExtended then "-c: option requires an argument"
        else "-c requires an argument").toList 2
    | true, text :: rest =>
      modify fun s => { s with
        name := rest.headD s.name, args := rest.tail
        bindings := if s.isExtended then
            s.bindings.put "BASH_EXECUTION_STRING".toList (.ofText text)
          else s.bindings }
      runScript x { text, title := some "-c".toList }
    | false, file :: args =>
      if start.letters.contains 's' then
        modify ({ · with args := file :: args })
        runInput x
      else runFile x file args
    | false, [] => runInput x

/-- How deep commands may be nested in a shell. -/
def runDepth : Nat := 100000

/-- Run a shell as it is called. -/
def runShell (launch : Launch) (dialect : Dialect) (c : Call) : Work Result := do
  let number ← match c.number with
    | some n => pure n
    | none => newNumber
  let x : Engine := { launch, run := run launch runDepth }
  runApart number (firstState dialect c number (← get)) do
    ending (runText x) (runStartup x c.args)

end GoRepl.Machine.Shell
