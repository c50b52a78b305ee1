import GoRepl.TestBed.Executable
import GoRepl.TestBed.Shell.Arithmetic
import GoRepl.TestBed.Shell.Variable

/-! # Test bed: the state of a shell

What a shell knows while it runs: its parameters and variables, its open streams, what it does when
it ends; and how it goes on from there on the machine. -/

namespace GoRepl.Machine

namespace Shell

/-- A function: what it does, and the file that it comes from if that is not the script. -/
structure Routine where
  body : Command
  origin : Option Text := none
  /-- What is added to the lines of its commands. -/
  base : Nat := 0

/-- What a shell has for itself. Another shell that it starts as a part of itself begins with a
copy. -/
structure Frame where
  dialect : Dialect := .plain
  /-- The name under which the script was called. -/
  name : Text
  args : List Text := []
  place : Place
  /-- The path of the working directory as it was reached. -/
  reached : Option Text := none
  bindings : Ledger Text Variable := .empty
  functions : List (Text × Routine) := []
  aliases : List (Text × Text) := []
  /-- The letters of the options that are set. -/
  options : List Char := []
  /-- The further options of the extended shell that are set. -/
  switches : List Text := []
  /-- The place of the latest letter among the arguments that `getopts` has read. -/
  optionSpot : Nat × Nat := (1, 0)
  /-- What is to be done at the end, or when a signal comes, latest first. -/
  traps : List (Text × Text) := []
  /-- The traps of the shell that this one is a copy of, as long as it has none of its own. -/
  formerTraps : List (Text × Text) := []
  /-- Are the commands run for the sake of what they print? -/
  isCaptured : Bool := false
  /-- The occasions that are being dealt with. -/
  dealing : List Text := []
  streams : List (Nat × StreamId) := []
  /-- The numbers of the streams that are open for the current command only. -/
  passing : List Nat := []
  /-- The permissions that new files do not get. -/
  umask : Nat := 18
  line : Nat := 0
  /-- The line up to which the script has been read. -/
  readLine : Nat := 1
  /-- What is added to the lines of commands that are counted on their own. -/
  base : Nat := 0
  /-- The file or the command that the commands come from, if they do not stand in the script. -/
  inside : Option Text := none
  /-- The files that are being read into the script. -/
  sources : List Text := []
  /-- The number of loops around the command. -/
  loops : Nat := 0
  /-- The functions that were called and have not come to their end, each with the line of the call,
  latest first. -/
  callers : List (Text × Nat) := []
  /-- The status of the latest round of the innermost loop. -/
  lastRound : Nat := 0
  /-- What the variables of a function's own were before, latest first. -/
  locals : Option (List (Text × Option Variable)) := none
  /-- The directories that were left for a time. -/
  directories : List Place := []
  /-- The last word of the latest command. -/
  lastWord : Text := []
  /-- The number of the process, that of the process which runs the script, and that of its
  parent. -/
  number : Nat
  main : Nat
  parent : Nat
  /-- How many shells there are around this one, of which it is a part. -/
  level : Nat := 0
  /-- How many texts are being run in place of commands. -/
  nesting : Nat := 0
  /-- When the script was started. -/
  start : Int := 0
  /-- What the next random number comes from. -/
  seed : Nat := 42

/-- A command that runs beside the shell. -/
structure Job where
  index : Nat
  number : Nat
  shown : Text

end Shell

structure Shell extends Shell.Frame where
  status : Nat := 0
  /-- How the members of the latest pipeline ended. -/
  statuses : List Nat := [0]
  /-- Have commands been run for the sake of what they print? -/
  substituted : Bool := false
  /-- The number of the command that was started last to run beside the shell. -/
  lastStarted : Option Nat := none
  /-- The commands that run beside the shell, latest first, and the numbers of those that are over
  and have been waited for. -/
  jobs : List Shell.Job := []
  finished : List Nat := []
  /-- What runs beside the shell that this one is a copy of, if it may tell that. -/
  formerJobs : List Shell.Job := []

namespace Shell

/-- Why commands are not run to their end. -/
inductive Jump where
  | leaveLoops (n : Nat)
  | nextRound (n : Nat)
  | leaveFunction
  /-- The commands that were read together are given up. -/
  | giveUp
  /-- A fault ends the plain shell, unless it came about in a command that may fail. -/
  | fault
  | exit
deriving DecidableEq, Repr

abbrev Run := ExceptT Jump (StateT Shell Work)

/-- Do something on the machine. -/
def work {α : Type} (w : Work α) : Run α := ExceptT.lift (StateT.lift w)

def machine : Run Machine := work get

/-- Note in which line a command is. -/
def setLine (n : Nat) : Run Unit := modify fun s => { s with line := s.base + n }

def setStatus (n : Nat) : Run Unit := modify ({ · with status := n })

/-- Commands start one another without an end. -/
def overflow {α : Type} : Run α := work spin

/-- How a run ends: with a result or by a jump. -/
def attempt {α : Type} (m : Run α) : Run (Except Jump α) := ExceptT.lift (ExceptT.run m)

/-- Do something after a run, however that ends. -/
def always {α : Type} (m : Run α) (after : Run Unit) : Run α := do
  let result ← attempt m
  after
  match result with
  | .ok a => return a
  | .error j => throw j

/-- Does the extended shell run? -/
def isExtended (s : Shell) : Bool := s.dialect = .extended

def hasOption (s : Shell) (c : Char) : Bool := s.options.contains c

def hasSwitch (s : Shell) (name : String) : Bool := s.switches.contains name.toList

/-! ## The values of parameters -/

/-- The variable that a name stands for, through those that hold names of others. -/
def targetName (s : Shell) (name : Text) : Text :=
  go 8 name
where
  go : (fuel : Nat) → Text → Text
    | 0, name => name
    | fuel + 1, name =>
      match s.bindings.get? name with
      | some v =>
        if v.reference then
          match v.value with
          | .text t => go fuel t
          | _ => name
        else name
      | none => name

/-- The seconds of a time in microseconds. -/
def seconds (time : Int) : Nat := (time / 1000000).toNat

/-- The values that the extended shell knows for some names unless they are given others. -/
def knownValue? (s : Shell) (now : Int) (name : Text) : Option Value :=
  let one (t : Text) : Option Value := some (.text t)
  let many (ts : List Text) : Option Value := some (.ofList ts)
  match String.ofList name with
  | "LINENO" => one (decimal s.line)
  | "SECONDS" => one (decimal (seconds (now - s.start)))
  | "EPOCHSECONDS" => one (decimal (seconds now))
  | "EPOCHREALTIME" =>
    let rest := decimal (now % 1000000).toNat
    one (decimal (seconds now) ++ ['.'] ++ List.replicate (6 - rest.length) '0' ++ rest)
  | "RANDOM" => one (decimal (Nat.xor (s.seed / 65536) (s.seed % 65536) % 32768))
  | "BASHPID" => one (decimal s.number)
  | "BASH_SUBSHELL" => one (decimal s.level)
  | "FUNCNAME" =>
    if s.callers.isEmpty then none else many (s.callers.map Prod.fst ++ ["main".toList])
  | "BASH_SOURCE" => many (s.callers.map (fun _ => s.name) ++ s.sources ++ [s.name])
  | "BASH_LINENO" => many (s.callers.map (fun ((_, n) : Text × Nat) => decimal n) ++ [['0']])
  | "PIPESTATUS" => many (s.statuses.map decimal)
  | "DIRSTACK" =>
    many ((s.place :: s.directories).map fun p => Narrow.ofText (Path.ofParts true p))
  | "_" => one s.lastWord
  | _ => none

def bound? (s : Shell) (now : Int) (name : Text) : Option Variable :=
  match s.bindings.get? (s.targetName name) with
  | some v => some v
  | none =>
    if s.isExtended then (s.knownValue? now name).map fun value => { value } else none

/-- The value of a variable that the shell keeps itself. -/
def value? (s : Shell) (name : Text) : Option Text := (s.bindings.get? name).bind Variable.text?

/-- The signs for the options that are set, in the order in which they are told. -/
def optionLetters (s : Shell) : Text :=
  match s.dialect with
  | .plain => "ubaCEVvxsnmiIfe".toList.filter s.hasOption
  | .extended =>
    "abefhkmnptuvxBCEHPTcs".toList.filter fun c => s.hasOption c || c = 'h' || c = 'B'

/-- The value of a parameter that stands for one text. -/
def param? (s : Shell) (now : Int) (name : Text) : Option Text :=
  match name with
  | ['#'] => some (decimal s.args.length)
  | ['?'] => some (decimal s.status)
  | ['$'] => some (decimal s.main)
  | ['!'] => s.lastStarted.map decimal
  | ['-'] => some s.optionLetters
  | ['0'] => some s.name
  | _ =>
    match natural? name with
    | some n => if n = 0 then some s.name else s.args[n - 1]?
    | none => (s.bound? now name).bind Variable.text?

/-- What an arithmetic expression sees of the variables. -/
def view (s : Shell) (now : Int) : Expression.View where
  extended := s.isExtended
  isTable name := (s.bound? now name).any fun v => v.value.isTable
  value? spot :=
    match spot with
    | (name, none) => if s.isExtended then s.param? now name else s.value? name
    | (name, some index) => (s.bound? now name).bind fun v => v.value.element? index
  strict := s.hasOption 'u'

/-- The order in which the exported variables are handed on: that of the tables in which they
stand. -/
def exportOrder {α : Type} (d : Dialect) (entries : List (Text × α)) : List (Text × α) :=
  match d with
  | .plain =>
    let bucket (name : Text) : Nat :=
      name.foldl (fun h c => h + c.toNat) ((name.headD ' ').toNat * 16) % 39
    entries.mergeSort fun a b => bucket a.1 ≤ bucket b.1
  | .extended => Value.inTableOrder entries

/-- The exported variables with their values. -/
def environment (s : Shell) : List (Text × Text) :=
  exportOrder s.dialect <| s.bindings.entries.filterMap fun ((name, v) : Text × Variable) =>
    if !v.exported then none
    else match v.value with
      | .text t => some (name, t)
      | _ => none

/-! ## Complaints -/

/-- What stands before a complaint: the script and the line. -/
def origin (s : Shell) : Text :=
  match s.dialect with
  | .plain => s.name ++ ": ".toList ++ decimal s.line
  | .extended => s.inside.getD s.name ++ ": line ".toList ++ decimal s.line

/-- A command of the shell itself, as it is called. -/
def call (s : Shell) (name : Text) (args : List Text) : Call :=
  { name, args, place := s.place, streams := s.streams, umask := s.umask }

/-- Write to an open stream. -/
def put (n : Nat) (t : Text) : Run Unit := do
  match (← get).streams.lookup n with
  | some id => work (Machine.write id t)
  | none => return

/-- Write a complaint of the shell about one of its own commands. -/
def complainAs (name message : Text) : Run Unit := do
  put 2 ((← get).origin ++ ": ".toList ++ name ++ ": ".toList ++ message ++ ['\n'])

/-- Write a complaint of the shell itself. -/
def complain (message : Text) : Run Unit := do
  let s ← get
  match if s.isExtended then none else s.inside with
  | some name => complainAs name message
  | none => put 2 (s.origin ++ ": ".toList ++ message ++ ['\n'])

/-- Complain and end the shell. -/
def fatal {α : Type} (message : Text) : Run α := do
  complain message
  if (← get).isExtended then
    setStatus 1
    throw .exit
  else
    setStatus 2
    throw .fault

/-- Complain about a fault in a command: it ends the plain shell, and the extended one gives up
what it has read. -/
def refuse {α : Type} (message : Text) : Run α := do
  complain message
  if (← get).isExtended then
    setStatus 1
    throw .giveUp
  else
    setStatus 2
    throw .fault

/-! ## Changing variables -/

/-- The words for why a variable is not changed. -/
def readonlyMessage (s : Shell) (name : Text) : Text :=
  name ++ (if s.isExtended then ": readonly variable" else ": is read only").toList

/-- The value of an expression. What it assigns is done by `assign`. -/
def valueOf (assign : Expression.Spot → Text → Run Unit) (start : Text) (t : Text) : Run Int := do
  let s ← get
  match Expression.evaluate (s.view (← machine).clock) t with
  | .ok (n, changes) =>
    for (spot, t) in changes do
      assign spot t
    return n
  | .error (.unset name) =>
    fatal (name ++ (if s.isExtended then ": unbound variable" else ": parameter not set").toList)
  | .error fault =>
    refuse (if s.isExtended then start ++ fault.extendedMessage t else fault.plainMessage t)

/-- How long a text may be before it counts as one that grows for ever. -/
def textLimit : Nat := Nat.pow 2 22

/-- The next one of the random numbers. -/
def nextSeed (seed : Nat) : Nat :=
  let seed := if seed = 0 then 123459876 else seed
  let high := seed / 127773
  let low := seed - 127773 * high
  let n : Int := 16807 * low - 2836 * high
  (if n < 0 then n + 2147483647 else n).toNat

/-- Change a variable, unless it is protected. -/
def alterVariable (name : Text) (f : Variable → Run Variable) : Run Unit := do
  let s ← get
  let name := s.targetName name
  let old := (s.bindings.get? name).getD {}
  if old.readonly then refuse (s.readonlyMessage name)
  else
    let new ← f old
    modify fun s =>
      let new := { new with exported := new.exported || s.hasOption 'a', isBare := false }
      { s with bindings := s.bindings.put name new }

/-- The text that a variable gets, which may be added to an old one. `sum` finds the values of
expressions. -/
def madeFor (sum : Text → Run Int) (v : Variable) (old : Text) (adds : Bool) (t : Text) :
    Run Text := do
  if v.integer then
    let n ← sum t
    let m ← if adds then sum old else pure 0
    return Expression.shown (Expression.wrap (m + n))
  else
    let t := if adds then old ++ t else t
    if textLimit < t.length then overflow
    return match v.case? with
      | some c => inCase c t
      | none => t

/-- The variables of the extended shell that are not changed by a value given to them. -/
def unchanging : List String :=
  ["LINENO", "EPOCHSECONDS", "EPOCHREALTIME", "BASHPID", "FUNCNAME", "BASH_LINENO", "BASH_SOURCE"]

/-- Values that have a meaning for the shell itself. -/
def noted (name t : Text) (now : Int) (s : Shell) : Shell :=
  if name = "OPTIND".toList then { s with optionSpot := ((natural? t).getD 1, 0) }
  else if !s.isExtended then s
  else if unchanging.any (·.toList = name) then { s with bindings := s.bindings.erase name }
  else if name = "RANDOM".toList then
    { s with seed := (natural? t).getD 0, bindings := s.bindings.erase name }
  else if name = "SECONDS".toList then
    { s with start := now - ((natural? t).getD 0) * 1000000, bindings := s.bindings.erase name }
  else s

/-- Give a variable or an element of it a value, or add to its value. Expressions are evaluated to
a certain depth only. -/
def assignAt (fuel : Nat) (name : Text) (index : Option Text) (adds : Bool) (t : Text) :
    Run Unit :=
  match fuel with
  | 0 => overflow
  | fuel + 1 => do
    let isBound := ((← get).bindings.get? name).isSome
    let sum : Text → Run Int :=
      valueOf (fun (name, index) t => assignAt fuel name index false t) []
    alterVariable name fun v => do
      let old := match index with
        | none => v.value.text?
        | some i => v.value.element? i
      let t ← madeFor sum v (old.getD []) adds t
      match index, v.value with
      | none, value => return { v with value := value.put t }
      | some i, .table es => return { v with value := .table (Value.putEntry i t es) }
      | some i, value =>
        let n : Int := match i with
          | '-' :: t => -((natural? t).getD 0 : Int)
          | t => ((natural? t).getD 0 : Int)
        match value.number? n with
        | some n => return { v with value := value.putNumber n t }
        | none => refuse (name ++ ['['] ++ i ++ "]: bad array subscript".toList)
    if index.isNone && !isBound || name = "OPTIND".toList then
      let now := (← machine).clock
      modify (noted name t now)

/-- Give a variable a value. -/
def assign (name value : Text) : Run Unit := assignAt 8 name none false value

/-- Give a variable a value and tell whether that is done. The extended shell goes on with the
status `status` after a variable that is protected. -/
def assignOr (status : Nat) (name value : Text) : Run Bool := do
  let s ← get
  if s.isExtended && (s.bindings.get? (s.targetName name)).any Variable.readonly then
    complain (s.readonlyMessage name)
    setStatus status
    return false
  else
    assign name value
    return true

/-- The value of an expression, which may change variables. -/
def calculateText (start t : Text) : Run Int :=
  valueOf (fun (name, index) t => assignAt 8 name index false t) start t

/-- Take a random number. -/
def drawNumber : Run Unit := modify fun s => { s with seed := nextSeed s.seed }

/-- Variables after some of them have become again what they were. -/
def restored (old : List (Text × Option Variable)) (bindings : Ledger Text Variable) :
    Ledger Text Variable :=
  old.foldl (fun vars ((name, v) : Text × Option Variable) => match v with
    | some v => vars.put name v
    | none => vars.erase name) bindings

/-- Do something by which the shell gives nothing up: was it done? -/
def succeeds (m : Run Unit) : Run Bool := do
  match ← attempt m with
  | .ok () => return true
  | .error .giveUp => return false
  | .error j => throw j

end Shell
end GoRepl.Machine
