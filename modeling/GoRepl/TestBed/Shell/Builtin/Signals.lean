import GoRepl.TestBed.Shell.Builtin.Reading

/-! # Test bed: commands about signals and jobs

Commands of a shell by which signals are sent and caught, and by which it waits for what it has
started to run beside it. -/

namespace GoRepl.Machine.Shell.Builtin

/-! ## Traps -/

/-- The occasions that are no signals, in the order in which they are told. -/
def occasions : List String := ["DEBUG", "ERR", "RETURN"]

/-- The name of a signal or an occasion that is given by its name or number. -/
def trapName? (d : Dialect) (t : Text) : Option Text :=
  match d with
  | .plain =>
    if "SIG".toList.isPrefixOf (t.map Char.toUpper) then none
    else (Starting.signal? t).bind known
  | .extended =>
    let upper := t.map Char.toUpper
    if occasions.any (·.toList = upper) then some upper else (Starting.signal? t).bind known
where
  known (n : Nat) : Option Text := if n < 32 then some (Starting.signalName n) else none

/-- The place of a trap among all of them. -/
def trapRank (name : Text) : Nat :=
  match Starting.signals.find? (·.1.toList = name) with
  | some (_, n) => n
  | none => 70 + (occasions.findIdx (·.toList = name))

/-- A trap as it is told. -/
def shownTrap (d : Dialect) (trap : Text × Text) : Text :=
  let (name, action) := trap
  let isSignal := 0 < trapRank name && trapRank name < 70
  "trap -- ".toList ++ (match d with
    | .plain => inQuotes action ++ [' '] ++ name
    | .extended => inSingleQuotes action ++ [' '] ++
        (if isSignal then "SIG".toList else []) ++ name) ++ ['\n']

/-- Tell some traps, or all. -/
def printTraps (name : Text) (names : List Text) : Run Unit := do
  let s ← get
  let traps := s.traps ++ (if s.isExtended then s.formerTraps else []).filter fun t =>
    (s.traps.lookup t.1).isNone
  let kept := if names.isEmpty then traps else traps.filter fun t => names.contains t.1
  let kept := kept.mergeSort fun a b => trapRank a.1 ≤ trapRank b.1
  answer name (kept.flatMap (shownTrap s.dialect))

/-- The signals by which the extended shell comes to an orderly end. -/
def orderlySignals : List Nat := [1, 2, 4, 5, 6, 7, 8, 10, 11, 12, 13, 14, 15, 24, 25, 26, 27, 31]

/-- Set what is to be done on an occasion, or have it done no more. -/
def setTrap (name : Text) (action : Option Text) : Run Unit := do
  modify fun s =>
    let others := s.traps.filter (·.1 ≠ name)
    { s with
      formerTraps := []
      traps := match action with
      | some t => (name, t) :: others
      | none => others }
  let s ← get
  let endsOrderly := s.isExtended && (s.traps.lookup "EXIT".toList).isSome
  match Starting.signals.find? (·.1.toList = name) with
  | some (_, 0) =>
    if s.isExtended then
      for n in orderlySignals do
        if (s.traps.lookup (Starting.signalName n)).isNone then
          work (setCaught s.number n endsOrderly)
  | some (_, n) =>
    work (setCaught s.number n (action.isSome || (endsOrderly && orderlySignals.contains n)))
  | none => return

/-- Signals in columns, with their numbers. -/
def signalTable : Text :=
  let names := (Starting.signals.filter (0 < ·.2)).map fun ((n, k) : String × Nat) =>
    padStart 2 ' ' (decimal k) ++ ") SIG".toList ++ n.toList
  (pieces 5 names).flatMap fun row => List.intercalate ['\t'] row ++ ['\n']

def trap : Builtin := fun name args => do
  let s ← get
  withOptions (if s.isExtended then "lp" else "") "" name args fun o => do
    if o.has 'l' then answer name signalTable
    else if o.has 'p' then printTraps name (o.operands.filterMap (trapName? s.dialect))
    else
      let isReset (t : Text) : Bool := t ≠ [] && t.all Text.isDigit
      match o.operands with
      | [] => printTraps name []
      | action :: given =>
        let (action, given) : Option Text × List Text :=
          if given.isEmpty || isReset action then (none, action :: given)
          else (if action = ['-'] then none else some action, given)
        setStatus 0
        if s.isExtended && given.length = 1 && o.operands.length = 1 &&
            (given.any fun t => (trapName? s.dialect t).isNone) then showUsage name
        else
          for t in given do
            match trapName? s.dialect t with
            | none =>
              if s.isExtended then complainAs name (t ++ ": invalid signal specification".toList) 1
              else
                put 2 (name ++ ": ".toList ++ t ++ ": bad trap\n".toList)
                setStatus 1
            | some n => setTrap n action

/-! ## Jobs -/

/-- The state of a job: whether it is over, and how that is told. -/
def jobState (d : Dialect) (ended : Option Ended) : Bool × Text :=
  match ended with
  | none => (false, "Running".toList)
  | some e =>
    (true, if e.status = 0 then "Done".toList
      else if 128 < e.status then (signalWords (e.status - 128)).toList
      else match d with
        | .plain => "Done(".toList ++ decimal e.status ++ [')']
        | .extended => "Exit ".toList ++ decimal e.status)
where
  signalWords (n : Nat) : String :=
    match n with
    | 1 => "Hangup"
    | 2 => "Interrupt"
    | 3 => "Quit"
    | 6 => "Aborted"
    | 9 => "Killed"
    | 10 => "User defined signal 1"
    | 11 => "Segmentation fault"
    | 12 => "User defined signal 2"
    | 13 => "Broken pipe"
    | 14 => "Alarm clock"
    | 15 => "Terminated"
    | _ => "Unknown signal"

/-- The words about a process that a signal ended, unless that is usual. -/
def signalMessage? (signal : Nat) : Option Text :=
  if signal = 2 || signal = 13 then none
  else some (jobState.signalWords signal).toList

/-- The job that a sign with a number or a text after a percent sign stands for. -/
def jobFor? (s : Shell) (t : Text) : Option Job :=
  match t with
  | ['%'] | ['%', '+'] | ['%', '%'] => s.jobs.head?
  | ['%', '-'] => s.jobs[1]? <|> s.jobs.head?
  | '%' :: t =>
    match natural? t with
    | some n => s.jobs.find? (·.index = n)
    | none => s.jobs.find? fun j => t.isPrefixOf j.shown
  | _ => none

/-- Tell which jobs there are, and forget those that are over. -/
def listJobs : Builtin := fun name args => do
  let s ← get
  withOptions "lprns" "" name args fun o => do
    let m ← machine
    let jobs := if s.isExtended then s.jobs ++ s.formerJobs else s.jobs
    let marked (j : Job) : Char :=
      match jobs with
      | first :: rest =>
        if j.number = first.number then '+'
        else if rest.head?.any (·.number = j.number) then '-' else ' '
      | [] => ' '
    let line (j : Job) : Text :=
      let (isOver, state) := jobState s.dialect (m.endOf? j.number)
      if o.has 'p' then decimal j.number ++ ['\n']
      else match s.dialect with
        | .plain =>
          let t := ['['] ++ decimal j.index ++ "] ".toList ++ [marked j, ' '] ++ state
          t ++ List.replicate (33 - t.length) ' ' ++ ['\n']
        | .extended =>
          ['['] ++ decimal j.index ++ [']', marked j, ' ', ' '] ++
            (if o.has 'l' then decimal j.number ++ [' '] else []) ++
            state ++ List.replicate (24 - state.length) ' ' ++ j.shown ++
            (if isOver then ['\n'] else " &\n".toList)
    setStatus 0
    let named ← o.operands.filterMapM fun t => do
      match jobFor? { s with jobs } t with
      | some j => return some j.number
      | none =>
        if s.isExtended then complainAs name (t ++ ": no such job".toList) 1
        else fatalAs name ("No such job: ".toList ++ t)
        return none
    let shown := jobs.filter fun j =>
      (o.operands.isEmpty || named.contains j.number) &&
      (!o.has 'r' || (m.endOf? j.number).isNone)
    let shown := if s.isExtended then shown.reverse else shown
    output name (shown.flatMap line)
    modify fun s => { s with jobs := s.jobs.filter fun j =>
      (m.endOf? j.number).isNone || !(shown.any (·.number = j.number)) }

/-! ## Sending signals -/

/-- Are there processes with a number? -/
def isAlive (s : Shell) (m : Machine) (number : Nat) : Bool :=
  number = s.main || number = s.number || number = s.parent ||
    (s.main ≤ number && number < m.nextNumber && (m.endOf? number).isNone)

/-- Send a signal to a process or job. -/
def sendTo (name : Text) (signal : Nat) (target : Text) : Run Unit := do
  let s ← get
  let m ← machine
  let number? : Option Nat := match target with
    | '%' :: _ => (jobFor? s target).map Job.number
    | '-' :: t => natural? t
    | t => natural? t
  match number?, target with
  | none, '%' :: _ =>
    if s.isExtended then complainAs name (target ++ ": no such job".toList) 1
    else complainAs name ("No such job: ".toList ++ target) 2
  | none, _ =>
    if s.isExtended then
      complainAs name (target ++ ": arguments must be process or job IDs".toList) 1
    else complainAs name ("Illegal number: ".toList ++ target) 2
  | some 0, _ => if signal ≠ 0 then work (send s.main signal)
  | some n, _ =>
    if isAlive s m n then
      if signal ≠ 0 then work (send n signal)
    else
      let why := (if n = 1 then "Operation not permitted" else "No such process").toList
      if s.isExtended then complainAs name (['('] ++ target ++ ") - ".toList ++ why) 1
      else
        Shell.complainAs name (why ++ ['\n'])
        setStatus 1

/-- Tell the names of signals, or those for numbers or statuses. -/
def listSignals (name : Text) (args : List Text) : Run Unit := do
  let s ← get
  if args.isEmpty then
    answer name (if s.isExtended then signalTable
      else ofLines (['0'] :: (Starting.signals.filter (0 < ·.2)).map (·.1.toList)))
  else
    setStatus 0
    for t in args do
      match natural? t with
      | some n =>
        let n := if 128 < n then n - 128 else n
        output name (Starting.signalName n ++ ['\n'])
      | none => match Starting.signal? t with
        | some n => output name (decimal n ++ ['\n'])
        | none =>
          if s.isExtended then complainAs name (t ++ ": invalid signal specification".toList) 1
          else complainAs name ("Illegal number: ".toList ++ t) 2

def kill : Builtin := fun name args => do
  let s ← get
  let invalid (t : Text) (named : Bool) : Run Unit :=
    if s.isExtended then complainAs name (t ++ ": invalid signal specification".toList) 1
    else if named then complainAs name ("invalid signal number or name: ".toList ++ t) 2
    else complainAs name ("Illegal option -".toList ++ t.take 1) 2
  let go (signal : Nat) (targets : List Text) : Run Unit := do
    if targets.isEmpty then usage name
    else
      setStatus 0
      targets.forM (sendTo name signal)
      work (sleep 0)
  match args with
  | [] => usage name
  | ['-', 'l'] :: rest | ['-', 'L'] :: rest => listSignals name rest
  | [option] =>
    if option = "-s".toList || option = "-n".toList then
      if s.isExtended then complainAs name (option ++ ": option requires an argument".toList) 1
      else complainAs name ("No arg for ".toList ++ option ++ " option".toList) 2
    else if option.head? = some '-' then usage name
    else go 15 [option]
  | option :: rest =>
    if option = "-s".toList || (s.isExtended && option = "-n".toList) then
      match rest with
      | [] => usage name
      | t :: targets =>
        match signalFor? s.dialect t with
        | some n => go n targets
        | none => invalid t true
    else if option = "--".toList then go 15 rest
    else match option with
      | '-' :: t =>
        match signalFor? s.dialect t with
        | some n => go n (if rest.head? = some "--".toList then rest.tail else rest)
        | none => invalid t false
      | _ => go 15 args
where
  usage (name : Text) : Run Unit := do
    if (← get).isExtended then showUsage name
    else complainAs name ("Usage: kill [-s sigspec | -signum | -sigspec] " ++
      "[pid | job]... or\nkill -l [exitstatus]").toList 2
  /-- The signal with a name or number; the plain shell knows names without their beginning only. -/
  signalFor? (d : Dialect) (t : Text) : Option Nat :=
    if d = .plain && "SIG".toList.isPrefixOf (t.map Char.toUpper) then none else Starting.signal? t

/-! ## Waiting -/

/-- The trapped signal that has come first and has not been taken notice of. -/
def pendingSignal? (s : Shell) (m : Machine) : Option Sent :=
  if m.sent.isEmpty then none
  else m.sentTo? s.number fun k =>
    (s.traps.lookup (Starting.signalName k)).any (· ≠ [])

/-- How long it takes until a signal is noticed. -/
def noticingTime : Nat := 100

/-- Wait until something has come about, or a trapped signal comes: the signal, if that was it. -/
def waitUnlessSignal (isOver : Machine → Bool) : Run (Option Nat) := do
  let s ← get
  if !isOver (← machine) then
    work (waitFor fun m =>
      if isOver m then some m.clock
      else (pendingSignal? s m).map fun sent => sent.time + noticingTime)
  let m ← machine
  if isOver m && !s.isExtended then return none
  else match pendingSignal? s m with
    | some sent => return some sent.signal
    | none => return none

/-- Forget a job. -/
def dropJob (number : Nat) : Run Unit :=
  modify fun s => { s with jobs := s.jobs.filter (·.number ≠ number) }

/-- Wait for one process, and take on its status. -/
def waitForOne (name t : Text) : Run Unit := do
  let s ← get
  let number? : Option Nat := match t with
    | '%' :: _ => (jobFor? s t).map Job.number
    | t => natural? t
  match number? with
  | none =>
    match t with
    | '%' :: _ =>
      if s.isExtended then complainAs name (t ++ ": no such job".toList) 127
      else complainAs name ("No such job: ".toList ++ t) 2
    | _ =>
      if s.isExtended then
        complainAs name ("`".toList ++ t ++ "': not a pid or valid job spec".toList) 1
      else complainAs name ("Illegal number: ".toList ++ t) 2
  | some n =>
    let isOwn := s.jobs.any (·.number = n) || (s.isExtended && s.finished.contains n)
    if !isOwn then
      if s.isExtended then
        complainAs name ("pid ".toList ++ t ++ " is not a child of this shell".toList) 127
      else setStatus 127
    else
      match ← waitUnlessSignal fun m => (m.endOf? n).isSome with
      | some signal => setStatus (128 + signal)
      | none =>
        let status := (((← machine).endOf? n).map Ended.status).getD 127
        setStatus status
        dropJob n
        modify fun s => { s with finished := n :: s.finished }
        if 128 < status && !s.isExtended then
          match signalMessage? (status - 128) with
          | some words => put 2 (words ++ ['\n'])
          | none => return

/-- Wait for everything that runs beside the shell. -/
def waitForAll : Run Unit := do
  let s ← get
  let isOver (m : Machine) : Bool := s.jobs.all fun j => (m.endOf? j.number).isSome
  match ← waitUnlessSignal isOver with
  | some signal => setStatus (128 + signal)
  | none =>
    modify fun s => { s with jobs := [], finished := s.jobs.map Job.number ++ s.finished }
    setStatus 0

/-- Wait for the job that ends first. -/
def waitForAny : Run Unit := do
  let s ← get
  if s.jobs.isEmpty then setStatus 127
  else
    let firstEnd (m : Machine) : Option Ended :=
      let ends := (s.jobs.filterMap fun j => m.endOf? j.number)
      ends.foldl (fun (first : Option Ended) e => match first with
        | none => some e
        | some f => if e.time < f.time then some e else some f) none
    match ← waitUnlessSignal fun m => (firstEnd m).isSome with
    | some signal => setStatus (128 + signal)
    | none =>
      match firstEnd (← machine) with
      | some e =>
        dropJob e.number
        modify fun s => { s with finished := e.number :: s.finished }
        setStatus e.status
      | none => setStatus 127

def wait : Builtin := fun name args => do
  let s ← get
  withOptions (if s.isExtended then "nf" else "") (if s.isExtended then "p" else "") name args
    fun o => do
      if o.has 'n' then waitForAny
      else if o.operands.isEmpty then waitForAll
      else o.operands.forM (waitForOne name)

def disown : Builtin := fun _ args => do
  let s ← get
  match args.filter (·.head? ≠ some '-') with
  | [] => set { s with jobs := if args.isEmpty then s.jobs.tail else [] }
  | ts =>
    for t in ts do
      match (jobFor? s t).map Job.number <|> natural? t with
      | some n => dropJob n
      | none => pure ()
  setStatus 0

end GoRepl.Machine.Shell.Builtin
