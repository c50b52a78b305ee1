import GoRepl.TestBed.Shell.Simple

/-! # Test bed: commands in copies of the shell

Pipelines, whose members run one after another, and commands that run in a copy of the shell or
beside it. -/

namespace GoRepl.Machine.Shell

/-- Run commands in a copy of the shell. -/
def runInCopy (x : Engine) (tested : Bool) (body : List Command) : Run Unit := do
  fork (← get).streams id true (ending (runText x) (body.forM (x.run tested)))
  finishCommand x tested

/-- Run the members of a pipeline, each of which reads what the one before it has written. All of
them begin at the same time. The statuses of those that are over stand latest first. -/
def runMembers (x : Engine) (tested : Bool) (start : Int) :
    (input : Option StreamId) → (statuses : List Nat) → List Command → Run (List Nat)
  | _, statuses, [] => return statuses
  | input, statuses, c :: cs => do
    let s ← get
    let child (c' : Shell) : Shell := { c' with
      formerJobs := if listsJobs c then s.jobs ++ s.formerJobs else [] }
    let streams ← match input with
      | some id => streamsWith 0 id
      | none => pure s.streams
    if !cs.isEmpty then
      let buffer ← work (openStream (.buffer [] []))
      let streams := (1, buffer) :: streams.filter (·.1 ≠ 1)
      writingTo buffer (beside start
        (fork streams child false (ending (runText x) (x.run tested c))))
      work (waitUntilReleased buffer)
      input.forM fun id => work (release id)
      let status := (← get).status
      runMembers x tested start (some buffer) (status :: statuses) cs
    else
      if s.isExtended && s.hasSwitch "lastpipe" then
        lendingStreams [0] do
          input.forM fun id => share 0 id
          x.run tested c
      else beside start (fork streams child true (ending (runText x) (x.run tested c)))
      input.forM fun id => work (release id)
      return (← get).status :: statuses
where
  /-- Does a command tell which jobs there are? -/
  listsJobs : Command → Bool
    | .simple _ _ (w :: _) _ => (Reader.plain? w).any fun p => p.1 = "jobs".toList
    | _ => false

/-- Run a pipeline. Its status is that of its last member or, with an option, of the last one that
has failed. -/
def runPipeline (x : Engine) (tested : Bool) (members : List Command) : Run Unit := do
  let start := (← machine).clock
  let statuses ← runMembers x tested start none [] members
  modify fun s =>
    let status := if s.hasOption '|' then (statuses.find? (· ≠ 0)).getD 0 else s.status
    { s with status, statuses := statuses.reverse }

/-! ## Beside the shell -/

/-- The index that the next job gets. -/
def nextIndex (s : Shell) : Nat :=
  match s.dialect with
  | .plain =>
    let used := s.jobs.map Job.index
    ((List.range (used.length + 1)).map (· + 1)).find? (fun n => !used.contains n) |>.getD 1
  | .extended => s.jobs.foldl (fun n j => max n j.index) 0 + 1

/-- Let a command run beside the shell. It has nothing to read and takes no notice of what
interrupts others. -/
def runBeside (x : Engine) (c : Command) (shown : Text) : Run Unit := do
  let s ← get
  let input ← work (openStream .null)
  let number ← beginCopy x ((0, input) :: s.streams.filter (·.1 ≠ 0)) (x.run false c)
  work do
    release input
    setCaught number 2 true
    setCaught number 3 true
  let job : Job := { index := nextIndex s, number, shown }
  modify fun s => { s with lastStarted := some number, jobs := job :: s.jobs, status := 0 }

/-! ## Time -/

/-- A time in microseconds as minutes and seconds, with so many digits after the point. -/
def shownTime (minutes : Bool) (digits : Nat) (time : Nat) : Text :=
  let whole := time / 1000000
  let rest := padStart 6 '0' (decimal (time % 1000000))
  let point := if digits = 0 then [] else '.' :: rest.take digits
  if minutes then decimal (whole / 60) ++ ['m'] ++ decimal (whole % 60) ++ point ++ ['s']
  else decimal whole ++ point

/-- A time as a format asks for it. -/
def timeInFormat (time : Nat) : Text → Text
  | '%' :: '%' :: t => '%' :: timeInFormat time t
  | '%' :: 'P' :: t => "0.00".toList ++ timeInFormat time t
  | '%' :: 'R' :: t => shownTime false 3 time ++ timeInFormat time t
  | '%' :: 'U' :: t | '%' :: 'S' :: t => shownTime false 3 0 ++ timeInFormat time t
  | '%' :: 'l' :: 'R' :: t => shownTime true 3 time ++ timeInFormat time t
  | '%' :: 'l' :: 'U' :: t | '%' :: 'l' :: 'S' :: t => shownTime true 3 0 ++ timeInFormat time t
  | '%' :: d :: 'R' :: t => shownTime false (min 3 (d.toNat - 48)) time ++ timeInFormat time t
  | '%' :: d :: 'U' :: t | '%' :: d :: 'S' :: t =>
    shownTime false (min 3 (d.toNat - 48)) 0 ++ timeInFormat time t
  | c :: t => c :: timeInFormat time t
  | [] => []

/-- Run something and tell the time that it takes. -/
def runTimed (brief : Bool) (m : Run Unit) : Run Unit := do
  let start := (← machine).clock
  m
  let time := ((← machine).clock - start).toNat
  let s ← get
  let format := if brief then "real %2R\nuser %2U\nsys %2S".toList
    else (s.value? "TIMEFORMAT".toList).getD "\nreal\t%lR\nuser\t%lU\nsys\t%lS".toList
  if format ≠ [] then put 2 (timeInFormat time format ++ ['\n'])

end GoRepl.Machine.Shell
