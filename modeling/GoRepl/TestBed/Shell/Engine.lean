import GoRepl.TestBed.Shell.Builtin.Table

/-! # Test bed: parts of a shell on their own

Commands that are run by a copy of the shell: in a pipeline, for the sake of what they print, or
beside it. How commands are run is left open here. -/

namespace GoRepl.Machine.Shell

/-- How programs are started and commands are run; the shell does not end at a failure that is
`tested`. -/
structure Engine where
  launch : Launch
  run : (tested : Bool) → Command → Run Unit

/-! ## Copies of the shell -/

/-- How long it takes to make a copy of a process. -/
def forkTime : Nat := 300

/-- The traps that a copy of the shell keeps: signals that are ignored, and with some options what
is done on occasions. -/
def keptTraps (s : Shell) : List (Text × Text) :=
  s.traps.filter fun ((name, action) : Text × Text) =>
    if name = "ERR".toList then s.hasOption 'E'
    else if name = "DEBUG".toList || name = "RETURN".toList then s.hasOption 'T'
    else action = [] && name ≠ "EXIT".toList

/-- A copy of the shell that runs as a process with a number. -/
def copy (s : Shell) (number : Nat) : Shell :=
  let loops := if s.isExtended then 0 else s.loops
  { toFrame := { s.toFrame with
      number, level := s.level + 1, traps := keptTraps s, loops, isCaptured := false
      formerTraps := if s.traps.isEmpty then s.formerTraps else s.traps }
    status := s.status, statuses := s.statuses, lastStarted := s.lastStarted }

/-- Take over what is ignored. -/
def ignoreKept : Run Unit := do
  let s ← get
  for (name, _) in s.traps do
    match Starting.signals.find? (·.1.toList = name) with
    | some (_, n) => work (setCaught s.number n true)
    | none => pure ()

/-- Let a shell run as a process of its own, and tell how it ended. -/
def runApart (number : Nat) (s : Shell) (m : Run Unit) : Work Result := do
  let held := s.streams.map Prod.snd
  held.forM hold
  match ← endable number ((ExceptT.run m).run s) with
  | .ok (_, s) =>
    s.streams.forM fun ((_, id) : Nat × StreamId) => release id
    return { status := s.status % 256 }
  | .error signal =>
    held.forM release
    return { status := 128 + signal, signal := some signal }

/-- Say that a signal has ended a command. The extended shell does so if the signal is the usual one
to end something, or one that it catches itself. -/
def tellSignal (signal : Nat) : Run Unit := do
  let s ← get
  let isCaught := (s.traps.lookup (Starting.signalName signal)).isSome
  if !s.isExtended || (!s.isCaptured && (signal = 15 || isCaught)) then
    match Builtin.signalMessage? signal with
    | some words => put 2 (words ++ ['\n'])
    | none => return

/-- Run something in a copy of the shell with certain streams, which may be changed before. Nothing
stays of it but its status and what it did to the machine. -/
def fork (streams : List (Nat × StreamId)) (change : Shell → Shell) (tells : Bool) (m : Run Unit) :
    Run Unit := do
  work (pass forkTime)
  let s ← get
  let number ← work newNumber
  let r ← work (runApart number (change { copy s number with streams }) do
    ignoreKept
    m)
  setStatus r.number
  match r.signal with
  | some n => if tells || !s.isExtended then tellSignal n
  | none => return

/-- The streams of the shell, of which one is another one. -/
def streamsWith (n : Nat) (id : StreamId) : Run (List (Nat × StreamId)) :=
  return (n, id) :: (← get).streams.filter (·.1 ≠ n)

/-- Let a run begin at a given time. The machine's clock ends up at the later of both ends. -/
def beside {α : Type} (start : Int) (m : Run α) : Run α := do
  let other := (← machine).clock
  work (modify (setClock start))
  always m (work (modify fun m => m.setClock (max other m.clock)))

/-- Wait until nobody but this process holds a stream. -/
def waitUntilReleased (id : StreamId) : Work Unit := do
  if 1 < ((← get).opened id).holders then
    waitFor fun m => if (m.opened id).holders ≤ 1 then some m.clock else none

/-- Something that writes to a buffer for ever is of no account if what it has written is enough for
those who read it. -/
def writingTo (buffer : StreamId) (m : Run Unit) : Run Unit :=
  ExceptT.mk fun s =>
    let held := s.streams.map Prod.snd
    Machine.writing buffer held (.ok (), { s with status := 141 }) (ExceptT.run m s)

/-! ## Occasions -/

/-- The limit of traps that come one after another. -/
def trapLimit : Nat := 1000

/-- Put commands under the care of others: run the commands of a text. -/
abbrev TextRunner := Text → Run Unit

/-- Run what is to be done on an occasion, after which the status is the same as before. Its lines
are counted from the current one on, or from the first. -/
def runAction (runText : TextRunner) (fromFirst : Bool) (action : Text) : Run Unit := do
  let s ← get
  if fromFirst then modify ({ · with line := 1 })
  match ← attempt (runText action) with
  | .ok () | .error .giveUp => pure ()
  | .error j => throw j
  modify ({ · with status := s.status, statuses := s.statuses, line := s.line })

/-- Run what is to be done because of signals that have come. One that is to end the extended shell
does so after what is to be done at its end. -/
def noticeSignals (runText : TextRunner) : (limit : Nat) → Run Unit
  | 0 => return
  | limit + 1 => do
    let m ← machine
    if !m.sent.isEmpty then
      let s ← get
      match Builtin.pendingSignal? s m with
      | some sent =>
        work (Machine.forget s.number sent.signal)
        match s.traps.lookup (Starting.signalName sent.signal) with
        | some action => runAction runText true action
        | none => pure ()
        noticeSignals runText limit
      | none =>
        let isFatal (k : Nat) : Bool := !isHarmless k && m.catches s.number k &&
          (s.traps.lookup (Starting.signalName k)).isNone
        match if s.isExtended then m.sentTo? s.number isFatal else none with
        | some sent =>
          let action := (s.traps.lookup "EXIT".toList).getD []
          modify fun s => { s with traps := s.traps.filter (·.1 ≠ "EXIT".toList) }
          modify fun s => { s with status := 128 + sent.signal, line := 1 }
          discard (attempt (runText action))
          work (setCaught s.number sent.signal false)
          work (sleep 0)
        | none => return

/-- Run what is to be done on an occasion that is no signal. It does not happen again while it is
being dealt with. -/
def runOccasion (runText : TextRunner) (name : String) : Run Unit := do
  let s ← get
  match s.traps.lookup name.toList with
  | some action =>
    if action ≠ [] && !s.dealing.contains name.toList then
      set { s with dealing := name.toList :: s.dealing }
      always (runAction runText false action) (modify ({ · with dealing := s.dealing }))
  | none => return

/-- Run something to its end, and then what is to be done at the end. -/
def ending (runText : TextRunner) (m : Run Unit) : Run Unit := do
  discard (attempt m)
  discard (attempt (noticeSignals runText trapLimit))
  let s ← get
  match s.traps.lookup "EXIT".toList with
  | none => return
  | some action =>
    set { s with traps := s.traps.filter (·.1 ≠ "EXIT".toList) }
    discard (attempt (runAction runText true action))

end GoRepl.Machine.Shell
