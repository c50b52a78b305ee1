import GoRepl.TestBed.Process
import GoRepl.Toolchain

/-! # Test bed: running a program

The toolchain is a command of the machine or a script on its disk. It is started with `run` and the
path of the program. -/

namespace GoRepl.Machine

/-- The number of the first process. -/
def firstNumber : Nat := 4000

/-- How long, in microseconds, the commands that are left running are waited for. -/
def patience : Int := 3600000000

/-- How often processes may go on after a pause. -/
def turnLimit : Nat := 100000000

/-- A machine before its first process, which has nothing to read and writes to two streams. -/
def fresh (d : Disk) : Machine :=
  { disk := d, streams := #[⟨.null, 1⟩, ⟨.buffer [] [], 1⟩, ⟨.buffer [] [], 1⟩]
    nextNumber := firstNumber + 1 }

/-- What was written to a stream that is a buffer. -/
def written (m : Machine) (id : StreamId) : Flow :=
  match (m.opened id).stream with
  | .buffer parts cycle => ⟨parts.reverse.flatten, cycle⟩
  | _ => {}

/-- The call of the first process. -/
def firstCall (environment : List (Text × Text)) (binary : Text) (args : List Text)
    (place : Place) : Call :=
  { name := Narrow.ofText binary, args := args.map Narrow.ofText, place
    environment := environment.map fun (n, t) => (Narrow.ofText n, Narrow.ofText t)
    streams := [(0, 0), (1, 1), (2, 2)], number := some firstNumber }

/-- What a program that is to be started is, given its path or its name. -/
def programImage (d : Disk) (binary : Text) (c : Call) : Except Fault Image := do
  if binary.contains '\x00' || c.args.any (·.contains '\x00') then throw .nulInArgument
  if !binary.contains '/' then
    if Disk.isDots binary then throw .permissionDenied
    if 255 < (Utf8.encode binary).length then throw .nameTooLong
  imageOf d c.name c

/-- The first process, from its start to its end. -/
def firstProcess (i : Image) (c : Call) : Work Unit := do
  countProcess
  let r ← i.run (launch nestingLimit) c
  modify fun m => { m with
    live := m.live - 1, ended := ⟨firstNumber, r.number, m.clock⟩ :: m.ended }
  c.streams.forM fun (_, id) => release id

/-- Let processes go on until the state shows that this is enough. -/
def goOn (deadline : Int) (enough : Machine → Bool) (tasks : List (Task Machine)) (m : Machine) :
    List (Task Machine) × Machine :=
  Task.run setClock deadline enough turnLimit tasks m

/-- Does no process write to a stream any more? -/
def isClosed (id : StreamId) (m : Machine) : Bool := (m.opened id).holders = 0

/-- Run a program with a toolchain, for less than a limit of time. What it has left running may
write until it comes to its end, too. -/
def runProgram (environment : List (Text × Text)) (binary : Text) (limit : Nat) (place : Place)
    (source : Text) (d : Disk) : Except RunError RunOutput × Disk :=
  let c := firstCall environment binary ["run".toList, source] place
  match programImage d binary c with
  | .error fault => (.error (.spawn binary fault), d)
  | .ok i =>
    let m := fresh d
    let deadline := m.clock + 1000 * (limit : Int)
    let isOver (m : Machine) : Bool := (m.endOf? firstNumber).isSome
    let (left, started, m) := ((firstProcess i c) m).settle []
    let left := left.toList.map fun (ready, next) => ⟨ready, next⟩
    let (tasks, m) := goOn deadline isOver (left ++ started.reverse) m
    let isEndless := [1, 2].any fun id => (written m id).isEndless
    match (m.endOf? firstNumber).filter (·.time < deadline) with
    | none => (.error (.timedOut binary limit), m.disk)
    | some e =>
      if isEndless then (.error (.timedOut binary limit), m.disk)
      else
        let (_, m) := goOn (m.clock + patience) (fun m => isClosed 1 m && isClosed 2 m) tasks m
        let shown (id : StreamId) : Text := Narrow.toText (written m id).text
        (.ok ⟨shown 1, shown 2, e.status = 0⟩, m.disk)

end GoRepl.Machine
