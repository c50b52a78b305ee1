import GoRepl.TestBed.Course
import GoRepl.TestBed.Disk

/-! # Test bed: the machine

The modules of the test bed stand in for the system around the program, so that the program can be
tried out as a whole: a disk, a toolchain that is a command or a script there, and so the shells and
tools that such scripts call. They are no part of what the library describes. `GoRepl.Program` and
`GoRepl.Rehearsal` put the program on the test bed; the program itself, its sessions and all that is
proved of them know nothing of it.

The machine is a disk, the open streams of the processes that run on it, and what the processes know
of one another. Processes know bytes, not characters: their texts are narrow, each character
standing for the byte of its number.

The members of a pipeline run one after another, as long as what one of them writes has no bearing
on those before it. What runs beside the others pauses whenever time passes. -/

namespace GoRepl

namespace Narrow

def ofBytes (bs : Bytes) : Text := bs.map fun b => Char.ofNat b.toNat

def toBytes (t : Text) : Bytes := t.map fun c => UInt8.ofNat c.toNat

def ofText (t : Text) : Text := ofBytes (Utf8.encode t)

def toText (t : Text) : Text := Utf8.decodeLossy (toBytes t)

end Narrow

namespace Machine

/-- What can be read from a stream: a text and then a cycle, which is repeated for ever unless it is
empty. -/
structure Flow where
  text : Text := []
  cycle : Text := []
deriving DecidableEq, Repr

def Flow.isEndless (f : Flow) : Bool := f.cycle ≠ []

abbrev PipeId := Nat

inductive Stream where
  /-- Nothing can be read, and what is written is lost. -/
  | null
  /-- Zeros can be read for ever, and there may be no room for what is written. -/
  | zeros (full : Bool)
  /-- What was written can be read once. The parts that were written stand latest first. -/
  | buffer (parts : List Text) (cycle : Text)
  /-- A file that is open at a position, or at its end whenever it is written to. -/
  | file (id : NodeId) (position : Nat) (appends : Bool)
  /-- An end of a pipe between processes that run at the same time. -/
  | pipe (id : PipeId) (reads writes : Bool)

/-- A stream with the number of processes that hold it open. -/
structure Opened where
  stream : Stream
  holders : Nat := 1

/-- What was written to a pipe, and how many ends of each kind are open and ever were. -/
structure Pipe where
  text : Text := []
  readers : Nat := 0
  writers : Nat := 0
  readersEver : Nat := 0
  writersEver : Nat := 0

/-- How a process ended: its number, its status, and when. -/
structure Ended where
  number : Nat
  status : Nat
  time : Int

/-- A signal that has been sent to a process. -/
structure Sent where
  target : Nat
  signal : Nat
  time : Int

end Machine

structure Machine where
  disk : Disk
  streams : Array Machine.Opened := #[]
  pipes : Array Machine.Pipe := #[]
  /-- The pipes that have names. -/
  named : List (NodeId × Machine.PipeId) := []
  /-- The number of processes that were started one after another. -/
  started : Nat := 0
  /-- The number that the next process gets which runs beside the others. -/
  nextNumber : Nat
  /-- How many processes run at the same time. -/
  live : Nat := 1
  ended : List Machine.Ended := []
  /-- Signals that have not been taken notice of, the oldest one first. -/
  sent : List Machine.Sent := []
  /-- The signals that processes do not end by. -/
  caught : List (Nat × Nat) := []

/-- A computation on the machine. -/
def Work (α : Type) : Type 1 := Machine → Course Machine α

namespace Work

instance : Monad Work where
  pure a := fun m => .done a m
  bind w f := fun m => (w m).bind f

instance : MonadStateOf Machine Work where
  get := fun m => .done m m
  set m := fun _ => .done () m
  modifyGet f := fun m => .done (f m).1 (f m).2

end Work

namespace Machine

/-- The microseconds on the clock. -/
def clock (m : Machine) : Int := m.disk.now

def setClock (time : Int) (m : Machine) : Machine := { m with disk := { m.disk with now := time } }

abbrev StreamId := Nat

/-- Go on for ever. -/
def spin {α : Type} : Work α := fun m => .lost m

/-- Wait until the machine lets the process go on. -/
def waitFor (ready : Machine → Option Int) : Work Unit := fun m =>
  .pause ready m fun m => .done () m

/-- Let time pass, in microseconds, in which others may do something. -/
def pass (time : Nat) : Work Unit := fun m =>
  let then' := m.clock + time
  let m := m.setClock then'
  if m.live ≤ 1 then .done () m else .pause (fun _ => some then') m fun m => .done () m

/-- Do nothing for a time, in microseconds. -/
def sleep (time : Nat) : Work Unit := fun m =>
  let then' := m.clock + time
  .pause (fun _ => some then') m fun m => .done () m

/-- How many processes may be started before they count as ones without an end. -/
def processLimit : Nat := 20000

/-- The time in which a process is started. -/
def startingTime : Nat := 1000

/-- Note that a process is started. -/
def countProcess : Work Unit := do
  modify fun m => { m with started := m.started + 1 }
  if processLimit < (← get).started then spin
  pass startingTime

/-! ## Streams -/

def openStream (s : Stream) : Work StreamId :=
  modifyGet fun m => (m.streams.size, { m with streams := m.streams.push ⟨s, 1⟩ })

def opened (m : Machine) (id : StreamId) : Opened := (m.streams[id]?).getD ⟨.null, 0⟩

def stream (id : StreamId) : Work Stream := return ((← get).opened id).stream

def setStream (id : StreamId) (s : Stream) : Work Unit :=
  modify fun m => { m with streams := m.streams.modify id ({ · with stream := s }) }

def pipe (m : Machine) (id : PipeId) : Pipe := (m.pipes[id]?).getD {}

def setPipe (id : PipeId) (f : Pipe → Pipe) : Work Unit :=
  modify fun m => { m with pipes := m.pipes.modify id f }

/-- Let one more process hold a stream. -/
def hold (id : StreamId) : Work Unit :=
  modify fun m => { m with streams := m.streams.modify id fun o =>
    { o with holders := o.holders + 1 } }

/-- Let one process less hold a stream. A pipe end that nobody holds is closed. -/
def release (id : StreamId) : Work Unit := do
  let o := (← get).opened id
  if o.holders = 0 then return
  modify fun m => { m with streams := m.streams.modify id fun o =>
    { o with holders := o.holders - 1 } }
  if o.holders = 1 then
    match o.stream with
    | .pipe p reads writes =>
      setPipe p fun p =>
        let readers := if reads then p.readers - 1 else p.readers
        let writers := if writes then p.writers - 1 else p.writers
        { p with readers, writers, text := if readers = 0 && writers = 0 then [] else p.text }
    | _ => return

/-- Open an end of a pipe. It may be that the other end has to be opened first. -/
def openEnd (p : PipeId) (reads writes waits : Bool) : Work StreamId := do
  let before := (← get).pipe p
  setPipe p fun p => { p with
    readers := if reads then p.readers + 1 else p.readers
    writers := if writes then p.writers + 1 else p.writers
    readersEver := if reads then p.readersEver + 1 else p.readersEver
    writersEver := if writes then p.writersEver + 1 else p.writersEver }
  if waits && reads && !writes && before.writers = 0 then
    waitFor fun m => if before.writersEver < (m.pipe p).writersEver then some m.clock else none
  if waits && writes && !reads && before.readers = 0 then
    waitFor fun m => if before.readersEver < (m.pipe p).readersEver then some m.clock else none
  openStream (.pipe p reads writes)

def newPipe : Work PipeId :=
  modifyGet fun m => (m.pipes.size, { m with pipes := m.pipes.push {} })

/-- The pipe that has a name. -/
def namedPipe (id : NodeId) : Work PipeId := do
  match (← get).named.lookup id with
  | some p => return p
  | none =>
    let p ← newPipe
    modify fun m => { m with named := (id, p) :: m.named }
    return p

/-- The bytes of an open file. -/
def fileBytes (m : Machine) (id : NodeId) : Bytes := ((m.disk.node? id).map Node.bytes).getD []

/-- Wait until a pipe holds enough or nobody writes to it any more. -/
def await (p : PipeId) (enough : Text → Bool) : Work Unit := do
  let isReady (m : Machine) : Bool :=
    let p := m.pipe p
    p.writers = 0 || enough p.text
  if !isReady (← get) then
    waitFor fun m => if isReady m then some m.clock else none

/-- What can be read from a stream from now on. It is read only once. -/
def drain (id : StreamId) : Work Flow := do
  match ← stream id with
  | .null => return {}
  | .zeros _ => return ⟨[], ['\x00']⟩
  | .buffer parts cycle =>
    setStream id (.buffer [] cycle)
    return ⟨parts.reverse.flatten, cycle⟩
  | .file node position appends =>
    let contents := fileBytes (← get) node
    setStream id (.file node (max position contents.length) appends)
    return ⟨Narrow.ofBytes (contents.drop position), []⟩
  | .pipe p _ _ =>
    await p fun _ => false
    let text := ((← get).pipe p).text
    setPipe p ({ · with text := [] })
    return ⟨text, []⟩

/-- Give back the end of what was read, so that others can read it. -/
def giveBack (id : StreamId) (t : Text) : Work Unit := do
  if t ≠ [] then
    match ← stream id with
    | .null | .zeros _ => return
    | .buffer parts cycle => setStream id (.buffer (parts ++ [t]) cycle)
    | .file node position appends => setStream id (.file node (position - t.length) appends)
    | .pipe p _ _ => setPipe p fun p => { p with text := t ++ p.text }

/-- All that can be read from a stream. Whoever wants all of a stream without an end waits for
ever. -/
def drainAll (id : StreamId) : Work Text := do
  let f ← drain id
  if f.isEndless then spin
  return f.text

/-- Take a piece from the start of a stream, whose length `cut` knows as soon as there is enough;
if there never is, take all. Was there enough? -/
def takeBy (cut : Text → Option Nat) (id : StreamId) : Work (Text × Bool) := do
  match ← stream id with
  | .null => return ([], false)
  | .zeros _ => fromCycle [] ['\x00'] fun _ => return
  | .buffer parts cycle =>
    let text := match parts with
      | [t] => t
      | parts => parts.reverse.flatten
    fromCycle text cycle fun rest => setStream id (.buffer [rest] cycle)
  | .file node position appends =>
    let text := Narrow.ofBytes ((fileBytes (← get) node).drop position)
    let n := cut text
    let taken := text.take (n.getD text.length)
    setStream id (.file node (position + taken.length) appends)
    return (taken, n.isSome)
  | .pipe p _ _ =>
    await p fun t => (cut t).isSome
    let text := ((← get).pipe p).text
    let n := cut text
    let n' := n.getD text.length
    setPipe p ({ · with text := text.drop n' })
    return (text.take n', n.isSome)
where
  /-- Take a piece from a text that is followed by a cycle, and leave the rest. -/
  fromCycle (text cycle : Text) (leave : Text → Work Unit) : Work (Text × Bool) := do
    match cut text with
    | some n =>
      leave (text.drop n)
      return (text.take n, true)
    | none =>
      if cycle = [] then
        leave []
        return (text, false)
      else
        let copies := [1, 64, 4096, 65536, 1048576, 16777216].filter fun k =>
          k * cycle.length ≤ 16777216
        let unrolled (k : Nat) : Text := text ++ (List.replicate k cycle).flatten
        match copies.findSome? fun k => (cut (unrolled k)).map (k, ·) with
        | some (k, n) =>
          leave ((unrolled k).drop n)
          return ((unrolled k).take n, true)
        | none => spin

/-- The length of a line with its end. -/
def lineLength? (t : Text) : Option Nat :=
  let line := t.takeWhile (· != '\n')
  let n := line.length
  if (t.drop n).isEmpty then none else some (n + 1)

/-- Take a line from a stream: the text, and whether it was ended. -/
def takeLine (id : StreamId) : Work (Text × Bool) := do
  match ← stream id with
  | .file node position appends =>
    let contents := fileBytes (← get) node
    let line := (contents.drop position).takeWhile (· ≠ 10)
    let isEnded := position + line.length < contents.length
    let position := position + line.length + if isEnded then 1 else 0
    setStream id (.file node position appends)
    return (Narrow.ofBytes line, isEnded)
  | _ =>
    let (t, isEnded) ← takeBy lineLength? id
    return (if isEnded then t.dropLast else t, isEnded)

/-- Contents of a file after writing at a position. -/
def overwrite (contents : Bytes) (position : Nat) (new : Bytes) : Bytes :=
  if contents.length = position then contents ++ new
  else contents.take position ++ List.replicate (position - contents.length) 0 ++ new ++
    contents.drop (position + new.length)

/-- Write to a stream, if there is room. -/
def put (id : StreamId) (t : Text) : Work (Except Fault Unit) := do
  match ← stream id with
  | .null | .zeros false => return .ok ()
  | .zeros true => return if t = [] then .ok () else .error .noSpace
  | .buffer parts cycle =>
    if cycle = [] then setStream id (.buffer (t :: parts) [])
    return .ok ()
  | .file node position appends =>
    let new := Narrow.toBytes t
    let contents := fileBytes (← get) node
    let position := if appends then contents.length else position
    if new ≠ [] then
      modify fun m => { m with
        disk := m.disk.setContents node (overwrite contents position new) }
    setStream id (.file node (position + new.length) appends)
    return .ok ()
  | .pipe p _ _ =>
    setPipe p fun p => { p with text := p.text ++ t }
    return .ok ()

def write (id : StreamId) (t : Text) : Work Unit := discard (put id t)

/-- Write all of a flow. Only a reader that stops early lets a flow without an end come to one. -/
def pour (id : StreamId) (f : Flow) : Work Unit := do
  write id f.text
  if f.isEndless then
    match ← stream id with
    | .buffer parts [] => setStream id (.buffer parts f.cycle)
    | _ => spin

/-- Run something that writes to a buffer. If it never ends, what it wrote last can be read again
and again, and something else takes the place of its result. Some streams are then held by as many
as before. -/
def writing {α : Type} (buffer : StreamId) (held : List StreamId) (instead : α) (w : Work α) :
    Work α := fun m =>
  let holders := (buffer :: held).map fun id => (id, (m.opened id).holders)
  (w m).recover fun m =>
    match (m.opened buffer).stream with
    | .buffer (t :: ts) cycle =>
      let stream := Stream.buffer (t :: ts) (if cycle = [] then t else cycle)
      let streams := m.streams.modify buffer ({ · with stream })
      .done instead { m with
        started := 0
        streams := holders.foldl (fun ss (id, holders) =>
          ss.modify id ({ · with holders })) streams }
    | _ => .lost m

/-! ## Processes -/

/-- How a process ended, if it has. -/
def endOf? (m : Machine) (number : Nat) : Option Ended := m.ended.find? (·.number = number)

/-- The first signal for a process, with the time of it, of those that `concerns` it. -/
def sentTo? (m : Machine) (number : Nat) (concerns : Nat → Bool) : Option Sent :=
  m.sent.find? fun s => s.target = number && concerns s.signal

def catches (m : Machine) (number signal : Nat) : Bool := m.caught.contains (number, signal)

/-- Signals that a process takes no notice of unless it catches them. -/
def isHarmless (signal : Nat) : Bool := [0, 17, 18, 23, 28].contains signal

/-- The signal that ends a process. -/
def fatalFor? (m : Machine) (number : Nat) : Option Sent :=
  m.sentTo? number fun k => !isHarmless k && (k = 9 || !m.catches number k)

/-- Note that signals have been taken notice of. -/
def forget (number signal : Nat) : Work Unit :=
  modify fun m => { m with sent := m.sent.filter fun s => s.target ≠ number || s.signal ≠ signal }

/-- A number for a process. -/
def newNumber : Work Nat :=
  modifyGet fun m => (m.nextNumber, { m with nextNumber := m.nextNumber + 1 })

/-- Wait for the end of a process: its status. -/
def waitForEnd (number : Nat) : Work Nat := do
  if ((← get).endOf? number).isNone then
    waitFor fun m => if (m.endOf? number).isSome then some m.clock else none
  return (((← get).endOf? number).map Ended.status).getD 127

/-- Send a signal to a process. -/
def send (target signal : Nat) : Work Unit :=
  modify fun m => { m with sent := m.sent ++ [⟨target, signal, m.clock⟩] }

/-- Let a process catch a signal, or not any more. -/
def setCaught (number signal : Nat) (catches : Bool) : Work Unit :=
  modify fun m =>
    let others := m.caught.filter (· ≠ (number, signal))
    { m with caught := if catches then (number, signal) :: others else others }

/-- Let a process run until a signal ends it: what it gives, or that signal. -/
def endable {α : Type} (number : Nat) (w : Work α) : Work (Except Nat α) := fun m =>
  Course.breakable clock (fun m => m.live ≤ 1 && (m.fatalFor? number).isNone)
    (fun m => (m.fatalFor? number).map fun s => (s.time, s.signal)) (w m)

/-- Begin a process that runs beside this one, with a number of its own. It holds some streams open
until it ends, and tells its status; a signal may end it before. -/
def begin (streams : List StreamId) (child : Nat → Work (Nat × List StreamId)) : Work Nat :=
  fun m =>
    let number := m.nextNumber
    let m := { m with
      nextNumber := number + 1, live := m.live + 1
      streams := streams.foldl (fun ss id =>
        ss.modify id fun o => { o with holders := o.holders + 1 }) m.streams }
    let whole (m : Machine) : Course Machine Unit :=
      (endable number (child number) m).bind fun result m =>
          let (status, held) := match result with
            | .ok (status, held) => (status, held)
            | .error signal => (128 + signal, streams)
          (held.forM release : Work Unit) { m with
            live := m.live - 1, ended := ⟨number, status, m.clock⟩ :: m.ended } |>.bind
              fun _ m => .done () m
    .spawn (m.clock + startingTime) whole m fun m => .done number m

/-! ## Calls -/

/-- A command with what it is given: the name under which it was called, its arguments, the working
directory, the exported variables and the streams that are open under numbers. -/
structure Call where
  name : Text
  args : List Text
  place : Place
  environment : List (Text × Text) := []
  streams : List (Nat × StreamId) := []
  /-- The permissions that new files do not get. -/
  umask : Nat := 18
  /-- The number of the process, if it was given one before it began. -/
  number : Option Nat := none

/-- How a command ended: its status, and the signal that ended it, if one did. -/
structure Result where
  status : Nat
  signal : Option Nat := none

/-- A way to start a program by its name or path, with a call. -/
abbrev Launch := Text → Call → Work (Except Fault Result)

/-- The number that tells how a process ended. -/
def Result.number (r : Result) : Nat :=
  match r.signal with
  | some n => 128 + n
  | none => r.status

/-- How a file is to be opened. -/
inductive Access where
  | read
  | write
  /-- A file that exists is not to be overwritten. -/
  | create
  | append
  | both
deriving DecidableEq, Repr

/-- A mode without the permissions of another one. -/
def masked (mode umask : Nat) : Nat := Nat.xor (Nat.lor mode umask) umask

namespace Call

def stream? (c : Call) (n : Nat) : Option StreamId := c.streams.lookup n

/-- Write to a stream; it may be that it is not open. -/
def put (c : Call) (n : Nat) (t : Text) : Work (Except Fault Unit) :=
  match c.stream? n with
  | some id => Machine.put id t
  | none => return .error (.other "Bad file descriptor".toList)

def write (c : Call) (n : Nat) (t : Text) : Work Unit :=
  match c.stream? n with
  | some id => Machine.write id t
  | none => return

def print (c : Call) (t : Text) : Work Unit := c.write 1 t

def pour (c : Call) (f : Flow) : Work Unit :=
  match c.stream? 1 with
  | some id => Machine.pour id f
  | none => return

/-- Write a line about something that went wrong, after the name of the command. -/
def complain (c : Call) (message : Text) : Work Unit :=
  c.write 2 (c.name ++ [':', ' '] ++ message ++ ['\n'])

/-- Complain and end with a status. -/
def fail (c : Call) (message : Text) (status : Nat := 1) : Work Nat := do
  c.complain message
  return status

/-- All of the input. -/
def input (c : Call) : Work Text :=
  match c.stream? 0 with
  | some id => drainAll id
  | none => return []

/-- The input, which may have no end. -/
def inputFlow (c : Call) : Work Flow :=
  match c.stream? 0 with
  | some id => drain id
  | none => return {}

/-- The path that a narrow text stands for. -/
def path (t : Text) : Text := Narrow.toText t

/-- The words for a fault, as commands give them. -/
def reason (fault : Fault) : Text :=
  Narrow.ofText (Text.trimEnd ((fault.message.splitOn '(').headD []))

/-- The permissions that a new file or directory gets. -/
def fileMode (c : Call) : Nat := masked 438 c.umask

def directoryMode (c : Call) : Nat := masked 511 c.umask

/-- The stream that the path of a device stands for. -/
def device? (c : Call) (path : Text) : Option StreamId := (Path.streamNumber? path).bind c.stream?

/-- Change the disk, if that is possible. -/
def alter (change : Disk → Except Fault Disk) : Work (Except Fault Unit) :=
  modifyGet fun m =>
    match change m.disk with
    | .ok disk => (.ok (), { m with disk })
    | .error fault => (.error fault, m)

/-- A stream for a node that has been found. -/
def openNode (id : NodeId) (access : Access) : Work StreamId := do
  match ((← get).disk.node? id).map Node.content with
  | some (.device .null) => openStream .null
  | some (.device .zero) => openStream (.zeros false)
  | some (.device .full) => openStream (.zeros true)
  | some .pipe =>
    openEnd (← namedPipe id) (access = .read || access = .both) (access ≠ .read) true
  | _ => openStream (.file id 0 (access = .append))

/-- Open a file. A device that stands for an open stream is that stream. -/
def openFile (c : Call) (access : Access) (file : Text) : Work (Except Fault StreamId) := do
  match Path.streamNumber? file with
  | some n =>
    match c.stream? n with
    | some id =>
      hold id
      return .ok id
    | none => return .error .notFound
  | none =>
    let d := (← get).disk
    if access = .read then
      match d.locate c.place (path file) with
      | .error fault => return .error fault
      | .ok s =>
        if !d.allows s.id 4 then return .error .permissionDenied
        if (d.node? s.id).any (!·.isPresent) then return .error .noDevice
        return .ok (← openNode s.id access)
    else if access = .create && d.isFile c.place (path file) then return .error .alreadyExists
    else
      let truncates := access = .write || access = .create
      match d.openForWriting c.place (path file) truncates c.fileMode with
      | .error fault => return .error fault
      | .ok (disk, id) =>
        modify ({ · with disk })
        return .ok (← openNode id access)

/-- What a named file holds; a single dash names the input. -/
def contents (c : Call) (file : Text) : Work (Except Fault Flow) := do
  if file = ['-'] then return .ok (← c.inputFlow)
  else match c.device? file with
    | some id => return .ok (← drain id)
    | none =>
      match (← get).disk.find c.place (path file) with
      | .error fault => return .error fault
      | .ok n =>
        if n.isDirectory then return .error .isDirectory
        else if !n.allows 4 then return .error .permissionDenied
        else if n.isFile then return .ok ⟨Narrow.ofBytes n.bytes, []⟩
        else match ← c.openFile .read file with
          | .error fault => return .error fault
          | .ok id =>
            let f ← drain id
            release id
            return .ok f

/-- Write a text to a named file, in place of what it held or after it. -/
def save (c : Call) (file t : Text) (access : Access := .write) : Work (Except Fault Unit) := do
  match ← c.openFile access file with
  | .error fault => return .error fault
  | .ok id =>
    let result ← Machine.put id t
    release id
    return result

end Call
end Machine
end GoRepl
