import GoRepl.Application
import GoRepl.Playground
import GoRepl.TestBed.Toolchain

/-! # The application on the test bed

The application with the test bed in place of a system: its files stand on a disk in memory, and
programs are run by a toolchain that is itself a command or a script there. -/

namespace GoRepl

/-- Where and with what the program is started on the test bed. -/
structure Invocation extends Launch where
  /-- The lines of the input. -/
  input : List SourceItem := []

/-- How the program ended. -/
structure Ending where
  code : Nat
  printed : List Printed := []
  disk : Disk

/-- The test bed as it stands while the program runs: what has been printed so far stands latest
first, and apart from it the beginnings of lines that are not at their end yet. -/
structure Console where
  disk : Disk
  input : List SourceItem := []
  printed : List Printed := []
  unfinished : Stream → Text := fun _ => []

namespace Console

/-- Write to a stream. -/
def put (c : Console) (stream : Stream) (t : Text) : Console :=
  let line := c.unfinished stream ++ t
  let leave (rest : Text) : Stream → Text := fun s => if s = stream then rest else c.unfinished s
  if line.getLast? = some '\n' then
    { c with printed := ⟨stream, line.dropLast⟩ :: c.printed, unfinished := leave [] }
  else { c with unfinished := leave line }

def print (c : Console) (ps : List Printed) : Console :=
  ps.foldl (fun c p => c.put p.stream (p.text ++ ['\n'])) c

/-- All that has been printed; lines that are left unfinished come last. -/
def shown (c : Console) : List Printed :=
  c.printed.reverse ++
    ([.stdout, .stderr].map fun s => Printed.mk s (c.unfinished s)).filter (·.text ≠ [])

/-- What a file holds; a path may also stand for the input. -/
def contents (c : Console) (directory : Place) (path : Text) : Except Fault Text :=
  if Path.streamNumber? path = some 0 then .ok (c.input.flatMap fun
    | .line t => t ++ ['\n']
    | _ => [])
  else c.disk.readText directory path

/-- Write a program to a file, or to the stream that the path stands for. -/
def save (c : Console) (directory : Place) (path program : Text) : Except Fault Unit × Console :=
  match Path.streamNumber? path with
  | some 0 => (.ok (), c)
  | some 1 => (.ok (), c.put .stdout program)
  | some 2 => (.ok (), c.put .stderr program)
  | some _ => (.error .notFound, c)
  | none =>
    let (result, disk) := c.disk.save directory path program
    (result, { c with disk })

end Console

namespace Config

/-- Load a settings file, given how files are read. -/
def load (contents : Text → Except Fault Text) (path : Text) : Except ConfigError Config :=
  ofFile path (contents path)

/-- The settings file that is used if none is asked for. -/
def find? (d : Disk) (directory : Place) (home : Text) : Option Text :=
  (candidates (Path.ofParts true directory) home).find? (d.isFile directory)

/-- Load the settings file that is asked for, or else the one that is found, or else none. -/
def locate (contents : Text → Except Fault Text) (requested found : Option Text) :
    Except ConfigError Config :=
  match requested <|> found with
  | some path => load contents path
  | none => .ok {}

end Config

/-- Load a template, given how files are read. -/
def Template.load (contents : Text → Except Fault Text) (path : Text) :
    Except TemplateError Template :=
  ofFile path (contents path)

namespace Invocation

/-- The variables that programs find in their environment. -/
def environment (i : Invocation) : List (Text × Text) :=
  [("HOME".toList, i.home), ("PATH".toList, Machine.searchPath)]

/-- The host of a session. There is no network, so nothing can be shared. -/
def host (i : Invocation) (c : Config) : Host (StateM Console) where
  write path program := fun console => console.save i.directory path program
  run path := fun console =>
    let (result, disk) := Machine.runProgram i.environment c.go (c.timeoutSecs * 1000) i.directory
      path console.disk
    (result, { console with disk })
  share _ := return .error (.refused ("HTTP error: error sending request for url (".toList ++
    Playground.shareUrl c.playgroundUrl ++ [')']))

/-- The test bed as a system. Input that has been read is gone. -/
def system (i : Invocation) : System (StateM Console) where
  isFile path := return (← get).disk.isFile i.directory path
  isThere path := return (← get).disk.exists? i.directory path
  read path := fun console =>
    (console.contents i.directory path,
      if Path.streamNumber? path = some 0 then { console with input := [] } else console)
  write path contents := fun console =>
    match console.disk.writeFile i.directory path (Utf8.encode contents) with
    | .error fault => (.error fault, console)
    | .ok disk => (.ok (), { console with disk })
  createDirectories path := modify fun console =>
    { console with disk := (console.disk.createDirectories i.directory path).2 }
  input := return (← get).input
  print ps := modify (·.print ps)
  host := i.host

/-- Run the program. -/
def run (i : Invocation) (d : Disk) : Ending :=
  let (code, console) := (i.toLaunch.run i.system).run { disk := d, input := i.input }
  { code, printed := console.shown, disk := console.disk }

end Invocation
end GoRepl
