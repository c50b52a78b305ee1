import GoRepl.Program

/-! # The executable

The program on the test bed, with files of a real disk. What the program may ask for is read into
memory, the program runs there, and what it changed is written back. The input is read to its end
before the first line is answered, and no process of the real system is started. -/

namespace GoRepl.Main

/-- The places that a path passes through. -/
def places (directory : Place) (path : Text) : List Place :=
  let step (state : Place × List Place) (name : Text) : Place × List Place :=
    let next := if name = ['.'] then state.1
      else if name = ['.', '.'] then state.1.dropLast
      else state.1 ++ [name]
    (next, next :: state.2)
  let origin := if Path.isAbsolute path then [] else directory
  ((Disk.steps path).foldl step (origin, [])).2.reverse

/-- The paths that the arguments may stand for. -/
def argumentPaths (args : List Text) : List Text :=
  args ++ args.filterMap fun arg => (arg.cutAt? '=').map Prod.snd

/-- The paths that settings name. -/
def configPaths (c : Config) : List Text :=
  [c.go, c.programFile] ++ c.template.toList ++ c.history.toList

/-- The paths that lines ask programs to be saved to. -/
def savedPaths (source : List SourceItem) : List Text :=
  source.filterMap fun
    | .line t =>
      match Command.classify t with
      | .save path => some path
      | _ => none
    | _ => none

/-- The lines of the input; one that is no text cannot be read. -/
def inputLines (bs : Bytes) : List SourceItem :=
  let pieces := bs.splitOn 10
  let pieces := if pieces.getLast? = some [] then pieces.dropLast else pieces
  pieces.map fun piece =>
    match Utf8.decode? piece with
    | some t => .line t.dropReturn
    | none => .fault Fault.invalidText.message

/-- Read what stands at a place into memory. -/
def loadPlace (d : Disk) (place : Place) : IO Disk := do
  let path := (← IO.currentDir) / String.ofList (Path.ofParts true place)
  if ← path.isDir then
    return d.install place { content := .directory .empty, mode := Disk.directoryMode }
  if !(← path.pathExists) then return d
  try
    let contents := (← IO.FS.readBinFile path).toList
    let isScript := "#!".toUTF8.toList.isPrefixOf contents
    return d.install place
      { content := .file contents, mode := if isScript then 493 else Disk.fileMode }
  catch _ => return d

def load (directory : Place) (paths : List Text) (d : Disk) : IO Disk :=
  (paths.flatMap (places directory)).foldlM
    (fun d place => if (d.at? place).isSome then return d else loadPlace d place) d

/-- Write back what is new or changed. -/
def store (before after : Disk) : IO Unit :=
  (after.below Disk.root.id).forM fun (place, id) => do
    let now := (after.node? id).map Node.content
    if (before.nodeAt? place).map Node.content ≠ now then
      let path := String.ofList (Path.ofParts true place)
      match now with
      | some (.directory _) => IO.FS.createDirAll path
      | some (.file contents) => IO.FS.writeBinFile path ⟨contents.toArray⟩
      | _ => return

def printLine (p : Printed) : IO Unit :=
  match p.stream with
  | .stdout => IO.println (String.ofList p.text)
  | .stderr => IO.eprintln (String.ofList p.text)

/-- The input, if the program will ask for it. -/
def readInput : Option CommandLine.Request → IO (List SourceItem)
  | some (.repl _) => return inputLines (← (← IO.getStdin).readBinToEnd).toList
  | _ => return []

/-- Run the program with the given arguments. -/
def run (args : List Text) : IO UInt32 := do
  let request := CommandLine.parse? args
  let here := (toString (← IO.currentDir)).toList
  let home := ((← IO.getEnv "HOME").getD "/root").toList
  let i : Invocation := {
    args
    directory := Path.parts here
    home
    historyPath := (← IO.getEnv "GONSOLE_HISTORY_PATH").map String.toList
    input := ← readInput request }
  let d ← load i.directory (here :: argumentPaths args ++ Config.candidates here home)
    Machine.baseDisk
  let asked := match request with
    | some (.repl options) | some (.run options _) => options.config
    | _ => none
  let console : Console := { disk := d, input := i.input }
  let c := (Config.locate (console.contents i.directory) asked
    (Config.find? d i.directory home)).toOption.getD {}
  let scripts := (argumentPaths args).filterMap fun p => (d.readText i.directory p).toOption
  let lines := i.input ++ scripts.flatMap Script.ofText
  let d ← load i.directory (configPaths c ++ savedPaths lines) d
  let e := i.run d
  store d e.disk
  e.printed.forM printLine
  return UInt32.ofNat e.code

end GoRepl.Main

def main (args : List String) : IO UInt32 := GoRepl.Main.run (args.map String.toList)
