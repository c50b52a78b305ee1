import GoRepl.TestBed.Command

/-! # Test bed: executables

What a path or name starts. A script names the command that reads it in its first line. -/

namespace GoRepl.Machine

/-- The directory in which the commands of the machine stand. -/
def commandPlace : Place := ["usr".toList, "bin".toList]

def searchPath : Text := "/usr/local/sbin:/usr/local/bin:/usr/sbin:/usr/bin:/sbin:/bin".toList

/-- A disk with nothing but the directories, commands and devices that every machine has. -/
def baseDisk : Disk :=
  let directory (mode : Nat) : Node := { content := .directory .empty, mode, foreign := true }
  let file (t : String) (mode : Nat) : Node :=
    { content := .file (Utf8.encode t.toList), mode, foreign := true }
  let device (d : Device) : Node := { content := .device d, mode := 438, foreign := true }
  let link (t : String) : Node := { content := .link t.toList, mode := 511, foreign := true }
  let places (ns : List String) (n : Node) : List (Place × Node) :=
    ns.map fun name => ((name.splitOn "/").map String.toList, n)
  let program := file "\x7fELF\n" 493
  let inCommands (name : String) (n : Node) : Place × Node := (commandPlace ++ [name.toList], n)
  let own := commands.map Prod.fst ++ starters.map Prod.fst ++ shells ++ ["which"]
  let whole : List (Place × Node) :=
    places ["dev", "etc", "home", "usr", "usr/bin", "usr/sbin", "usr/lib", "usr/local",
      "usr/local/bin", "usr/local/sbin", "usr/share", "var", "opt", "proc"] (directory 493) ++
    places ["root"] (directory 448) ++ places ["tmp", "var/tmp"] (directory 1023) ++
    places ["bin"] (link "usr/bin") ++ places ["sbin"] (link "usr/sbin") ++
    own.map (inCommands · program) ++
    synonyms.map (fun (name, target) => inCommands name (link target)) ++
    places ["dev/null"] (device .null) ++ places ["dev/full"] (device .full) ++
    places ["dev/zero", "dev/random", "dev/urandom"] (device .zero) ++
    places ["dev/tty"] (device .terminal) ++
    places ["etc/passwd"] (file "root:x:0:0:root:/root:/bin/bash\n" 420) ++
    places ["etc/hostname"] (file "localhost\n" 420)
  whole.foldl (fun d (place, n) => d.install place n) {}

/-- A command of the machine with the name under which it is called and its arguments. -/
structure Image where
  command : Text
  name : Text
  args : List Text
deriving DecidableEq, Repr

/-- The first line of a script: the path of the command that reads it, and an argument for that if
there is one. A path that does not end within the first bytes of the script counts as none. -/
def interpreter? (contents : Text) : Option (Text × Option Text) :=
  let isSpace (c : Char) : Bool := c == ' ' || c == '\t'
  match Text.after? "#!".toList (contents.take 255) with
  | none => none
  | some start =>
    let whole := start.contains '\n' || contents.length < 256
    let line := (start.takeWhile (· != '\n')).dropWhile isSpace
    let line := Text.dropEndWhile isSpace line
    let path := line.takeWhile fun c => !isSpace c && c != '\x00'
    let rest := line.drop path.length
    let argument := rest.dropWhile isSpace
    if path = [] || (!whole && rest = []) then none
    else some (path, if argument = [] then none else some argument)

/-- How many scripts may stand between a path and a command. -/
def scriptLimit : Nat := 6

/-- What a path starts; `name` and `args` are given to it. -/
def image (d : Disk) (directory : Place) : (fuel : Nat) → (path name : Text) → List Text →
    Except Fault Image
  | 0, _, _, _ => .error .tooManyLinks
  | fuel + 1, path, name, args => do
    let s ← d.locate directory (Call.path path)
    match d.node? s.id with
    | none => throw .notFound
    | some n =>
      if !n.isFile || !n.allows 1 then throw .permissionDenied
      if s.place.dropLast = commandPlace && n.foreign then
        return ⟨Narrow.ofText (s.place.getLast?.getD []), name, args⟩
      else match interpreter? (Narrow.ofBytes n.bytes) with
        | some (command, argument) =>
          image d directory fuel command command (argument.toList ++ path :: args)
        | none => throw .notExecutable

/-- The path of a command that is called by name: in the first directory of a search path that
has an executable file of that name. -/
def lookUp (d : Disk) (directory : Place) (searched name : Text) : Except Fault Text :=
  let candidates := (searched.splitOn ':').map fun dir =>
    if dir = [] then name else Files.joined dir name
  let node? (path : Text) : Option Node :=
    ((d.find directory (Call.path path)).toOption).filter Node.isFile
  match candidates.find? fun path => (node? path).any (·.allows 1) with
  | some path => .ok path
  | none => if candidates.any fun path => (node? path).isSome then .error .permissionDenied
    else .error .notFound

/-- The path of a command that is given by its path or name. -/
def pathOf (d : Disk) (directory : Place) (searched name : Text) : Except Fault Text :=
  if name.contains '/' then .ok name else lookUp d directory searched name

/-- The search path of an environment. -/
def searched (environment : List (Text × Text)) : Text :=
  (environment.lookup "PATH".toList).getD searchPath

/-- Say where some commands stand. -/
def which (c : Call) : Work Nat := do
  let d := (← get).disk
  let (options, names) := (c.args.filter (·.head? = some '-'), c.args.filter (·.head? ≠ some '-'))
  Files.each names fun name => do
    match pathOf d c.place (searched c.environment) name with
    | .ok path =>
      let file := (d.find c.place (Call.path path)).toOption.filter Node.isFile
      let isThere := file.any (·.allows 1)
      if !isThere then return 1
      if !options.contains ['-', 's'] then c.print (path ++ ['\n'])
      return 0
    | .error _ => return 1

end GoRepl.Machine
