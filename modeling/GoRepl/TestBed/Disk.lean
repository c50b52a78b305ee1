import GoRepl.Fault
import GoRepl.Ledger
import GoRepl.Path
import GoRepl.Text.Utf8

/-! # Test bed: the disk

Nodes held in memory. A directory is a table of names for nodes, and a node may have several names
or, while it is only open, none. Paths are followed from a working directory, through `.`, `..` and
links, and a step that cannot be taken is a fault. The one user of the disk owns what it makes; what
every machine has belongs to another. -/

namespace GoRepl

/-- The names on the way from the root to a node. -/
abbrev Place := List Text

abbrev NodeId := Nat

/-- A file that holds nothing itself. -/
inductive Device where
  /-- It swallows what is written to it and has nothing to be read. -/
  | null
  /-- It has zeros without an end. -/
  | zero
  /-- It has zeros without an end, and no room for what is written to it. -/
  | full
  /-- It stands for a terminal that there is not. -/
  | terminal
deriving DecidableEq, Repr

/-- What a node holds. -/
inductive Content where
  | directory (entries : Ledger Text NodeId)
  | file (contents : Bytes)
  /-- The path of another node. -/
  | link (target : Text)
  /-- Two processes meet here, of which one reads what the other writes. -/
  | pipe
  | device (d : Device)
deriving DecidableEq

/-- A node with what may be done with it. -/
structure Node where
  content : Content
  /-- The permissions, in the bits of a number. -/
  mode : Nat := 420
  /-- Does it belong to somebody else? -/
  foreign : Bool := false
  /-- When it was changed, in microseconds. -/
  time : Int := 0
deriving DecidableEq

namespace Node

/-- Is a permission given? The bits are 4 for reading, 2 for writing and 1 for running. -/
def allows (n : Node) (bit : Nat) : Bool :=
  (if n.foreign then n.mode else n.mode / 64) / bit % 2 = 1

def isDirectory (n : Node) : Bool := n.content matches .directory _

def isFile (n : Node) : Bool := n.content matches .file _

def isLink (n : Node) : Bool := n.content matches .link _

/-- Can the node be opened at all? -/
def isPresent (n : Node) : Bool := !(n.content matches .device .terminal)

/-- What is read from a node that is no directory, as far as it has an end. -/
def bytes (n : Node) : Bytes :=
  match n.content with
  | .file contents => contents
  | _ => []

end Node

structure Disk where
  nodes : Array Node := #[{ content := .directory .empty, mode := 493, foreign := true }]
  /-- The time that a change is marked with, in microseconds. -/
  now : Int := 1750000000000000

namespace Disk

/-- The permissions that files and directories have from the start. -/
def fileMode : Nat := 420

def directoryMode : Nat := 493

/-- A node with one of its places. -/
structure Spot where
  place : Place
  id : NodeId
deriving DecidableEq, Repr

def root : Spot := ⟨[], 0⟩

def node? (d : Disk) (id : NodeId) : Option Node := d.nodes[id]?

/-- The names in a directory, in the order in which they were given. -/
def entries? (d : Disk) (id : NodeId) : Option (Ledger Text NodeId) :=
  match (d.node? id).map Node.content with
  | some (.directory entries) => some entries
  | _ => none

def child? (d : Disk) (id : NodeId) (name : Text) : Option NodeId :=
  (d.entries? id).bind (·.get? name)

/-- The node at a place, links aside. -/
def at? (d : Disk) (place : Place) : Option NodeId := place.foldlM d.child? root.id

def nodeAt? (d : Disk) (place : Place) : Option Node := (d.at? place).bind d.node?

def allows (d : Disk) (id : NodeId) (bit : Nat) : Bool := (d.node? id).any (·.allows bit)

/-- Everything below a node, each with its place as seen from there. -/
def belowFrom (d : Disk) : (depth : Nat) → NodeId → List (Place × NodeId)
  | 0, _ => []
  | depth + 1, id =>
    (((d.entries? id).getD .empty).entries).flatMap fun (name, id) =>
      ([name], id) :: (belowFrom d depth id).map fun (place, id) => (name :: place, id)

/-- How deep directories may be nested. -/
def depthLimit : Nat := 2000

def below (d : Disk) (id : NodeId) : List (Place × NodeId) := d.belowFrom depthLimit id

/-- The names in a directory, sorted. -/
def children (d : Disk) (id : NodeId) : List Text :=
  Text.sorted ((d.entries? id).getD .empty).keys

/-- How many names a node has. -/
def names (d : Disk) (id : NodeId) : Nat :=
  d.nodes.foldl (fun n node => match node.content with
    | .directory entries => n + entries.entries.countP (·.2 = id)
    | _ => n) 0

/-! ## Changing nodes -/

def alter (d : Disk) (id : NodeId) (f : Node → Node) : Disk :=
  { d with nodes := d.nodes.modify id f }

/-- Give a node other contents. -/
def setContents (d : Disk) (id : NodeId) (contents : Bytes) : Disk :=
  d.alter id fun n => match n.content with
    | .file _ => { n with content := .file contents, time := d.now }
    | _ => n

def alterEntries (d : Disk) (id : NodeId) (f : Ledger Text NodeId → Ledger Text NodeId) : Disk :=
  d.alter id fun n => match n.content with
    | .directory entries => { n with content := .directory (f entries), time := d.now }
    | _ => n

/-- Give a node a name in a directory. -/
def name (d : Disk) (directory : NodeId) (name : Text) (id : NodeId) : Disk :=
  d.alterEntries directory (·.put name id)

/-- Take a name away. -/
def unname (d : Disk) (directory : NodeId) (name : Text) : Disk :=
  d.alterEntries directory (·.erase name)

/-- Make a node with a name. -/
def make (d : Disk) (directory : NodeId) (name : Text) (n : Node) : Disk × NodeId :=
  let id := d.nodes.size
  (Disk.name { d with nodes := d.nodes.push n } directory name id, id)

/-- A copy of a node with everything below it, without a name. -/
def duplicate : (depth : Nat) → Disk → NodeId → Disk × NodeId
  | 0, d, id => (d, id)
  | depth + 1, d, id =>
    match d.node? id with
    | none => (d, id)
    | some n =>
      let copy := d.nodes.size
      match n.content with
      | .directory entries =>
        let new : Node := { n with content := .directory .empty, time := d.now, foreign := false }
        let d := { d with nodes := d.nodes.push new }
        (entries.entries.foldl (fun d (name, id) =>
          let (d, id) := duplicate depth d id
          Disk.name d copy name id) d, copy)
      | _ => ({ d with nodes := d.nodes.push { n with time := d.now, foreign := false } }, copy)

/-! ## Paths -/

/-- The steps of a path. -/
def steps (path : Text) : List Text := (path.splitOn '/').filter (· ≠ [])

def checkName (name : Text) : Except Fault Unit :=
  if 255 < (Utf8.encode name).length then .error .nameTooLong else .ok ()

/-- The faults of a path that arise before the first step. -/
def check (path : Text) : Except Fault Unit :=
  if path.contains '\x00' then .error .nulInPath
  else if path = [] then .error .notFound
  else if 4096 ≤ (Utf8.encode path).length then .error .nameTooLong
  else .ok ()

/-- How many links may be followed on one way. -/
def linkLimit : Nat := 40

/-- Where the steps from a node lead. A link at the end is followed if that is asked for. -/
def walk (d : Disk) (follow : Bool) : (links : Nat) → Spot → List Text → Except Fault Spot
  | _, s, [] => .ok s
  | links, s, name :: rest => do
    match d.entries? s.id with
    | none => throw .notDirectory
    | some entries =>
      if !d.allows s.id 1 then throw .permissionDenied
      if name = ['.'] then walk d follow links s rest
      else if name = ['.', '.'] then
        let above := s.place.dropLast
        walk d follow links ⟨above, (d.at? above).getD root.id⟩ rest
      else
        checkName name
        match entries.get? name with
        | none => throw .notFound
        | some id =>
          match (d.node? id).map Node.content with
          | some (.link target) =>
            if rest = [] && !follow then return ⟨s.place ++ [name], id⟩
            else match links with
              | 0 => throw .tooManyLinks
              | links + 1 =>
                walk d follow links (if Path.isAbsolute target then root else s)
                  (steps target ++ rest)
          | _ => walk d follow links ⟨s.place ++ [name], id⟩ rest
termination_by links _ names => (links, names.length)

/-- Where a path starts. -/
def origin (d : Disk) (directory : Place) (path : Text) : Except Fault Spot :=
  if Path.isAbsolute path then .ok root
  else match d.at? directory with
    | some id => .ok ⟨directory, id⟩
    | none => .error .notFound

/-- Where a path leads. A slash at its end asks for a directory. -/
def locateBy (d : Disk) (follow : Bool) (directory : Place) (path : Text) : Except Fault Spot := do
  check path
  let asked := path.getLast? = some '/'
  let s ← d.walk (follow || asked) linkLimit (← d.origin directory path) (steps path)
  if asked && (d.entries? s.id).isNone then throw .notDirectory
  return s

def locate (d : Disk) (directory : Place) (path : Text) : Except Fault Spot :=
  d.locateBy true directory path

/-- The node that a path leads to; a link that it ends in is followed, or not. -/
def findBy (d : Disk) (follow : Bool) (directory : Place) (path : Text) : Except Fault Node := do
  match d.node? (← d.locateBy follow directory path).id with
  | some n => return n
  | none => throw .notFound

def find (d : Disk) (directory : Place) (path : Text) : Except Fault Node :=
  d.findBy true directory path

def isDirectory (d : Disk) (directory : Place) (path : Text) : Bool :=
  (d.find directory path).toOption.any Node.isDirectory

def isFile (d : Disk) (directory : Place) (path : Text) : Bool :=
  (d.find directory path).toOption.any Node.isFile

def exists? (d : Disk) (directory : Place) (path : Text) : Bool :=
  (d.find directory path).toOption.isSome

def read (d : Disk) (directory : Place) (path : Text) : Except Fault Bytes := do
  let n ← d.find directory path
  if !n.allows 4 then throw .permissionDenied
  if n.isDirectory then throw .isDirectory
  if !n.isPresent then throw .noDevice
  return n.bytes

def readText (d : Disk) (directory : Place) (path : Text) : Except Fault Text := do
  match Utf8.decode? (← d.read directory path) with
  | some t => return t
  | none => throw .invalidText

/-- The directory in which the last of some steps is to be made, and that step. A link in which the
steps end is followed if that is asked for. -/
def walkLast (d : Disk) (follow : Bool) : (links : Nat) → Spot → List Text →
    Except Fault (Spot × Text)
  | links, s, names => do
    match names.getLast? with
    | none => return (s, ['.'])
    | some last =>
      let above ← d.walk true linkLimit s names.dropLast
      match d.entries? above.id with
      | none => throw .notDirectory
      | some entries =>
        if !d.allows above.id 1 then throw .permissionDenied
        match if follow then ((entries.get? last).bind d.node?).map Node.content else none with
        | some (.link target) =>
          match links with
          | 0 => throw .tooManyLinks
          | links + 1 =>
            walkLast d follow links (if Path.isAbsolute target then root else above) (steps target)
        | _ => return (above, last)

/-- The directory in which the last step of a path is to be made, and that step. -/
def locateLast (d : Disk) (follow : Bool) (directory : Place) (path : Text) :
    Except Fault (Spot × Text) := do
  check path
  d.walkLast follow linkLimit (← d.origin directory path) (steps path)

def isDots (name : Text) : Bool := name = ['.'] || name = ['.', '.']

/-- May names be given and taken away in a directory? -/
def mayName (d : Disk) (id : NodeId) : Bool := d.allows id 2 && d.allows id 1

/-- Make a node at a path where there is none. -/
def makeAt (d : Disk) (directory : Place) (path : Text) (n : Node) : Except Fault Disk := do
  let (above, name) ← d.locateLast false directory path
  if isDots name then throw .alreadyExists
  checkName name
  if n.content = .link [] then throw .notFound
  if (d.child? above.id name).isSome then throw .alreadyExists
  if !d.mayName above.id then throw .permissionDenied
  return (d.make above.id name { n with time := d.now }).1

def makeDirectory (d : Disk) (directory : Place) (path : Text) (mode : Nat := directoryMode) :
    Except Fault Disk :=
  d.makeAt directory path { content := .directory .empty, mode }

/-- The file at a path that is to be written, which is made if there is none. -/
def openForWriting (d : Disk) (directory : Place) (path : Text) (truncate : Bool)
    (mode : Nat := fileMode) : Except Fault (Disk × NodeId) := do
  let (above, name) ← d.locateLast true directory path
  if isDots name || path.getLast? = some '/' then throw .isDirectory
  checkName name
  match d.child? above.id name with
  | some id =>
    match d.node? id with
    | none => throw .notFound
    | some n =>
      if n.isDirectory then throw .isDirectory
      if !n.allows 2 then throw .permissionDenied
      if !n.isPresent then throw .noDevice
      return (if truncate then d.setContents id [] else d, id)
  | none =>
    if !d.mayName above.id then throw .permissionDenied
    return d.make above.id name { content := .file [], mode, time := d.now }

/-- Write a file, in place of what it held. -/
def writeFile (d : Disk) (directory : Place) (path : Text) (contents : Bytes)
    (mode : Nat := fileMode) : Except Fault Disk := do
  let (d, id) ← d.openForWriting directory path true mode
  if contents ≠ [] && (d.node? id).any (·.content = .device .full) then throw .noSpace
  return d.setContents id contents

/-- Make a directory unless there is one. -/
def ensureDirectory (d : Disk) (directory : Place) (path : Text) (mode : Nat := directoryMode) :
    Except Fault Disk :=
  match d.makeDirectory directory path mode with
  | .ok d => .ok d
  | .error fault => if d.isDirectory directory path then .ok d else .error fault

/-- Make a directory with all those above it that are missing, at most `n` of them. What was made
before a fault stays. -/
def makeDirectories (mode : Nat) : (n : Nat) → Disk → (directory : Place) → (path : Text) →
    Except Fault Unit × Disk
  | 0, d, _, _ => (.ok (), d)
  | n + 1, d, directory, path =>
    if path = [] then (.ok (), d)
    else match d.ensureDirectory directory path mode with
      | .ok d => (.ok (), d)
      | .error .notFound =>
        match Path.parent? path with
        | none => (.error .notFound, d)
        | some parent =>
          match makeDirectories mode n d directory parent with
          | (.error fault, d) => (.error fault, d)
          | (.ok (), d) =>
            match d.ensureDirectory directory path mode with
            | .ok d => (.ok (), d)
            | .error fault => (.error fault, d)
      | .error fault => (.error fault, d)

def createDirectories (d : Disk) (directory : Place) (path : Text)
    (mode : Nat := directoryMode) : Except Fault Unit × Disk :=
  makeDirectories mode ((Path.parts path).length + 1) d directory path

/-- Write a text to a file, after making the directory that the file stands in. -/
def save (d : Disk) (directory : Place) (path contents : Text) : Except Fault Unit × Disk :=
  match d.createDirectories directory ((Path.parent? path).getD []) with
  | (.error fault, d) => (.error fault, d)
  | (.ok (), d) =>
    match d.writeFile directory path (Utf8.encode contents) with
    | .ok d => (.ok (), d)
    | .error fault => (.error fault, d)

/-! ## Names -/

/-- Take away the name that a path ends in. -/
def remove (d : Disk) (directory : Place) (path : Text) : Except Fault Disk := do
  let path := Text.dropEndWhile (· = '/') path
  let (above, name) ← d.locateLast false directory path
  checkName name
  match d.child? above.id name with
  | none => throw .notFound
  | some _ =>
    if !d.mayName above.id then throw .permissionDenied
    return d.unname above.id name

/-- Give a node the name that a path ends in, in place of the node that had it. -/
def nameAt (d : Disk) (directory : Place) (path : Text) (id : NodeId) : Except Fault Disk := do
  let path := Text.dropEndWhile (· = '/') path
  let (above, name) ← d.locateLast false directory path
  if isDots name then throw .alreadyExists
  checkName name
  if !d.mayName above.id then throw .permissionDenied
  return d.name above.id name id

/-- Set up a node at a place, for a machine that is made. The directories above it exist. -/
def install (d : Disk) (place : Place) (n : Node) : Disk :=
  match d.at? place.dropLast, place.getLast? with
  | some id, some name => (d.make id name n).1
  | _, _ => d

end Disk
end GoRepl
