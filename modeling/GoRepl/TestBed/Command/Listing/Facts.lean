import GoRepl.TestBed.Command.Files

/-! # Test bed: facts about files

Who owns a file, how large it is, and what the letters and numbers are that tell of it. -/

namespace GoRepl.Machine.Listing

/-- The one user of the machine. -/
def userName : String := "user"

def userNumber : Nat := 1000

def owner (n : Node) : Text := (if n.foreign then "root" else userName).toList

def ownerNumber (n : Node) : Nat := if n.foreign then 0 else userNumber

def size (n : Node) : Nat :=
  match n.content with
  | .file contents => contents.length
  | .directory _ => 4096
  | .link target => (Utf8.encode target).length
  | _ => 0

/-- The blocks that a file takes up, of 512 bytes each. -/
def blocks (n : Node) : Nat :=
  match n.content with
  | .file contents => (contents.length + 4095) / 4096 * 8
  | .directory _ => 8
  | _ => 0

/-- The letter of a kind of node. -/
def kindLetter (n : Node) : Char :=
  match n.content with
  | .directory _ => 'd'
  | .file _ => '-'
  | .link _ => 'l'
  | .pipe => 'p'
  | .device _ => 'c'

/-- How many links lead to a node, where a directory is linked by itself and those in it. -/
def linkCount (d : Disk) (id : NodeId) : Nat :=
  match d.entries? id with
  | some entries => 2 + entries.entries.countP fun (_, k) => (d.entries? k).isSome
  | none => d.names id

/-- A number of bytes in a unit that keeps it short, rounded up. -/
def humanSize (n : Nat) (base : Nat := 1024) : Text :=
  if n < base then decimal n
  else
    let units := (if base = 1024 then "KMGTP" else "kMGTP").toList
    -- A number that comes to the next unit when it is rounded up is shown in that unit.
    let above (k : Nat) : Nat := (n + Nat.pow base k - 1) / Nat.pow base k
    let k := ((List.range 5).find? fun k => above (k + 1) < base).getD 4
    let unit := Nat.pow base (k + 1)
    let tenths := (n * 10 + unit - 1) / unit
    (if tenths < 100 then decimal (tenths / 10) ++ ['.'] ++ decimal (tenths % 10)
      else decimal (above (k + 1))) ++ (units[k]?).toList

end GoRepl.Machine.Listing
