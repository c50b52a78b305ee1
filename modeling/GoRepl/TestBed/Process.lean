import GoRepl.TestBed.Shell.Start

/-! # Test bed: processes

What happens when a program is started: it is one of the commands of the machine, or a shell that
runs a script, and each of them may start others in its turn. -/

namespace GoRepl.Machine

/-- How many programs may stand between the first one and one that is started. -/
def nestingLimit : Nat := 400

/-- Run what a path or name has led to. -/
def Image.run (launch : Launch) (i : Image) (c : Call) : Work Result := do
  let c := { c with name := i.name, args := i.args }
  match String.ofList i.command with
  | "dash" => Shell.runShell launch .plain c
  | "bash" => Shell.runShell launch .extended c
  | "which" => return { status := ← which c }
  | _ =>
    match command? i.command with
    | some start => start (throughShell launch) c
    | none => return { status := 127 }
where
  /-- A script that names no command is one for the plain shell. -/
  throughShell (launch : Launch) : Launch := fun name c => do
    match ← launch name c with
    | .error .notExecutable =>
      let d := (← get).disk
      let path := (pathOf d c.place (searched c.environment) name).toOption.getD name
      launch "/bin/sh".toList { c with name := "/bin/sh".toList, args := path :: c.args }
    | r => return r

/-- What is started by a path or name. -/
def imageOf (d : Disk) (path : Text) (c : Call) : Except Fault Image := do
  image d c.place scriptLimit (← pathOf d c.place (searched c.environment) path) c.name c.args

/-- Start a program by its path or name. Programs that start one another for ever never end. -/
def launch : (fuel : Nat) → Launch
  | 0, _, _ => spin
  | fuel + 1, path, c => do
    match imageOf (← get).disk path c with
    | .error fault => return .error fault
    | .ok i =>
      countProcess
      return .ok (← i.run (launch fuel) c)

end GoRepl.Machine
