import GoRepl.TestBed.Disk
import GoRepl.Session

/-! # Rehearsals

A host that answers from a list of rules, for trying out sessions. Programs are written to a disk in
memory, and what the toolchain and the share service were given is kept. -/

namespace GoRepl

/-- How a rehearsed run ends. -/
inductive Rehearsed where
  | output (o : RunOutput)
  | error (e : RunError)
deriving DecidableEq, Repr

/-- What a program that contains a given text does. -/
structure Rule where
  occurring : Text
  answer : Rehearsed
deriving DecidableEq, Repr

inductive ShareService where
  | none
  | failing (reason : Text)
  | working
deriving DecidableEq, Repr

namespace Rehearsal

/-- What has happened so far; the programs stand latest first. -/
structure State where
  disk : Disk
  programs : List Text := []

/-- The first rule that applies decides; without one the program succeeds. -/
def respond (rules : List Rule) (program : Text) : Rehearsed :=
  match rules.find? fun r => Text.occursIn r.occurring program with
  | some r => r.answer
  | none => .output { stdout := "ok\n".toList }

/-- The address under which the rehearsed service stores a program: its length in bytes. -/
def address (program : Text) : Text :=
  "https://play.example/p/".toList ++ decimal (Utf8.encode program).length

def host (rules : List Rule) (service : ShareService) (directory : Place) :
    Host (StateM State) where
  write path program := fun s =>
    let (result, disk) := s.disk.save directory path program
    (result, { s with disk })
  run path := fun s =>
    let program := (s.disk.readText directory path).toOption.getD []
    let s := { s with programs := program :: s.programs }
    match respond rules program with
    | .output o => (.ok o, s)
    | .error e => (.error e, s)
  share program := fun s =>
    match service with
    | .none => (.error .unavailable, s)
    | .failing reason => (.error (.refused reason), { s with programs := program :: s.programs })
    | .working => (.ok (address program), { s with programs := program :: s.programs })

end Rehearsal
end GoRepl
