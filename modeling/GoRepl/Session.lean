import GoRepl.Block
import GoRepl.Command
import GoRepl.Toolchain
import GoRepl.Workspace.Program

/-! # Sessions

One turn for each top-level line. What a turn needs from the outside is a single demand: to run a
program, to save it or to publish it. `Session.start` reads the line and its block and says what is
demanded; the answer settles the turn. -/

namespace GoRepl

inductive ShareError where
  | unavailable
  | refused (reason : Text)
deriving DecidableEq, Repr

def ShareError.message : ShareError → Text
  | .unavailable => "no share service configured".toList
  | .refused reason => reason

/-- Why a turn failed. -/
inductive TurnError where
  | interrupted
  | notDeclared
  /-- The toolchain wrote diagnostics, or said that the run ended badly. -/
  | compileFailure (reason detail stdout : Text)
  | toolchain (error : RunError)
  | unwritable (path : Text) (fault : Fault)
  | input (error : ReadError)
  | share (error : ShareError)
  | malformedImport (spec : Text)
  | namelessFunction (line : Text)
deriving DecidableEq, Repr

namespace TurnError

def ofRead : ReadError → TurnError
  | .interrupted => interrupted
  | e => input e

def message : TurnError → Text
  | interrupted => "interrupted".toList
  | notDeclared => "parameter not declared".toList
  | compileFailure reason detail _ => reason ++ ['\n'] ++ detail
  | toolchain e => e.message
  | unwritable path fault => "cannot write ".toList ++ path ++ ": ".toList ++ fault.message
  | input e => e.message
  | share e => "share failed: ".toList ++ e.message
  | malformedImport spec => "cannot parse import `".toList ++ spec ++ ['`']
  | namelessFunction line => "cannot find a function name in `".toList ++ line ++ ['`']

end TurnError

/-- What a turn produced. -/
inductive Outcome where
  | idle
  | exit
  | output (text : Text)
  | declared (names : List Text)
  | saved (path program : Text)
  | published (url : Text)
  | failed (error : TurnError)
deriving DecidableEq, Repr

def Outcome.isFailure : Outcome → Bool
  | .failed _ => true
  | _ => false

/-- What a turn demands of the outside. -/
inductive Demand where
  /-- Write a program to a file and run it there. -/
  | run (path program : Text)
  | save (path program : Text)
  | publish (program : Text)
deriving DecidableEq, Repr

/-- How a demand can be answered. -/
abbrev Demand.Answer : Demand → Type
  | .run _ _ => Except Fault (Except RunError RunOutput)
  | .save _ _ => Except Fault Unit
  | .publish _ => Except ShareError Text

structure Session where
  workspace : Workspace := {}
  template : Template := .standard
  /-- Where a program is written before it is run. -/
  programFile : Text
deriving DecidableEq

/-- A turn whose line has been read: it is settled, or it waits for the answer to a demand. -/
inductive Step where
  | settled (outcome : Outcome) (after : Session)
  | demands (d : Demand) (settle : d.Answer → Outcome × Session)

/-- A started turn, the depth of each request made to the source, and what is left of it. -/
structure Start where
  step : Step
  depths : List Nat := []
  rest : List SourceItem

namespace Session

def new (imports : List Text) (template : Template) (programFile : Text) : Session :=
  ⟨.ofImports imports, template, programFile⟩

/-- The program that the session stands for now. -/
def program (s : Session) : Text := s.workspace.program s.template

/-- The session after its program has been assembled. -/
def assembled (s : Session) : Session := { s with workspace := s.workspace.scan.resetLiveness }

/-- What a run that came about means: its output, or the diagnostics as a failure. -/
def interpret (o : RunOutput) : Except TurnError Text :=
  if o.failed then .error (.compileFailure o.reason o.detail o.stdout.trimEnd)
  else .ok o.stdout.trimEnd

/-- What the answer to a demand for a run means. -/
def interpretRun (path : Text) : Except Fault (Except RunError RunOutput) → Except TurnError Text
  | .error fault => .error (.unwritable path fault)
  | .ok (.error e) => .error (.toolchain e)
  | .ok (.ok o) => interpret o

def importSpecs (s : Session) (specs : List ImportSpec) : Step :=
  .settled (.declared (specs.map ImportSpec.path))
    { s with workspace := specs.foldl Workspace.declareImport s.workspace }

/-- The specs of a block `import (`, one for each entry that has a path. -/
def entrySpecs (f : Fragment) : List ImportSpec := f.body.entryOpeners.filterMap ImportSpec.parse?

def storeFunction (s : Session) (line : Text) (f : Fragment) : Step :=
  match s.workspace.declareFunction? f with
  | some (name, workspace) => .settled (.declared [name]) { s with workspace }
  | none => .settled (.failed (.namelessFunction line)) s

/-- Show the value of a line, in a program of its own. -/
def showValue (s : Session) (line : Text) : Step :=
  let program := s.template.render {
    imports := indented 1 "\"fmt\"".toList
    functions := []
    statements := indented 1 ("fmt.Println(".toList ++ line ++ [')']) }
  .demands (.run s.programFile program) fun answer =>
    let s := { s with workspace := s.workspace.resetLiveness }
    match interpretRun s.programFile answer with
    | .ok out => (.output out, s)
    | .error e => (.failed e, s)

/-- Store a statement. A use statement is run at once, and taken back if the run fails. -/
def storeStatement (s : Session) (f : Fragment) : Step :=
  let w := s.workspace.add f
  if f.isDeclaration then .settled (.declared f.declaredNames) { s with workspace := w }
  else
    let w := w.scan
    if w.entries.length = 1 && !w.registry.hasLive then
      .settled (.failed .notDeclared) { s with workspace := w.rollback.resetLiveness }
    else
      let s := { s with workspace := w }
      let after := s.assembled
      .demands (.run s.programFile s.program) fun answer =>
        match interpretRun s.programFile answer with
        | .ok out => (.output out, after)
        | .error e => (.failed e, { after with workspace := after.workspace.rollback })

def saveProgram (s : Session) (path : Text) : Step :=
  .demands (.save path s.program) fun
    | .ok () => (.saved path s.program, s.assembled)
    | .error fault => (.failed (.unwritable path fault), s.assembled)

def publishProgram (s : Session) : Step :=
  .demands (.publish s.program) fun
    | .ok url => (.published url, s.assembled)
    | .error e => (.failed (.share e), s.assembled)

/-- Read the block that a line starts and go on with it; a block that cannot be read changes
nothing. -/
def withBlock (s : Session) (line : Text) (source : List SourceItem) (go : Fragment → Step) :
    Start :=
  let r := Fragment.read line source
  match r.result with
  | .ok f => ⟨go f, r.depths, r.rest⟩
  | .error e => ⟨.settled (.failed (.ofRead e)) s, r.depths, r.rest⟩

/-- Start the turn of a line. If the line opens a block, the block is read from the source. -/
def start (s : Session) (line : Text) (source : List SourceItem) : Start :=
  match Command.classify line with
  | .blank => ⟨.settled .idle s, [], source⟩
  | .exit => ⟨.settled .exit s, [], source⟩
  | .save path => ⟨s.saveProgram path, [], source⟩
  | .publish => ⟨s.publishProgram, [], source⟩
  | .bring spec =>
    if spec = ['('] then s.withBlock line.trim source fun f => s.importSpecs (entrySpecs f)
    else match ImportSpec.parse? spec with
      | some spec => ⟨s.importSpecs [spec], [], source⟩
      | none => ⟨.settled (.failed (.malformedImport spec)) s, [], source⟩
  | .function => s.withBlock line.trim source (s.storeFunction line.trim)
  | .direct => ⟨s.showValue line.trim, [], source⟩
  | .statement => s.withBlock line.trim source s.storeStatement

end Session

/-- The outside of a session: it writes files, runs what stands in a file, and shares programs. -/
structure Host (m : Type → Type) where
  write : (path program : Text) → m (Except Fault Unit)
  run : (path : Text) → m (Except RunError RunOutput)
  share : (program : Text) → m (Except ShareError Text)

namespace Host

variable {m : Type → Type} [Monad m]

def answer (host : Host m) : (d : Demand) → m d.Answer
  | .run path program => do
    match ← host.write path program with
    | .error fault => return .error fault
    | .ok () => return .ok (← host.run path)
  | .save path program => host.write path program
  | .publish program => host.share program

/-- Bring a started turn to its end. -/
def finish (host : Host m) : Step → m (Outcome × Session)
  | .settled outcome after => return (outcome, after)
  | .demands d settle => return settle (← host.answer d)

end Host
end GoRepl
