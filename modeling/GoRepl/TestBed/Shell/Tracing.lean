import GoRepl.TestBed.Shell.Reader.Command
import GoRepl.TestBed.Shell.Redirection

/-! # Test bed: tracing

Commands are shown before they are run, if that is asked for. -/

namespace GoRepl.Machine.Shell

/-- A text in which parameters and commands stand, as if it stood in double quotes. -/
def expandedText (h : Inner) (t : Text) : Run Text := do
  let s ← get
  let fuel := 16 * t.length + 64
  let source : Source := { rest := t, dialect := s.dialect }
  match (Reader.parts (Reader.commands fuel) fuel .document).run source with
  | .ok (w, _) => expandText h w
  | .error _ => return t

/-- What stands before a command that is shown. Its first character tells how deep the command is
nested. -/
def traceStart (h : Inner) : Run Text := do
  let s ← get
  let t ← match s.value? "PS4".toList with
    | none => pure ['+', ' ']
    | some t =>
      -- What is run for this is not shown.
      let options := s.options
      modify fun s => { s with options := s.options.filter (· ≠ 'x') }
      let t ← expandedText h t
      modify ({ · with options, status := s.status })
      pure t
  return if s.isExtended then List.replicate s.nesting (t.headD '+') ++ t else t

/-- Show a line, on the stream that is the one for that. -/
def traceLine (h : Inner) (stream : Option StreamId) (t : Text) : Run Unit := do
  if (← get).hasOption 'x' then
    let start ← traceStart h
    match stream with
    | some id => work (Machine.write id (start ++ t ++ ['\n']))
    | none => return

/-- Show a command as the texts that it consists of. -/
def traceWords (h : Inner) (stream : Option StreamId) (texts : List Text) : Run Unit := do
  let s ← get
  if s.hasOption 'x' then
    let shown := if s.isExtended then texts.map asWord else texts
    traceLine h stream (List.intercalate [' '] shown)

/-- The stream for complaints. -/
def Frame.complaints (f : Frame) : Option StreamId := f.streams.lookup 2

end GoRepl.Machine.Shell
