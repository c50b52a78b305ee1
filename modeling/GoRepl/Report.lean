import GoRepl.Colour
import GoRepl.Session

/-! # Reports

What is printed for the outcome of a turn. -/

namespace GoRepl

inductive Stream where
  | stdout
  | stderr
deriving DecidableEq, Repr

/-- A line of text for a stream. -/
structure Printed where
  stream : Stream
  text : Text
deriving DecidableEq, Repr

/-- All that was printed to a stream, each text on a line of its own. -/
def Printed.contents (stream : Stream) (ps : List Printed) : Text :=
  (ps.filter (·.stream = stream)).flatMap fun p => p.text ++ ['\n']

/-- Diagnostics come first, then what the program wrote; parts that are empty are left out. -/
def Outcome.report : Outcome → List Printed
  | .idle | .exit | .declared _ => []
  | .output text => if text = [] then [] else [⟨.stdout, text⟩]
  | .saved path _ => [⟨.stdout, Colour.statusLabel "Exported".toList ++ [' '] ++ path⟩]
  | .published url => [⟨.stdout, url⟩]
  | .failed .interrupted => [⟨.stdout, Colour.gray "(interrupted)".toList⟩]
  | .failed (.compileFailure reason detail stdout) =>
    [⟨.stderr, Colour.red reason⟩] ++
      (if detail = [] then [] else [⟨.stderr, detail.trim⟩]) ++
      (if stdout = [] then [] else [⟨.stdout, stdout⟩])
  | .failed e => [⟨.stderr, Colour.errorLine e.message⟩]

end GoRepl
