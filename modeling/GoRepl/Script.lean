import GoRepl.Report

/-! # Scripts

Playing a list of lines through a session. A block that one of the lines opens goes on with the
lines after it. -/

namespace GoRepl

namespace Block

theorem length_read_rest_le (frame : Frame) (outer : List Frame) (source : List SourceItem) :
    (read frame outer source).rest.length ≤ source.length := by
  induction source generalizing frame outer with
  | nil => simp [read]
  | cons item source ih =>
    cases item with
    | line text =>
      unfold read
      split
      · simp
      · exact Nat.le_succ_of_le (ih ..)
    | interrupt => simp [read]
    | fault reason => simp [read]

end Block

theorem Fragment.length_read_rest_le (line : Text) (source : List SourceItem) :
    (Fragment.read line source).rest.length ≤ source.length := by
  unfold Fragment.read
  split
  · exact Nat.le_refl _
  · exact Block.length_read_rest_le ..

namespace Session

theorem rest_withBlock (s : Session) (line : Text) (source : List SourceItem)
    (go : Fragment → Step) :
    (s.withBlock line source go).rest = (Fragment.read line source).rest := by
  cases h : (Fragment.read line source).result <;> simp [withBlock, h]

/-- A turn takes lines from the source and never adds any. -/
theorem length_start_rest_le (s : Session) (line : Text) (source : List SourceItem) :
    (s.start line source).rest.length ≤ source.length := by
  unfold start
  split
  any_goals exact Nat.le_refl _
  · split
    · rw [rest_withBlock]
      exact Fragment.length_read_rest_le ..
    · split <;> exact Nat.le_refl _
  · rw [rest_withBlock]
    exact Fragment.length_read_rest_le ..
  · rw [rest_withBlock]
    exact Fragment.length_read_rest_le ..

end Session

namespace Script

/-- How many turns a script took, and how many of them failed. Idle turns do not count. -/
structure Summary where
  turns : Nat := 0
  failures : Nat := 0
deriving DecidableEq, Repr

/-- The state of a script that has been played for some lines; what it printed stands latest
first. -/
structure Progress where
  session : Session
  summary : Summary := {}
  printed : List Printed := []

def Progress.advance (p : Progress) (outcome : Outcome) (session : Session) : Progress where
  session
  summary := match outcome with
    | .idle => p.summary
    | .failed _ => ⟨p.summary.turns + 1, p.summary.failures + 1⟩
    | _ => { p.summary with turns := p.summary.turns + 1 }
  printed := outcome.report.reverse ++ p.printed

/-- A script as a source of lines. -/
def ofText (t : Text) : List SourceItem := t.lines.map .line

variable {m : Type → Type} [Monad m]

/-- Play the lines until they end or one of them says `exit`, and print the report of each turn. The
lines left over come second. -/
def perform (host : Host m) (print : List Printed → m Unit) (p : Progress) :
    List SourceItem → m (Progress × List SourceItem)
  | .line line :: source => do
    let start := p.session.start line source
    let (outcome, session) ← host.finish start.step
    print outcome.report
    let p := p.advance outcome session
    if outcome = .exit then return (p, start.rest) else perform host print p start.rest
  | source => return (p, source)
termination_by source => source.length
decreasing_by exact Nat.lt_succ_of_le (Session.length_start_rest_le ..)

/-- Play the lines without printing anything; what would be printed is kept in the progress. -/
def play (host : Host m) (p : Progress) (source : List SourceItem) :
    m (Progress × List SourceItem) :=
  perform host (fun _ => return) p source

end Script
end GoRepl
