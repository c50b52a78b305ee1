import GoRepl.TestBed.Shell.Script

/-! # Test bed: loops

Rounds of commands that are run again and again, until they come to an end or a jump leaves them. -/

namespace GoRepl.Machine.Shell

/-- How many rounds a loop may take before it counts as one without an end. -/
def roundLimit : Nat := 200000

/-- Repeat a run as long as it says so. -/
def rounds (m : Run Bool) : (limit : Nat) → Shell → Machine →
    Course Machine (Except Jump Unit × Shell)
  | 0, _, w => .lost w
  | limit + 1, s, w =>
    match (ExceptT.run m) s w with
    | .done (.ok true, s) w => rounds m limit s w
    | .done (.ok false, s) w => .done (.ok (), s) w
    | .done (.error j, s) w => .done (.error j, s) w
    | c => c.bind fun r w => match r with
      | (.ok true, s) => rounds m limit s w
      | (.ok false, s) => .done (.ok (), s) w
      | (.error j, s) => .done (.error j, s) w

/-- Run something for each of some texts, as long as it says so. -/
def overAll (one : Text → Run Bool) : List Text → Shell → Machine →
    Course Machine (Except Jump Unit × Shell)
  | [], s, w => .done (.ok (), s) w
  | t :: ts, s, w =>
    match (ExceptT.run (one t)) s w with
    | .done (.ok true, s) w => overAll one ts s w
    | .done (.ok false, s) w => .done (.ok (), s) w
    | .done (.error j, s) w => .done (.error j, s) w
    | c => c.bind fun r w => match r with
      | (.ok true, s) => overAll one ts s w
      | (.ok false, s) => .done (.ok (), s) w
      | (.error j, s) => .done (.error j, s) w

/-- One round of a loop: does another one follow? -/
def round (m : Run Bool) : Run Bool := do
  match ← attempt m with
  | .ok goesOn => return goesOn
  | .error (.leaveLoops n) => if n ≤ 1 then return false else throw (.leaveLoops (n - 1))
  | .error (.nextRound n) =>
    modify ({ · with lastRound := 0 })
    if n ≤ 1 then return true else throw (.nextRound (n - 1))
  | .error j => throw j

/-- Run something inside of one more loop. -/
def insideLoop (m : Run Unit) : Run Unit := do
  let outer ← get
  modify fun s => { s with loops := s.loops + 1, lastRound := 0 }
  always m (modify fun s => { s with loops := s.loops - 1, lastRound := outer.lastRound })

/-- A loop that goes on as long as its rounds say so. -/
def loop (m : Run Bool) : Run Unit :=
  insideLoop (ExceptT.mk (rounds (round m) roundLimit))

/-- A loop with a round for each of some texts. -/
def loopOver (ts : List Text) (one : Text → Run Bool) : Run Unit :=
  insideLoop (ExceptT.mk (overAll (fun t => round (one t)) ts))

/-- Is an expression empty? -/
def isBlank (w : Word) : Bool :=
  w.all fun p => match p with
    | .text t _ => t.all (· == ' ')
    | _ => false

end GoRepl.Machine.Shell
