import GoRepl.Decimal
import GoRepl.Fault

/-! # Running programs

What the toolchain gives back for a program, and how it can fail to give anything. -/

namespace GoRepl

/-- What a run wrote, and whether it ended well. -/
structure RunOutput where
  stdout : Text := []
  stderr : Text := []
  success : Bool := true
deriving DecidableEq, Repr

namespace RunOutput

/-- Any diagnostics count as a failure, however the run ended. -/
def failed (o : RunOutput) : Bool := !o.success || o.stderr.trim ≠ []

/-- The first line of the diagnostics. -/
def reason (o : RunOutput) : Text := o.stderr.lines.head?.getD []

/-- The second line of the diagnostics, without what stands before its first colon. -/
def detail (o : RunOutput) : Text :=
  match o.stderr.lines.tail.head? with
  | none => []
  | some line => ((line.cutAt? ':').map Prod.snd).getD line

end RunOutput

inductive RunError where
  | spawn (binary : Text) (fault : Fault)
  | wait (binary : Text) (fault : Fault)
  | timedOut (binary : Text) (milliseconds : Nat)
deriving DecidableEq, Repr

/-- A time limit is shown in whole seconds. -/
def RunError.message : RunError → Text
  | spawn binary fault => "failed to start `".toList ++ binary ++ "`: ".toList ++ fault.message
  | wait binary fault => "failed to wait for `".toList ++ binary ++ "`: ".toList ++ fault.message
  | timedOut binary milliseconds =>
    ['`'] ++ binary ++ "` did not finish within ".toList ++ decimal (milliseconds / 1000) ++
      "s and was killed".toList

end GoRepl
