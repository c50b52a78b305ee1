import GoRepl.Text.Basic

/-! # Commands

What a top-level line asks for. -/

namespace GoRepl

inductive Command where
  | blank
  | exit
  | save (path : Text)
  | publish
  | bring (spec : Text)
  | function
  | direct
  | statement
deriving DecidableEq, Repr

namespace Command

/-- What follows a keyword and a blank, trimmed, if that is not empty. -/
def argument? (word line : Text) : Option Text :=
  match Text.after? word line with
  | some (c :: rest) =>
    let argument := Text.trim rest
    if Text.isBlank c && argument ≠ [] then some argument else none
  | _ => none

/-- A line that begins like a number or a quoted literal is a value to be shown. -/
def isDirect : Text → Bool
  | [] => false
  | c :: _ => Text.isDigit c || c == '"' || c == '\'' || c == '`'

/-- The words are case-sensitive and are tried in this order. -/
def classify (line : Text) : Command :=
  let line := line.trim
  if line = [] then .blank
  else if line = "exit".toList then .exit
  else match argument? "export".toList line with
  | some path => .save path
  | none =>
    if line = "playground".toList || line = "share".toList then .publish
    else match argument? "import".toList line with
    | some spec => .bring spec
    | none =>
      if (Text.after? "func ".toList line).isSome then .function
      else if isDirect line then .direct
      else .statement

end Command
end GoRepl
