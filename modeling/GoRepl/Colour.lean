import GoRepl.Text.Basic

/-! # Colours

Text painted by terminal escape sequences. -/

namespace GoRepl.Colour

def paint (code t : Text) : Text :=
  ['\x1b', '['] ++ code ++ ['m'] ++ t ++ ['\x1b', '[', '0', 'm']

/-- Error labels and diagnostics. -/
def red (t : Text) : Text := paint "31".toList t

def cyan (t : Text) : Text := paint "36".toList t

/-- Hints. -/
def gray (t : Text) : Text := paint "90".toList t

/-- A bold green label, set to the right in twelve columns. -/
def statusLabel (label : Text) : Text :=
  paint "1;32".toList (List.replicate (12 - label.length) ' ' ++ label)

/-- An error message after its label. -/
def errorLine (message : Text) : Text := red "error:".toList ++ [' '] ++ message

end GoRepl.Colour
