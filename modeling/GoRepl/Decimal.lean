import GoRepl.Text.Basic

/-! # Decimal numerals -/

namespace GoRepl

/-- The decimal digits of a number, without leading zeros. -/
def decimal (n : Nat) : Text := Nat.toDigits 10 n

end GoRepl
