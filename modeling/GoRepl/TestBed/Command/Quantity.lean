import GoRepl.TestBed.Command.Basic
import GoRepl.TestBed.Shell.Arithmetic

/-! # Test bed: numbers with units

How many bytes or lines a number with a unit stands for. -/

namespace GoRepl.Machine

/-- What is wrong with a number that may have a unit. -/
inductive QuantityFault where
  | invalid
  | tooLarge
deriving DecidableEq

namespace Quantity

/-- The largest number. -/
def most : Nat := 18446744073709551615

/-- The power of its base that a unit stands for. -/
def power? (c : Char) : Option Nat :=
  match c with
  | 'k' => some 1
  | 'm' => some 2
  | c => ("KMGTPEZY".toList.idxOf? c).map (· + 1)

/-- What a unit stands for: `b` for a block, a letter for a power of 1024, and one with a `B` after
it for a power of 1000. -/
def unit? (t : Text) : Option Nat :=
  match t with
  | [] => some 1
  | ['b'] => some 512
  | c :: rest => (power? c).bind fun n =>
    if rest = [] || rest = ['i', 'B'] then some (Nat.pow 1024 n)
    else if rest = ['B'] || rest = ['D'] then some (Nat.pow 1000 n)
    else none

/-- A number that may have a unit, or a unit alone. -/
def read (t : Text) : Except QuantityFault Nat :=
  let unsigned := match Shell.Expression.blank t with
    | '+' :: t => t
    | t => t
  let digits := unsigned.takeWhile Text.isDigit
  let number := if digits = [] then 1 else Shell.Expression.ofDigits 10 digits
  match unit? (if digits = [] then t else unsigned.drop digits.length) with
  | none => throw .invalid
  | some unit =>
    if t = [] then throw .invalid
    else if most < number * unit then throw .tooLarge
    else return number * unit

/-- A number that may have a unit, or the words about what is none. -/
def orComplaint (what : String) (t : Text) : Except Text Nat :=
  match read t with
  | .ok n => return n
  | .error fault =>
    throw ("invalid number of ".toList ++ what.toList ++ ": ".toList ++ Call.quoted t ++
      if fault = .tooLarge then ": Value too large for defined data type".toList else [])

/-- A whole number from a range, or the words about what is none. -/
def within (what : String) (least most : Int) (t : Text) : Except Text Int :=
  let wrong (why : String) : Text :=
    "invalid ".toList ++ what.toList ++ ": ".toList ++ Call.quoted t ++ why.toList
  let (negative, digits) := match Shell.Expression.blank t with
    | '-' :: t => (true, t)
    | '+' :: t => (false, t)
    | t => (false, t)
  match natural? digits with
  | none => throw (wrong "")
  | some n =>
    let n : Int := if negative then -n else n
    if negative && 0 ≤ least then throw (wrong "")
    else if least ≤ n && n ≤ most then return n
    else throw (wrong (if n.natAbs < 1073741824 then ": Numerical result out of range"
      else ": Value too large for defined data type"))

end Quantity

end GoRepl.Machine
