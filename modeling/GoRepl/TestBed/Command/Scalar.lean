import GoRepl.Decimal
import GoRepl.TestBed.Shell.Arithmetic

/-! # Test bed: numbers in binary formats

A number with a fraction is a whole number of units, each of which is a power of two. What a numeral
stands for is rounded once, to the nearest such number, and what is shown of a number is rounded
from that. -/

namespace GoRepl.Machine

/-- How exact numbers are. -/
structure Precision where
  /-- How many binary digits a number has. -/
  bits : Nat
  /-- The power of the smallest unit. -/
  least : Int
  /-- All numbers are below two to this power. -/
  most : Int

namespace Precision

def double : Precision := ⟨53, -1074, 1024⟩

def extended : Precision := ⟨64, -16445, 16384⟩

end Precision

/-! ## Rounding -/

/-- A number in double precision as a whole number times a power of two. -/
def binaryParts (x : Float) : Nat × Int :=
  let bits : Nat := x.toBits.toNat
  let exponent : Nat := bits / Nat.pow 2 52 % Nat.pow 2 11
  let fraction : Nat := bits % Nat.pow 2 52
  if exponent = 0 then (fraction, -1074)
  else (fraction + Nat.pow 2 52, Int.ofNat exponent - 1075)

/-- The whole number nearest to a quotient; of two the even one. -/
def roundQuotient (n d : Nat) : Nat :=
  let q := n / d
  if 2 * (n % d) > d || (2 * (n % d) = d && q % 2 = 1) then q + 1 else q

/-- The whole number nearest to `m · 2 ^ q · 10 ^ p`. -/
def roundScaled (m : Nat) (q p : Int) : Nat :=
  roundQuotient (m * Nat.pow 2 q.toNat * Nat.pow 10 p.toNat)
    (Nat.pow 2 (-q).toNat * Nat.pow 10 (-p).toNat)

/-- The number `m · 2 ^ q` that is nearest to the quotient of two numbers that are not zero. -/
def Precision.nearest (p : Precision) (n d : Nat) : Nat × Int :=
  let scaled (q : Int) : Nat × Nat := (n * Nat.pow 2 (-q).toNat, d * Nat.pow 2 q.toNat)
  let least : Int := (Nat.log2 n : Int) - Nat.log2 d - p.bits
  let (a, b) := scaled least
  let q := max p.least (if a / b < Nat.pow 2 p.bits then least else least + 1)
  let (a, b) := scaled q
  (roundQuotient a b, q)

/-! ## Showing -/

def padStart (n : Nat) (c : Char) (t : Text) : Text := List.replicate (n - t.length) c ++ t

/-- Digits with a point before the last `places` of them. -/
def pointed (places n : Nat) (always : Bool) : Text :=
  let ds := padStart (places + 1) '0' (decimal n)
  let cut := ds.length - places
  if places = 0 && !always then ds else ds.take cut ++ '.' :: ds.drop cut

/-- The exponent of the first digit of `m · 2 ^ q`, which is not zero. -/
def firstExponent (m : Nat) (q : Int) : Int :=
  let guess : Int := (((Nat.log2 m : Int) + q) * 30103).fdiv 100000
  let reaches (k : Int) : Bool := Nat.pow 10 k.toNat * Nat.pow 2 (-q).toNat ≤
    m * Nat.pow 2 q.toNat * Nat.pow 10 (-k).toNat
  if reaches (guess + 1) then guess + 1 else if reaches guess then guess else guess - 1

/-- The exponent of a number's first digit when it is rounded to `places` digits after that, and the
number that those digits make. -/
def leading (m : Nat) (q : Int) (places : Nat) : Int × Nat :=
  if m = 0 then (0, 0)
  else
    let size := firstExponent m q
    let digits := roundScaled m q (places - size)
    if Nat.pow 10 (places + 1) ≤ digits then (size + 1, digits / 10) else (size, digits)

def scientific (m : Nat) (q : Int) (places : Nat) (always : Bool) : Text :=
  let (size, digits) := leading m q places
  pointed places digits always ++ (if size < 0 then "e-".toList else "e+".toList) ++
    padStart 2 '0' (decimal size.natAbs)

def dropZeros (t : Text) : Text :=
  if t.contains '.' then
    let kept := Text.dropEndWhile (· == '0') t
    if kept.getLast? = some '.' then kept.dropLast else kept
  else t

/-- The shorter of the two ways to write a number to some digits. Zeros at the end are left out,
unless all digits are to be shown. -/
def general (m : Nat) (q : Int) (places : Nat) (all : Bool) : Text :=
  let places := max places 1
  let (size, _) := leading m q (places - 1)
  let brief (t : Text) : Text := if all then t else dropZeros t
  if -4 ≤ size && size < places then
    let after := ((places : Int) - 1 - size).toNat
    brief (pointed after (roundScaled m q after) all)
  else
    let t := scientific m q (places - 1) all
    brief (t.takeWhile (· != 'e')) ++ t.dropWhile (· != 'e')

/-- A number in hexadecimal digits, of which so many stand after the point, or as many as there
are. -/
def hexadecimal (p : Precision) (m : Nat) (q : Int) (places : Option Nat) (always : Bool) : Text :=
  let size := (p.bits - 1) / 4
  let shift := if m = 0 then 0 else p.bits - 1 - Nat.log2 m
  let m := m * Nat.pow 2 shift
  let exponent : Int := if m = 0 then 0 else q - shift + 4 * size
  let places' := min size (places.getD size)
  let n := roundQuotient m (Nat.pow 16 (size - places'))
  let ds := padStart (places' + 1) '0' (Nat.toDigits 16 n)
  let lead := ds.take (ds.length - places')
  let rest := ds.drop (ds.length - places')
  let rest := match places with
    | none => Text.dropEndWhile (· == '0') rest
    | some k => rest ++ List.replicate (k - places') '0'
  "0x".toList ++ lead ++ (if rest = [] && !always then [] else '.' :: rest) ++
    (if exponent < 0 then "p-".toList else "p+".toList) ++ decimal exponent.natAbs

/-! ## Reading -/

/-- The digits of a numeral, with a point somewhere among them, as a whole number and the number of
digits behind the point; and what follows them. There is at least one digit. -/
def pointedDigits? (base : Nat) (t : Text) : Option (Nat × Nat × Text) :=
  let isDigit (c : Char) : Bool := (Shell.Expression.digit? base c).isSome
  let whole := t.takeWhile isDigit
  let after := t.dropWhile isDigit
  let (places, rest) := match after with
    | '.' :: t => (t.takeWhile isDigit, t.dropWhile isDigit)
    | t => ([], t)
  if whole = [] && places = [] then none
  else some (Shell.Expression.ofDigits base (whole ++ places), places.length, rest)

/-- The exponent after a letter, if there is one, and what follows it. -/
def exponentAt (letter : Char) (t : Text) : Int × Text :=
  let number (negative : Bool) (t : Text) : Option (Int × Text) :=
    let ds := t.takeWhile Text.isDigit
    let n : Int := Shell.Expression.ofDigits 10 ds
    if ds = [] then none else some (if negative then -n else n, t.drop ds.length)
  match t with
  | c :: rest =>
    if c.toLower ≠ letter then (0, t)
    else
      (match rest with
        | '-' :: rest => number true rest
        | '+' :: rest => number false rest
        | rest => number false rest).getD (0, t)
  | [] => (0, [])

/-- A decimal number: is it negative, its value, and what follows it. -/
def realNumber (t : Text) : Bool × Float × Text :=
  let (negative, digits) := match t with
    | '-' :: t => (true, t)
    | '+' :: t => (false, t)
    | t => (false, t)
  match pointedDigits? 10 digits with
  | none => (negative, 0, digits)
  | some (n, places, rest) =>
    let (exponent, rest) := exponentAt 'e' rest
    let exponent : Int := exponent - places
    (negative, Float.ofScientific n (exponent < 0) exponent.natAbs, rest)

/-- A number in some precision, or what takes the place of one. -/
inductive Scalar where
  /-- So many units, each of which is two to the power `q`. -/
  | finite (negative : Bool) (m : Nat) (q : Int)
  | infinite (negative : Bool)
  | undefined (negative : Bool)

namespace Scalar

def ofFloat (x : Float) : Scalar :=
  let negative := Nat.pow 2 63 ≤ x.toBits.toNat
  if x.isNaN then .undefined negative
  else if x.isInf then .infinite negative
  else
    let (m, q) := binaryParts x
    .finite negative m q

def isNegative : Scalar → Bool
  | finite negative _ _ | infinite negative | undefined negative => negative

/-- The number nearest to a quotient, and whether it is out of range. -/
def ofQuotient (p : Precision) (negative : Bool) (n d : Nat) : Scalar × Bool :=
  if n = 0 then (.finite negative 0 0, false)
  else
    let (m, q) := p.nearest n d
    let isExact := m * d * Nat.pow 2 q.toNat = n * Nat.pow 2 (-q).toNat
    if Nat.pow 2 (p.most - q).toNat ≤ m then (.infinite negative, true)
    else (.finite negative m q, m < Nat.pow 2 (p.bits - 1) && !isExact)

/-- How large the exponent of a number may be, beyond which it is out of range for sure. -/
def exponentLimit : Nat := 20000

/-- The number `n · base ^ exponent`, and whether it is out of range. -/
def ofPower (p : Precision) (negative : Bool) (base n : Nat) (exponent : Int) : Scalar × Bool :=
  let size : Int := exponent + (decimal n).length
  if n = 0 then (.finite negative 0 0, false)
  else if exponentLimit < size then (.infinite negative, true)
  else if size < -(exponentLimit : Int) then (.finite negative 0 0, true)
  else ofQuotient p negative (n * Nat.pow base exponent.toNat) (Nat.pow base (-exponent).toNat)

/-- The number at the start of a text, whether it is out of range, and what follows it. -/
def read? (p : Precision) (t : Text) : Option (Scalar × Bool × Text) :=
  let t := Shell.Expression.blank t
  let (negative, t) := match t with
    | '-' :: t => (true, t)
    | '+' :: t => (false, t)
    | t => (false, t)
  let word (w : String) : Option Text :=
    if (t.take w.length).map Char.toLower = w.toList then some (t.drop w.length) else none
  match word "infinity" <|> word "inf", word "nan", word "0x" with
  | some rest, _, _ => some (.infinite negative, false, rest)
  | _, some rest, _ => some (.undefined negative, false, rest)
  | _, _, some hex =>
    match pointedDigits? 16 hex with
    | some (n, places, rest) =>
      let (exponent, rest) := exponentAt 'p' rest
      let (x, isOut) := ofPower p negative 2 n (exponent - 4 * places)
      some (x, isOut, rest)
    | none => some (.finite negative 0 0, false, t.drop 1)
  | _, _, none =>
    (pointedDigits? 10 t).map fun (n, places, rest) =>
      let (exponent, rest) := exponentAt 'e' rest
      let (x, isOut) := ofPower p negative 10 n (exponent - places)
      (x, isOut, rest)

end Scalar
end GoRepl.Machine
