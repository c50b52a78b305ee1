import GoRepl.TestBed.Basic
import GoRepl.TestBed.Shell.Arithmetic

/-! # Test bed: modes

What may be done with a node: nine bits for reading, writing and running by its owner, its group and
all others, and three bits above them. -/

namespace GoRepl.Machine.Mode

def land (a b : Nat) : Nat := Nat.land a b

def without (a b : Nat) : Nat := Nat.xor (Nat.lor a b) b

/-- The bits of some letters for all three kinds of users. -/
def lettersBits (isDirectory : Bool) (old : Nat) (letters : Text) : Nat :=
  letters.foldl (fun bits c => Nat.lor bits (match c with
    | 'r' => 292
    | 'w' => 146
    | 'x' => 73
    | 'X' => if isDirectory || land old 73 ≠ 0 then 73 else 0
    | 's' => 3072
    | 't' => 512
    | _ => 0)) 0

/-- The bits that belong to the kinds of users that letters name. -/
def usersMask (users : Text) : Nat :=
  users.foldl (fun bits c => Nat.lor bits (match c with
    | 'u' => 2496
    | 'g' => 1080
    | 'o' => 519
    | _ => 4095)) 0

/-- The bits of one kind of users for all of them. -/
def copied (old : Nat) (user : Char) : Nat :=
  let bits := match user with
    | 'u' => old / 64 % 8
    | 'g' => old / 8 % 8
    | _ => old % 8
  bits * 73

/-- A mode after changes like `+x` for some users. -/
def changed? (umask : Nat) (isDirectory : Bool) (users : Text) : (fuel : Nat) → (mode : Nat) →
    Text → Option Nat
  | 0, _, _ => none
  | _, mode, [] => some mode
  | fuel + 1, mode, op :: t =>
    let isOperator (c : Char) : Bool := c == '+' || c == '-' || c == '='
    if !isOperator op then none
    else
      let letters := t.takeWhile (!isOperator ·)
      let mask := if users = [] then without 4095 umask else usersMask users
      let bits? := match letters with
        | [c] => if "ugo".toList.contains c then some (copied mode c)
          else if "rwxXst".toList.contains c then some (lettersBits isDirectory mode letters)
          else none
        | _ => if letters.all ("rwxXst".toList.contains ·) then
            some (lettersBits isDirectory mode letters) else none
      match bits? with
      | none => none
      | some bits =>
        let bits := land bits mask
        let all := if users = [] then 4095 else mask
        let mode := match op with
          | '+' => Nat.lor mode bits
          | '-' => without mode bits
          | _ => Nat.lor (without mode (land all 511)) bits
        changed? umask isDirectory users fuel mode (t.drop letters.length)

/-- A mode after the changes that a text asks for: an octal number, or changes with commas between
them. -/
def altered? (umask : Nat) (isDirectory : Bool) (old : Nat) (t : Text) : Option Nat :=
  if t ≠ [] && t.all fun c => '0' ≤ c && c ≤ '7' then
    let n := Shell.Expression.ofDigits 8 t
    if n < 4096 then some n else none
  else (t.splitOn ',').foldlM (fun mode clause =>
    let users := clause.takeWhile ("ugoa".toList.contains ·)
    let changes := clause.drop users.length
    if changes = [] then none
    else changed? umask isDirectory users (changes.length + 1) mode changes) old

/-- A number in octal digits. -/
def octal (n : Nat) : Text := Nat.toDigits 8 n

/-- A mode in letters, after the letter of a kind. -/
def letters (kind : Char) (mode : Nat) : Text :=
  let bit (k : Nat) (c : Char) : Char := if mode / k % 2 = 1 then c else '-'
  let run (k special : Nat) (c : Char) : Char :=
    match mode / k % 2 == 1, mode / special % 2 == 1 with
    | true, true => c
    | false, true => c.toUpper
    | true, false => 'x'
    | false, false => '-'
  [kind, bit 256 'r', bit 128 'w', run 64 2048 's', bit 32 'r', bit 16 'w', run 8 1024 's',
    bit 4 'r', bit 2 'w', run 1 512 't']

end GoRepl.Machine.Mode
