import GoRepl.Text.Basic

/-! # UTF-8

The bytes of a text, and the text that bytes stand for. -/

namespace GoRepl

abbrev Bytes := List UInt8

namespace Utf8

def encode (t : Text) : Bytes := t.flatMap String.utf8EncodeChar

/-- For the first byte of a character of several bytes: how many follow, the bits that the first
one gives, and the bounds of the second one. -/
def lead? (b : UInt8) : Option (Nat × Nat × UInt8 × UInt8) :=
  if 0xC2 ≤ b && b ≤ 0xDF then some (1, (b - 0xC0).toNat, 0x80, 0xBF)
  else if b == 0xE0 then some (2, 0, 0xA0, 0xBF)
  else if b == 0xED then some (2, 0xD, 0x80, 0x9F)
  else if 0xE1 ≤ b && b ≤ 0xEF then some (2, (b - 0xE0).toNat, 0x80, 0xBF)
  else if b == 0xF0 then some (3, 0, 0x90, 0xBF)
  else if 0xF1 ≤ b && b ≤ 0xF3 then some (3, (b - 0xF0).toNat, 0x80, 0xBF)
  else if b == 0xF4 then some (3, 4, 0x80, 0x8F)
  else none

/-- Take the bytes that follow a first one. They may end too early; then what was taken stands for
no character. -/
def tails : (n : Nat) → (code : Nat) → (lo hi : UInt8) → Bytes → Option Char × Bytes
  | 0, code, _, _, bs => (some (Char.ofNat code), bs)
  | _ + 1, _, _, _, [] => (none, [])
  | n + 1, code, lo, hi, b :: bs =>
    if lo ≤ b && b ≤ hi then tails n (code * 64 + (b - 0x80).toNat) 0x80 0xBF bs
    else (none, b :: bs)

theorem length_tails_le (n code : Nat) (lo hi : UInt8) (bs : Bytes) :
    (tails n code lo hi bs).2.length ≤ bs.length := by
  fun_induction tails n code lo hi bs with
  | case1 => exact Nat.le_refl _
  | case2 => exact Nat.le_refl _
  | case3 n code lo hi b bs h ih => exact Nat.le_succ_of_le ih
  | case4 => exact Nat.le_refl _

/-- The first character of a text of at least one byte, or that there is none, and the rest. -/
def first (b : UInt8) (bs : Bytes) : Option Char × Bytes :=
  if b < 0x80 then (some (Char.ofNat b.toNat), bs)
  else match lead? b with
    | some (n, code, lo, hi) => tails n code lo hi bs
    | none => (none, bs)

theorem length_first_le (b : UInt8) (bs : Bytes) : (first b bs).2.length ≤ bs.length := by
  unfold first
  split
  · exact Nat.le_refl _
  · split
    · exact length_tails_le ..
    · exact Nat.le_refl _

/-- The characters of a sequence of bytes, with `none` for each stretch that stands for none. -/
def scan (done : List (Option Char)) : Bytes → List (Option Char)
  | [] => done.reverse
  | b :: bs =>
    have := length_first_le b bs
    scan ((first b bs).1 :: done) (first b bs).2
termination_by bs => bs.length
decreasing_by simp only [List.length_cons]; omega

/-- The text that bytes stand for, if they stand for one. -/
def decode? (bs : Bytes) : Option Text := (scan [] bs).mapM id

/-- The text that bytes stand for, with a replacement character for each stretch that stands for
none. -/
def decodeLossy (bs : Bytes) : Text := (scan [] bs).map (·.getD '\uFFFD')

end Utf8
end GoRepl
