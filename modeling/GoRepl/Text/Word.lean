import GoRepl.Text.Basic
import GoRepl.Text.Ranges

/-! # Word characters

Which characters continue an identifier. Two notions are needed: `isAlphanumeric` bounds a
reference to a name, `isWord` builds the names of declarations. -/

namespace GoRepl.Text

def inRanges (ranges : List (Nat × Nat)) (c : Char) : Bool :=
  ranges.any fun r => r.1 ≤ c.toNat && c.toNat ≤ r.2

def isAsciiLetter (c : Char) : Bool := ('a' ≤ c && c ≤ 'z') || ('A' ≤ c && c ≤ 'Z')

/-- Alphabetic characters and numbers of every kind. -/
def isAlphanumeric (c : Char) : Bool :=
  if c.toNat < 0x80 then isAsciiLetter c || isDigit c
  else inRanges alphabeticRanges c || inRanges decimalRanges c || inRanges numberRanges c

/-- Joining punctuation beyond the underscore, and the two joiners of cursive scripts. -/
def isConnector (c : Char) : Bool :=
  inRanges [(0x200C, 0x200D), (0x203F, 0x2040), (0x2054, 0x2054), (0xFE33, 0xFE34),
    (0xFE4D, 0xFE4F), (0xFF3F, 0xFF3F)] c

/-- Alphabetic characters, marks, decimal digits and connectors. Those of the latest edition of the
standard bound references already, but they do not build names yet. -/
def isWord (c : Char) : Bool :=
  if c.toNat < 0x80 then isAsciiLetter c || isDigit c || c == '_'
  else (inRanges alphabeticRanges c || inRanges decimalRanges c || inRanges markRanges c ||
    isConnector c) && !inRanges recentRanges c

/-- The longest word at the start of a text, if there is one, and what follows it. -/
def word? (t : Text) : Option (Text × Text) :=
  match t.takeWhile isWord with
  | [] => none
  | w => some (w, t.dropWhile isWord)

theorem length_word?_rest_lt {t w rest : Text} (h : word? t = some (w, rest)) :
    rest.length < t.length := by
  unfold word? at h
  split at h
  · simp at h
  · rename_i w' hw
    obtain ⟨rfl, rfl⟩ := Prod.mk.inj (Option.some.inj h)
    have := congrArg List.length (List.takeWhile_append_dropWhile (p := isWord) (l := t))
    have := List.length_pos_iff.mpr hw
    simp only [List.length_append] at *
    omega

end GoRepl.Text
