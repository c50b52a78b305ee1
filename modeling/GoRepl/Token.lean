import GoRepl.Text.Word

/-! # Tokens

The pieces of a line that may name a declaration. A line is cut at one symbol after another, and
each intermediate piece counts as a token too, so `get(console.Find())` yields the whole call,
`get` and `console.Find`. Whether a line mentions a name is then a question about the beginnings
of its tokens.

`tokenize` works through a list of pending pieces; `split` says the same by recursion on the
symbols that are left. -/

namespace GoRepl.Token

/-- The symbols that cut a line, in the order in which they are tried. -/
def symbols : List Char := [' ', ',', ';', '(', '=', '+', '-', '*', '/']

/-- A token is not empty and does not begin like a literal. -/
def isCandidate : Text → Bool
  | [] => false
  | c :: _ => !(c == '"' || c == '\'' || Text.isDigit c)

/-- The piece itself if it can be a token. -/
def keep (t : Text) : List Text := if isCandidate t then [t] else []

/-- Closing parentheses and spaces are cut from both ends of each part. -/
def trimClosers (t : Text) : Text := Text.strip (fun c => c == ')' || c == ' ') t

/-- A piece of a line with the symbols that may still cut it. -/
structure Piece where
  text : Text
  uncut : List Char
deriving DecidableEq, Repr

/-- Cutting never increases the first factor summed over the parts, and lowers the second. -/
def Piece.weight (p : Piece) : Nat := (p.text.length + 1) * (p.uncut.length + 1)

def cut (s : Char) (later : List Char) (t : Text) : List Piece :=
  (t.splitOn s).map fun part => ⟨trimClosers part, later⟩

theorem length_trimClosers_le (t : Text) : (trimClosers t).length ≤ t.length :=
  Text.length_strip_le _ t

/-- The weight of pieces together. -/
def totalWeight (ps : List Piece) : Nat := ps.foldr (·.weight + ·) 0

@[simp] theorem totalWeight_nil : totalWeight [] = 0 := rfl

@[simp] theorem totalWeight_cons (p : Piece) (ps : List Piece) :
    totalWeight (p :: ps) = p.weight + totalWeight ps := rfl

@[simp] theorem totalWeight_append (ps qs : List Piece) :
    totalWeight (ps ++ qs) = totalWeight ps + totalWeight qs := by
  induction ps with
  | nil => simp
  | cons p ps ih => simp [ih, Nat.add_assoc]

/-- The parts of a text and the symbols between them are as long as the text. -/
def jointLength (parts : List Text) : Nat := parts.foldr (·.length + 1 + ·) 0

theorem jointLength_splitOn (s : Char) (t : Text) : jointLength (t.splitOn s) = t.length + 1 := by
  induction t with
  | nil => simp [jointLength]
  | cons c t ih =>
    rw [List.splitOn_cons_eq_if_modifyHead]
    split
    · simp only [jointLength, List.foldr_cons, List.length_nil, List.length_cons] at ih ⊢
      omega
    · cases h : t.splitOn s with
      | nil => simp at h
      | cons part parts =>
        simp only [h, jointLength, List.foldr_cons] at ih
        simp only [jointLength, List.modifyHead_cons, List.foldr_cons, List.length_cons]
        omega

theorem totalWeight_map_le (later : List Char) (parts : List Text) :
    totalWeight (parts.map fun part => ⟨trimClosers part, later⟩) ≤
      jointLength parts * (later.length + 1) := by
  induction parts with
  | nil => simp
  | cons part parts ih =>
    have h := Nat.mul_le_mul_right (later.length + 1)
      (Nat.add_le_add_right (length_trimClosers_le part) 1)
    simp only [jointLength, List.foldr_cons, List.map_cons, totalWeight_cons, Piece.weight,
      Nat.add_mul (part.length + 1)] at ih ⊢
    exact Nat.add_le_add h ih

theorem totalWeight_cut_lt (s : Char) (later : List Char) (t : Text) :
    totalWeight (cut s later t) < (Piece.mk t (s :: later)).weight := by
  have h := totalWeight_map_le later (t.splitOn s)
  rw [jointLength_splitOn] at h
  refine Nat.lt_of_le_of_lt h ?_
  simp only [Piece.weight, List.length_cons]
  exact Nat.mul_lt_mul_of_pos_left (by omega) (by omega)

/-- Work through the pending pieces; `found` holds the tokens so far, latest first. -/
def drain (found : List Text) : List Piece → List Text
  | [] => found.reverse
  | ⟨t, []⟩ :: pending => drain (keep t.trim ++ found) pending
  | ⟨t, s :: later⟩ :: pending =>
    if s ∈ t then drain (keep t ++ found) (cut s later t ++ pending)
    else drain found (⟨t, later⟩ :: pending)
termination_by pending => totalWeight pending
decreasing_by
  · simp [Piece.weight]
  · have := totalWeight_cut_lt s later t
    simp only [totalWeight_append, totalWeight_cons]
    omega
  · have : (Piece.mk t later).weight < (Piece.mk t (s :: later)).weight := by
      simp only [Piece.weight, List.length_cons]
      exact Nat.mul_lt_mul_of_pos_left (by omega) (by omega)
    simp only [totalWeight_cons]
    omega

/-- The tokens of a line. -/
def tokenize (line : Text) : List Text := drain [] [⟨line, symbols⟩]

def tokenizeLines (lines : List Text) : List Text := lines.flatMap tokenize

/-- The tokens of a piece, by recursion on the symbols that may still cut it. -/
def split : (uncut : List Char) → Text → List Text
  | [], t => keep t.trim
  | s :: later, t =>
    if s ∈ t then keep t ++ (t.splitOn s).flatMap fun part => split later (trimClosers part)
    else split later t

/-- Does a token refer to a name? It begins with the name, which does not go on as a longer
identifier there: `console.Find` refers to `console`, and `counter` does not refer to `count`. -/
def refersTo (token name : Text) : Bool :=
  match name, name.after? token with
  | [], _ | _, none => false
  | _, some [] => true
  | _, some (c :: _) => !(Text.isAlphanumeric c || c == '_')

end GoRepl.Token
