import GoRepl.Token

/-! # Fragments

One logical statement of the program, which may span several lines. The opener is its first line;
below it stand literal lines at the opener's level and nested fragments one level deeper:

    if a == 1 {            opener
        console.Find()     nested
    }                      line
-/

namespace GoRepl

/-- The lines and nested fragments below an opener. -/
inductive Body where
  | nil
  | line (text : Text) (next : Body)
  | nested (opener : Text) (inner next : Body)
deriving DecidableEq, Repr, Inhabited

structure Fragment where
  opener : Text
  body : Body := .nil
deriving DecidableEq, Repr

/-- One item of a body. -/
inductive Element where
  | line (text : Text)
  | nested (fragment : Fragment)
deriving DecidableEq, Repr

/-- A line as it stands in its fragment: how deep, and whether it opens a fragment. -/
structure PlacedLine where
  depth : Nat
  opens : Bool
  text : Text
deriving DecidableEq, Repr

/-- One unit of indentation. -/
def indentUnit : Text := [' ', ' ', ' ', ' ']

def indented (depth : Nat) (t : Text) : Text := (List.replicate depth indentUnit).flatten ++ t

@[simp] theorem indented_zero (t : Text) : indented 0 t = t := rfl

namespace Body

def cons : Element → Body → Body
  | .line t, next => .line t next
  | .nested f, next => .nested f.opener f.body next

def ofList (es : List Element) : Body := es.foldr cons nil

def toList : Body → List Element
  | nil => []
  | line t next => .line t :: next.toList
  | nested o inner next => .nested ⟨o, inner⟩ :: next.toList

@[simp] theorem toList_cons (e : Element) (b : Body) : (cons e b).toList = e :: b.toList := by
  cases e <;> rfl

@[simp] theorem toList_ofList (es : List Element) : (ofList es).toList = es := by
  induction es with
  | nil => rfl
  | cons e es ih => simpa [ofList] using ih

@[simp] theorem ofList_toList (b : Body) : ofList b.toList = b := by
  induction b with
  | nil => rfl
  | line t next ih => simpa [ofList, toList, cons] using ih
  | nested o inner next _ ih => simpa [ofList, toList, cons] using ih

/-- The lines of a body with their places, depth first. -/
def placed (depth : Nat) : Body → List PlacedLine
  | nil => []
  | line t next => ⟨depth, false, t⟩ :: next.placed depth
  | nested o inner next =>
    ⟨depth + 1, true, o⟩ :: inner.placed (depth + 1) ++ next.placed depth

/-- The lines of the body itself, without those of nested fragments. -/
def ownLines : Body → List Text
  | nil => []
  | line t next => t :: next.ownLines
  | nested _ _ next => next.ownLines

/-- The openers of the fragments nested directly in the body. -/
def entryOpeners : Body → List Text
  | nil => []
  | line _ next => next.entryOpeners
  | nested o _ next => o :: next.entryOpeners

end Body

namespace Fragment

def ofLine (line : Text) : Fragment := ⟨line, .nil⟩

def placed (f : Fragment) : List PlacedLine := ⟨0, true, f.opener⟩ :: f.body.placed 0

/-- Every line, depth first, without indentation. -/
def lines (f : Fragment) : List Text := f.placed.map PlacedLine.text

def tokens (f : Fragment) : List Text := Token.tokenizeLines f.lines

/-- Does some token of the fragment refer to the name? -/
def references (f : Fragment) (name : Text) : Bool := f.tokens.any (Token.refersTo · name)

/-- Every line, indented by its depth below `indent`. -/
def flatten (f : Fragment) (indent : Nat) : List Text :=
  f.placed.map fun l => indented (indent + l.depth) l.text

def render (f : Fragment) (indent : Nat) : Text := Text.unlines (f.flatten indent)

end Fragment
end GoRepl
