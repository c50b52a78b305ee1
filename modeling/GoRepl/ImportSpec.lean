import GoRepl.Text.Basic

/-! # Import specs

One imported package: `"math/rand"`, or `r "math/rand"` under another name. -/

namespace GoRepl

structure ImportSpec where
  localName : Option Text := none
  path : Text
deriving DecidableEq, Repr

namespace ImportSpec

def isQuote (c : Char) : Bool := c == '"' || c == '`'

/-- Read the text of an import. Its last word is the path; what stands before it is the local name.
The quotes, commas at the end and blanks around are optional. -/
def parse? (t : Text) : Option ImportSpec :=
  let t := (Text.dropEndWhile (· == ',') t.trim).trim
  let (name, path) := (Text.cutAtLast? Text.isBlank t).getD ([], t)
  let path := Text.strip isQuote path
  if path = [] then none
  else some ⟨if name.trim = [] then none else some name.trim, path⟩

/-- The name that code uses for the package: the local name, or else the last segment of the
path. -/
def identifier (s : ImportSpec) : Text :=
  s.localName.getD (s.path.reverse.takeWhile fun c => c != '/' && c != '.').reverse

def render (s : ImportSpec) : Text :=
  match s.localName with
  | some name => name ++ " \"".toList ++ s.path ++ ['"']
  | none => ['"'] ++ s.path ++ ['"']

end ImportSpec
end GoRepl
