import GoRepl.TestBed.Pattern
import GoRepl.TestBed.Shell.State

/-! # Test bed: fields

The pieces into which an expanded word falls, and the paths that a piece stands for if it is a
pattern. -/

namespace GoRepl.Machine.Shell

/-- The fields of a word while it is expanded. Those that are complete stand latest first, and the
current one is kept backwards. -/
structure Fields where
  done : List (List Glyph) := []
  current : Option (List Glyph) := none
  /-- Did blanks end the latest field? -/
  ended : Bool := false

namespace Fields

def glyphs (literal : Bool) (t : Text) : List Glyph := t.map (⟨·, literal⟩)

def addGlyphs (f : Fields) (gs : List Glyph) : Fields :=
  { f with current := some (gs.reverseAux (f.current.getD [])), ended := false }

/-- Add a text that is not split. -/
def add (f : Fields) (literal : Bool) (t : Text) : Fields := f.addGlyphs (glyphs literal t)

def endField (f : Fields) : Fields :=
  match f.current with
  | some gs => { f with done := gs.reverse :: f.done, current := none }
  | none => f

/-- Add a text that is split at separators. Blanks separate as one, and so do blanks around another
separator. -/
def addSplit (separators : Text) (f : Fields) (t : Text) : Fields :=
  t.foldl (fun f c =>
    if !separators.contains c then f.addGlyphs [⟨c, false⟩]
    else if c == ' ' || c == '\t' || c == '\n' then
      if f.current.isSome then { f.endField with ended := true } else f
    else if f.current.isSome then f.endField
    else if f.ended then { f with ended := false }
    else { f with done := [] :: f.done }) f

def toList (f : Fields) : List (List Glyph) := f.endField.done.reverse

/-- All fields as one text. -/
def text (f : Fields) : Text :=
  List.intercalate [' '] (f.toList.map (·.map Glyph.char))

end Fields

def fieldSeparators (s : Shell) : Text := (s.value? "IFS".toList).getD [' ', '\t', '\n']

/-- How the patterns for paths are written. -/
def pathForm (s : Shell) : Glob.Form where
  negators := if s.isExtended then ['!', '^'] else ['!']
  grouped := s.hasSwitch "extglob"
  ignoreCase := s.hasSwitch "nocaseglob"

/-- How the patterns for texts are written. -/
def textForm (s : Shell) : Glob.Form where
  negators := if s.isExtended then ['!', '^'] else ['!']
  grouped := s.hasSwitch "extglob"
  ignoreCase := s.hasSwitch "nocasematch"

/-- The names in a directory that a pattern may match. A pattern that does not begin with a dot
passes over the names that do. -/
def candidates (s : Shell) (part : List Glyph) (children : List Text) : List Text :=
  let asksForDots := part.head?.any (·.char = '.')
  let dots : List Text := if s.isExtended || !asksForDots then [] else [['.'], ['.', '.']]
  dots ++ children.filter fun name =>
    asksForDots || name.head? ≠ some '.' || s.hasSwitch "dotglob"

/-- The directories below one, as paths, this one first; and everything else, too, if `all`. -/
def deepPaths (d : Disk) (place : Place) (all : Bool) (above : Text) : List Text :=
  match d.at? place with
  | none => []
  | some id =>
    (d.below id).filterMap fun ((p, id) : Place × NodeId) =>
      let isHidden := p.any fun name => name.head? = some '.'
      if isHidden || !(all || (d.entries? id).isSome) then none
      else some (above ++ List.intercalate ['/'] (p.map Narrow.ofText))

/-- The paths that a pattern matches, if there are any. -/
def globbed (s : Shell) (d : Disk) (gs : List Glyph) : List Text :=
  let parts := gs.splitOnP (·.char = '/')
  let isStars (part : List Glyph) : Bool :=
    s.hasSwitch "globstar" && part = [⟨'*', false⟩, ⟨'*', false⟩]
  -- Each path stands with what comes before the next name.
  let step (paths : List Text) (part : List Glyph) (isLast : Bool) : List Text :=
    paths.flatMap fun above =>
      let directory := if above = [] then ['.'] else above
      if isStars part then
        match d.locate s.place (Call.path directory) with
        | .error _ => []
        | .ok spot => (if isLast then [] else [above]) ++
          (deepPaths d spot.place isLast above).map fun p => if isLast then p else p ++ ['/']
      else if part = [] then
        if !isLast then [above ++ ['/']]
        else if d.isDirectory s.place (Call.path directory) then [above] else []
      else if Glob.isPattern s.pathForm part then
        match d.locate s.place (Call.path directory) with
        | .error _ => []
        | .ok spot =>
          let pattern := Glob.ofGlyphs s.pathForm part
          let isFit (name : Text) : Bool := pattern.admits name &&
            (isLast || d.isDirectory s.place (Call.path (above ++ name)))
          ((s.candidates part ((d.children spot.id).map Narrow.ofText)).filter isFit).map
            fun name => above ++ name ++ if isLast then [] else ['/']
      else
        let path := above ++ part.map Glyph.char
        if !(d.findBy false s.place (Call.path path)).toOption.isSome then []
        else [path ++ if isLast then [] else ['/']]
  let start : List Text := [[]]
  Text.sorted ((parts.dropLast.foldl (step · · false) start).flatMap fun above =>
    step [above] (parts.getLast?.getD []) true)

/-- The texts that a field stands for, unless it is a pattern that has to match something and does
not. -/
def finished? (s : Shell) (d : Disk) (gs : List Glyph) : Option (List Text) :=
  let plain := gs.map Glyph.char
  if Glob.isPattern s.pathForm gs && !s.hasOption 'f' then
    match s.globbed d gs with
    | [] =>
      if s.hasSwitch "failglob" then none
      else if s.hasSwitch "nullglob" then some []
      else some [plain]
    | paths => some paths
  else some [plain]

end GoRepl.Machine.Shell
