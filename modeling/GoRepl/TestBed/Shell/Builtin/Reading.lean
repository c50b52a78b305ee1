import GoRepl.TestBed.Shell.Builtin.Variables

/-! # Test bed: commands that read

Commands of a shell that read lines or other pieces of a stream into variables. -/

namespace GoRepl.Machine.Shell.Builtin

/-- Does a character divide pieces, and is it a blank? -/
def isSeparator (separators : Text) (g : Glyph) : Bool :=
  !g.literal && separators.contains g.char

def isBlankSeparator (separators : Text) (g : Glyph) : Bool :=
  isSeparator separators g && (g.char = ' ' || g.char = '\t' || g.char = '\n')

/-- A piece and what follows the separator behind it, with the blanks around that. -/
def cutField (separators : Text) (gs : List Glyph) : Text × List Glyph :=
  let isSeparator := isSeparator separators
  let isBlank := isBlankSeparator separators
  let after := gs.dropWhile (!isSeparator ·)
  let next := match after.dropWhile isBlank, after with
    | g :: rest, a :: _ => if !isBlank a || isSeparator g then rest else g :: rest
    | [], _ | _, [] => []
  ((gs.takeWhile (!isSeparator ·)).map Glyph.char, next.dropWhile isBlank)

/-- The pieces of a line for `read`: at most `n`, the last of which takes all that is left. -/
def readFields (separators : Text) : (n : Nat) → List Glyph → List Text
  | 0, _ => []
  | n + 1, gs =>
    let isBlank := isBlankSeparator separators
    let isSeparator := isSeparator separators
    let gs := gs.dropWhile isBlank
    if n = 0 then
      let trimmed := (gs.reverse.dropWhile isBlank).reverse
      -- One separator at the end of the last piece does not belong to it.
      let inner := trimmed.dropLast
      let trimmed := if trimmed.getLast?.any isSeparator && !inner.any isSeparator then inner
        else trimmed
      [trimmed.map Glyph.char]
    else
      let (piece, rest) := cutField separators gs
      piece :: readFields separators n rest

/-- All pieces of a line. -/
def allFields (separators : Text) : (fuel : Nat) → List Glyph → List Text
  | 0, _ => []
  | fuel + 1, gs =>
    match gs.dropWhile (isBlankSeparator separators) with
    | [] => []
    | gs =>
      let (piece, rest) := cutField separators gs
      piece :: allFields separators fuel rest

/-- How much `read` takes at a time. -/
structure Portion where
  delimiter : Char := '\n'
  /-- At most so many characters are taken. -/
  most : Option Nat := none
  /-- The delimiter is taken like any other character. -/
  exact : Bool := false

/-- The length of a portion with its end, if it is complete. -/
def Portion.cut (p : Portion) (t : Text) : Option Nat :=
  let ended : Option Nat :=
    if p.exact then none
    else
      let n := (t.takeWhile (· ≠ p.delimiter)).length
      if n < t.length then some (n + 1) else none
  match p.most with
  | none => ended
  | some k => match ended with
    | some n => some (if n ≤ k then n else k)
    | none => if k ≤ t.length then some k else none

/-- Take a portion from a stream: the text without the delimiter, and whether it was complete. -/
def takePortion (p : Portion) (id : StreamId) : Work (Text × Bool) := do
  if p.delimiter = '\n' && p.most.isNone then takeLine id
  else
    let (t, isComplete) ← takeBy p.cut id
    let hasEnd := isComplete && !p.exact && t.getLast? = some p.delimiter
    return (if hasEnd then t.dropLast else t, isComplete)

/-- The characters of a text, of which those after a backslash stand for themselves; and whether it
ends in a backslash. -/
def unquotedGlyphs : Text → List Glyph × Bool
  | [] => ([], false)
  | ['\\'] => ([], true)
  | '\\' :: c :: t =>
    let (gs, joins) := unquotedGlyphs t
    (if c = '\n' then gs else ⟨c, true⟩ :: gs, joins)
  | c :: t =>
    let (gs, joins) := unquotedGlyphs t
    (⟨c, false⟩ :: gs, joins)

/-- Read a portion. Unless it is taken as it is, a backslash quotes what follows it and joins
lines. -/
def readGlyphs (asIs : Bool) (p : Portion) (id : StreamId) : (fuel : Nat) → Run (List Glyph × Bool)
  | 0 => return ([], false)
  | fuel + 1 => do
    let (line, isComplete) ← work (takePortion p id)
    let line := line.filter (· ≠ '\x00')
    if asIs then return (Fields.glyphs false line, isComplete)
    else
      let (gs, joins) := unquotedGlyphs line
      if joins && isComplete then
        let (more, isComplete) ← readGlyphs asIs p id fuel
        let quoted := if p.delimiter = '\n' then more else ⟨p.delimiter, true⟩ :: more
        return (gs ++ quoted, isComplete)
      else return (gs, isComplete)

/-- Wait until something can be read, but not too long: can it? -/
def isReadable (p : Portion) (limit : Nat) (id : StreamId) : Work Bool := do
  match ← stream id with
  | .pipe k _ _ =>
    let deadline := (← get).clock + limit
    let isReady (m : Machine) : Bool :=
      let q := m.pipe k
      q.writers = 0 || (p.cut q.text).isSome
    if !isReady (← get) then
      waitFor fun m => some (if isReady m then m.clock else deadline)
    return isReady (← get)
  | _ => return true

/-- Give values to the variables that were named, and complain about those that cannot be. -/
def assignAll (name : Text) (values : List (Text × Text)) : Run Unit := do
  for (n, t) in values do
    let (bare, _) := nameAndIndex n
    if !isName bare then refuseName name n n
    else if !(← succeeds (assignTo n t)) then setStatus 1

/-- Complain about the number of a stream that is not open. -/
def refuseNumber (name : Text) (number : Nat) : Run Unit :=
  complainAs name (decimal number ++ ": invalid file descriptor: Bad file descriptor".toList) 1

def read : Builtin := fun name args => do
  let isExtended := (← get).isExtended
  let (letters, valued) := if isExtended then ("rseE", "apntuNdi") else ("r", "p")
  withOptions letters valued name args fun o => do
    let s ← get
    if o.operands.isEmpty && !isExtended then complainAs name "arg count".toList 2
    else
    let number := ((o.value? 'u').bind natural?).getD 0
    let count := (o.value? 'N' <|> o.value? 'n').bind natural?
    let portion : Portion :=
      { delimiter := ((o.value? 'd').map (·.headD '\x00')).getD '\n'
        most := count, exact := o.has 'N' }
    match s.streams.lookup number with
    | none =>
      if isExtended && number ≠ 0 then
        refuseNumber name number
      else setStatus 1
    | some id =>
      let limit := ((o.value? 't').bind Values.interval?).bind (·)
      let isReady ← match limit with
        | some n => work (isReadable portion n id)
        | none => pure true
      if !isReady then
        let names := if o.operands.isEmpty then ["REPLY".toList] else o.operands
        assignAll name (names.map fun n => (n, []))
        setStatus 142
      else
        let (gs, isComplete) ← readGlyphs (o.has 'r') portion id 10000
        setStatus (if isComplete then 0 else 1)
        let s ← get
        let whole := gs.map Glyph.char
        match o.value? 'a', o.operands with
        | some n, _ =>
          let ts := allFields s.fieldSeparators (gs.length + 1) gs
          if !(← succeeds (alterVariable n fun v => return { v with value := .ofList ts })) then
            setStatus 1
        | none, [] => assignAll name [("REPLY".toList, whole)]
        | none, names =>
          let values := if o.has 'N' then whole :: names.tail.map fun _ => []
            else readFields s.fieldSeparators names.length gs
          assignAll name (names.zip values)

/-- Read the lines of the input into a list. -/
def readLines : Builtin := fun name args => do
  withOptions "t" "ndOsuCc" name args fun o => do
    let s ← get
    let number := ((o.value? 'u').bind natural?).getD 0
    let delimiter := ((o.value? 'd').map (·.headD '\x00')).getD '\n'
    let skipped := ((o.value? 's').bind natural?).getD 0
    let most := ((o.value? 'n').bind natural?).getD 0
    let origin := (o.value? 'O').bind natural?
    match s.streams.lookup number with
    | none => refuseNumber name number
    | some id =>
      let portion : Portion := { delimiter }
      -- Only as many lines as are wanted are taken.
      let rec take : (fuel : Nat) → List Text → Work (List Text)
        | 0, ls => return ls
        | fuel + 1, ls => do
          let (t, isComplete) ← takePortion portion id
          if isComplete then take fuel ((if o.has 't' then t else t ++ [delimiter]) :: ls)
          else return if t = [] then ls else t :: ls
      let ls ← work (take (if most = 0 then 1000000 else most + skipped) [])
      let ls := (ls.reverse.drop skipped).map fun l => l.filter (· ≠ '\x00')
      let n := o.operands.headD "MAPFILE".toList
      setStatus 0
      let done ← succeeds (alterVariable n fun v => return { v with
        value := match origin with
          | none => .ofList ls
          | some k => ls.zipIdx.foldl (fun value ((t, i) : Text × Nat) => value.putNumber (k + i) t)
              v.value })
      if !done then setStatus 1

end GoRepl.Machine.Shell.Builtin
