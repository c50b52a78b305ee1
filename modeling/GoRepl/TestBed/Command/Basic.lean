import GoRepl.Decimal
import GoRepl.TestBed.Basic

/-! # Test bed: options and lines

What the commands have in common: how options stand among the arguments, how texts fall into lines,
and how the named files are read one after another. -/

namespace GoRepl.Machine

/-! ## Options -/

/-- The options that a command knows: letters, letters with a value, and longer names for them. -/
structure OptionRules where
  flags : String
  valued : String := ""
  long : List (String × Char) := []
  /-- The letters of options whose longer names may have a value attached to them. -/
  optional : String := ""
  /-- Do options end where the first operand stands? -/
  ordered : Bool := false
  /-- Does the name of the command stand before the hint at its help? -/
  namesHint : Bool := false

/-- The options that are given, in order, and the other arguments. -/
structure Options where
  given : List (Char × Text) := []
  operands : List Text := []

namespace Options

def has (o : Options) (c : Char) : Bool := o.given.any (·.1 = c)

/-- The value of an option that is given last. -/
def value? (o : Options) (c : Char) : Option Text :=
  (o.given.reverse.find? (·.1 = c)).map Prod.snd

/-- An option whose value comes next, and the words for its absence. -/
abbrev Waiting := Char × Text

/-- The letters after a dash. The last of them may wait for a value in the next argument. -/
def letters (rules : OptionRules) : Text → Except Text (List (Char × Text) × Option Waiting)
  | [] => return ([], none)
  | c :: t =>
    if rules.flags.toList.contains c then do
      let (given, waiting) ← letters rules t
      return ((c, []) :: given, waiting)
    else if rules.valued.toList.contains c then
      return if t = [] then
          ([], some (c, "option requires an argument -- '".toList ++ [c, '\'']))
        else ([(c, t)], none)
    else throw ("invalid option -- '".toList ++ [c, '\''])

/-- An option by its longer name, or by a beginning of it that no other option shares. -/
def long (rules : OptionRules) (t : Text) : Except Text (List (Char × Text) × Option Waiting) :=
  let (name, value) := match t.cutAt? '=' with
    | some (name, value) => (name, some value)
    | none => (t, none)
  let shown (name : Text) : Text := "'--".toList ++ name ++ ['\'']
  let candidates := match rules.long.find? fun (n, _) => name = n.toList with
    | some found => [found]
    | none => rules.long.filter fun (n, _) => name.isPrefixOf n.toList
  match candidates with
  | [] => throw ("unrecognized option ".toList ++ shown t)
  | (n, c) :: others =>
    if others.any (·.2 ≠ c) then
      throw ("option ".toList ++ shown name ++ " is ambiguous; possibilities:".toList ++
        candidates.flatMap fun (n, _) => ' ' :: shown n.toList)
    else if rules.valued.toList.contains c then
      match value with
      | some value => return ([(c, value)], none)
      | none =>
        let missing := "option ".toList ++ shown n.toList ++ " requires an argument".toList
        return ([], some (c, missing))
    else match value with
      | none => return ([(c, [])], none)
      | some value =>
        if rules.optional.toList.contains c then return ([(c, value)], none)
        else throw ("option ".toList ++ shown n.toList ++ " doesn't allow an argument".toList)

/-- Read the arguments; `waiting` is an option whose value comes next. -/
def readFrom (rules : OptionRules) : (waiting : Option Waiting) → Options → List Text →
    Except Text Options
  | some (_, missing), _, [] => throw missing
  | some (c, _), o, arg :: args =>
    readFrom rules none { o with given := o.given ++ [(c, arg)] } args
  | none, o, [] => return o
  | none, o, arg :: args => do
    match arg with
    | ['-', '-'] => return { o with operands := o.operands ++ args }
    | '-' :: '-' :: t =>
      let (given, waiting) ← long rules t
      readFrom rules waiting { o with given := o.given ++ given } args
    | '-' :: c :: t =>
      let (given, waiting) ← letters rules (c :: t)
      readFrom rules waiting { o with given := o.given ++ given } args
    | arg =>
      if rules.ordered then return { o with operands := o.operands ++ arg :: args }
      else readFrom rules none { o with operands := o.operands ++ [arg] } args

def read (rules : OptionRules) (args : List Text) : Except Text Options :=
  readFrom rules none {} args

end Options

namespace Call

/-- Complain about the way in which a command was called. -/
def misuse (c : Call) (message : Text) (status : Nat := 1) (namesHint : Bool := false) :
    Work Nat := do
  c.complain message
  let hint := "Try '".toList ++ c.name ++ " --help' for more information.".toList
  if namesHint then c.complain hint else c.write 2 (hint ++ ['\n'])
  return status

/-- Go on with the options, or complain about them. -/
def withOptions (c : Call) (rules : OptionRules) (status : Nat) (go : Options → Work Nat) :
    Work Nat :=
  match Options.read rules c.args with
  | .ok o => go o
  | .error message => c.misuse message status rules.namesHint

/-- A character that cannot be shown, as an escape. -/
def escaped? (c : Char) : Option Text :=
  match c with
  | '\n' => some ['\\', 'n']
  | '\t' => some ['\\', 't']
  | '\r' => some ['\\', 'r']
  | '\x07' => some ['\\', 'a']
  | '\x08' => some ['\\', 'b']
  | '\x0b' => some ['\\', 'v']
  | '\x0c' => some ['\\', 'f']
  | c =>
    if c < ' ' || '\x7e' < c then
      some ['\\', digit (c.toNat / 64), digit (c.toNat / 8), digit c.toNat]
    else none
where
  digit (n : Nat) : Char := Char.ofNat ('0'.toNat + n % 8)

/-- A text in quotes, in which escapes stand for quotes and for what cannot be shown. -/
def quoted (t : Text) : Text :=
  ['\''] ++ t.flatMap (fun c =>
    if c = '\'' || c = '\\' then ['\\', c] else (escaped? c).getD [c]) ++ ['\'']

/-- Has a character no meaning to a shell, wherever it stands, even between double quotes? -/
def isHarmless (c : Char) : Bool := c.isAlphanum || "%+,-./:@]_ '".toList.contains c

/-- The name of a file in the quotes of a shell. -/
def quotedName (t : Text) : Text :=
  if t.contains '\'' && t.all isHarmless then ['"'] ++ t ++ ['"']
  else ['\''] ++ inside false t ++ ['\'']
where
  /-- What stands between the quotes; some characters are escaped, which needs other quotes. -/
  inside : (escaping : Bool) → Text → Text
    | _, [] => []
    | escaping, c :: t =>
      if c = '\'' then "'\\''".toList ++ inside false t
      else match escaped? c with
        | some shown => (if escaping then [] else "'$'".toList) ++ shown ++ inside true t
        | none => (if escaping then ['\'', '\''] else []) ++ c :: inside false t

/-- The name of a file, in quotes if it holds something that has a meaning to a shell or a colon. -/
def shownName (t : Text) : Text :=
  let means (c : Char) : Bool := "!\"$&()*;<=>[^`| '?\\:".toList.contains c
  if t = [] || t = ['\x7b'] || t = ['\x7d'] || t.any (fun c => means c || (escaped? c).isSome) ||
      t.head?.any (fun c => c = '#' || c = '~') then quotedName t
  else t

/-- Ask a question, to which an answer that begins with a `y` means yes. -/
def confirms (c : Call) (question : Text) : Work Bool := do
  c.write 2 (c.name ++ ": ".toList ++ question ++ "? ".toList)
  let (answer, _) ← match c.stream? 0 with
    | some id => takeLine id
    | none => pure ([], false)
  return answer.head? = some 'y' || answer.head? = some 'Y'

/-- Words that an option takes, each with what it stands for; words for the same thing stand
together. -/
abbrev Choices (α : Type) := List (List String × α)

/-- What a word among those of an option stands for. A word may be cut short as long as only one
thing can be meant. -/
def choose {α : Type} (option : String) (choices : Choices α) (t : Text) : Except Text α :=
  let meant (fits : Text → Bool) : Choices α :=
    choices.filter fun (words, _) => words.any fun w => fits w.toList
  match meant (· = t), meant t.isPrefixOf with
  | [(_, a)], _ | [], [(_, a)] => return a
  | _, found =>
    let line (words : List String) : Text :=
      "\n  - ".toList ++ List.intercalate [',', ' '] (words.map fun w => quoted w.toList)
    throw ((if found.isEmpty then "invalid" else "ambiguous").toList ++ " argument ".toList ++
      quoted t ++ " for ".toList ++ quoted option.toList ++ "\nValid arguments are:".toList ++
      choices.flatMap fun (words, _) => line words)

/-- Complain about a file. -/
def complainOf (c : Call) (file : Text) (fault : Fault) : Work Unit :=
  c.complain (shownName file ++ [':', ' '] ++ reason fault)

/-- Complain about a file, whose name is shown as it is. -/
def complainPlainlyOf (c : Call) (file : Text) (fault : Fault) : Work Unit :=
  c.complain (file ++ [':', ' '] ++ reason fault)

end Call

/-! ## Lines -/

/-- The lines of a text without their ends. -/
def linesOf (t : Text) : List Text :=
  let ls := t.splitOn '\n'
  if ls.getLast? = some [] then ls.dropLast else ls

def ofLines (ls : List Text) : Text := ls.flatMap (· ++ ['\n'])

/-- Does a text lack the end of its last line? -/
def isUnfinished (t : Text) : Bool := t ≠ [] && t.getLast? ≠ some '\n'

/-- The lines as a text whose last line lacks its end if `unfinished`. -/
def ofLinesLike (unfinished : Bool) (ls : List Text) : Text :=
  if unfinished then (ofLines ls).dropLast else ofLines ls

/-- The first `n` lines of a text, and the rest. -/
def splitLines (n : Nat) (t : Text) : Text × Text :=
  let ls := t.splitOn '\n'
  if ls.length ≤ n then (t, []) else (ofLines (ls.take n), List.intercalate ['\n'] (ls.drop n))

namespace Flow

/-- A text from the start of a flow that has at least `n` lines, if there are so many. -/
def unrolled (n : Nat) (f : Flow) : Text :=
  if f.isEndless && f.text.count '\n' < n then f.text ++ (List.replicate n f.cycle).flatten
  else f.text

def takeLines (n : Nat) (f : Flow) : Text := (splitLines n (f.unrolled n)).1

def take (n : Nat) (f : Flow) : Text :=
  let text := if f.isEndless && f.text.length < n then f.text ++ (List.replicate n f.cycle).flatten
    else f.text
  text.take n

/-- What becomes of a flow that is changed line by line. -/
def map (f : Text → Text) (flow : Flow) : Flow := ⟨f flow.text, f flow.cycle⟩

def append (f g : Flow) : Flow := if f.isEndless then f else ⟨f.text ++ g.text, g.cycle⟩

end Flow

namespace Call

/-- The contents of the named files one after another, or the input if no file is named; and
whether all could be read. -/
def gather (c : Call) (files : List Text) : Work (Flow × Bool) := do
  if files.isEmpty then return (← c.inputFlow, true)
  else files.foldlM (fun (all, ok) file => do
    match ← c.contents file with
    | .ok f => return (all.append f, ok)
    | .error fault =>
      c.complainOf file fault
      return (all, false)) ({}, true)

/-- Write what becomes of the contents of the named files. -/
def filter (c : Call) (files : List Text) (f : Text → Text) : Work Nat := do
  let (flow, ok) ← c.gather files
  c.pour (flow.map f)
  return if ok then 0 else 1

/-- All of the named files, none of which may have no end. -/
def gatherAll (c : Call) (files : List Text) : Work (Text × Bool) := do
  let (flow, ok) ← c.gather files
  if flow.isEndless then spin
  return (flow.text, ok)

end Call

/-- The pieces of a list with `n` members each, of which the last one may have fewer. -/
def pieces {α : Type} (n : Nat) (xs : List α) : List (List α) := go xs.length xs
where
  go : (fuel : Nat) → List α → List (List α)
    | 0, _ => []
    | _ + 1, [] => []
    | fuel + 1, x :: xs => (x :: xs).take (max n 1) :: go fuel ((x :: xs).drop (max n 1))

/-- A whole number in decimal digits. -/
def natural? (t : Text) : Option Nat :=
  if t ≠ [] && t.all Text.isDigit then
    some (t.foldl (fun n c => n * 10 + (c.toNat - '0'.toNat)) 0)
  else none

end GoRepl.Machine
