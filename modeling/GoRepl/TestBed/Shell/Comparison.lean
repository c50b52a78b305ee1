import GoRepl.TestBed.Command.Condition
import GoRepl.TestBed.Regex
import GoRepl.TestBed.Shell.Tracing

/-! # Test bed: conditions in double brackets

They are like those of `test`, but a text is compared with a pattern or an expression, in which the
quoted characters stand for themselves, and numbers are the values of expressions. -/

namespace GoRepl.Machine.Shell

/-- The names by which options may be asked for. -/
def longOptions : List (String × Char) :=
  [("allexport", 'a'), ("braceexpand", 'B'), ("emacs", 'M'), ("errexit", 'e'), ("errtrace", 'E'),
    ("functrace", 'T'), ("hashall", 'h'), ("histexpand", 'H'), ("history", 'y'),
    ("ignoreeof", 'I'), ("interactive-comments", 'z'), ("keyword", 'k'), ("monitor", 'm'),
    ("noclobber", 'C'), ("noexec", 'n'), ("noglob", 'f'), ("nolog", 'l'), ("notify", 'b'),
    ("nounset", 'u'), ("onecmd", 't'), ("physical", 'P'), ("pipefail", '|'), ("posix", 'X'),
    ("privileged", 'p'), ("verbose", 'v'), ("vi", 'V'), ("xtrace", 'x')]

/-- Is an option with a longer name set? -/
def hasLongOption (s : Shell) (name : Text) : Bool :=
  match longOptions.find? (·.1.toList = name) with
  | some (_, c) => s.hasOption c || (s.isExtended && (c = 'B' || c = 'h' || c = 'z'))
  | none => false

/-- Is a variable, or an element of one, set? -/
def isSet (s : Shell) (now : Int) (t : Text) : Bool :=
  match Text.cutAt? '[' t with
  | some (name, rest) =>
    let index := rest.dropLast
    (s.bound? now name).any fun v =>
      if index = ['@'] || index = ['*'] then !v.value.elements.isEmpty
      else (v.value.element? index).isSome
  | none => (s.param? now t).isSome

/-- Where conditions are asked. -/
def setting (s : Shell) (m : Machine) : Condition.Setting where
  disk := m.disk
  place := s.place
  isSet := s.isSet m.clock
  hasOption := s.hasLongOption

namespace Comparison

/-- The expression that glyphs stand for. -/
def expressionOf (gs : List Glyph) : Text :=
  gs.flatMap fun g =>
    if g.literal && "\\.*+?()[]|^$\x7b\x7d".toList.contains g.char then ['\\', g.char] else [g.char]

/-- The groups of a match, whether they have matched something or not. -/
def groupTexts (count : Nat) (m : Regex.Match) : List Text :=
  (List.range count).map fun n => (m.after.groups.lookup (n + 1)).getD []

/-- Compare a text with an expression, and keep what matches. None if it is no expression. -/
def matchExpression (t : Text) (gs : List Glyph) : Run (Option Bool) := do
  let s ← get
  let form : Regex.Form :=
    { extended := true, ignoreCase := s.hasSwitch "nocasematch", strict := true }
  let source := expressionOf gs
  if (Regex.fault? form source).isSome then return none
  let count := (Regex.alternatives form (2 * source.length + 2) 0 source).2.1
  let found := Regex.find? (Regex.read form source) [] t
  let kept : List Text := match found with
    | some m => m.matched :: groupTexts count m
    | none => []
  modify fun s => { s with
    bindings := s.bindings.put "BASH_REMATCH".toList { value := .ofList kept } }
  return some found.isSome

/-- The numbers that two operands stand for. -/
def comparedNumbers (a b : Text) : Run (Option (Int × Int)) := do
  let number (t : Text) : Run Int := calculateText "[[: ".toList t
  let pair : Run (Int × Int) := do
    let a ← number a
    return (a, ← number b)
  match ← attempt pair with
  | .ok p => return some p
  | .error .giveUp => return none
  | .error j => throw j

def numeric? (op : Text) : Option (Int → Int → Bool) :=
  match String.ofList op with
  | "-eq" => some (· = ·)
  | "-ne" => some (· ≠ ·)
  | "-lt" => some (· < ·)
  | "-le" => some (· ≤ ·)
  | "-gt" => some (· > ·)
  | "-ge" => some (· ≥ ·)
  | _ => none

/-- A pattern as it is shown: what is taken literally has a backslash before it. -/
def shownPattern (gs : List Glyph) : Text :=
  gs.flatMap fun g => if g.literal && hasMeaning [g.char] then ['\\', g.char] else [g.char]

/-- The answer to a condition, or none if it cannot be answered. -/
def answer (h : Inner) : Test → Run (Option Bool)
  | .negation t => do return (← answer h t).map (!·)
  | .both a b => do
    match ← answer h a with
    | some true => answer h b
    | r => return r
  | .oneOf a b => do
    match ← answer h a with
    | some false => answer h b
    | r => return r
  | .word w => do
    let t ← expandText h w
    show' h ["-n".toList, shown t]
    return some (t ≠ [])
  | .unary op w => do
    let t ← expandText h w
    show' h [op, shown t]
    let s ← get
    return ((Condition.unary? (s.setting (← machine)) op).map (· t))
  | .binary op a b => do
    let t ← expandText h a
    let gs ← expandPattern h b
    let u := gs.map Glyph.char
    show' h [shown t, op, if op = "=~".toList then expressionOf gs else shownPattern gs]
    let s ← get
    let pattern := Glob.ofGlyphs { s.textForm with grouped := true } gs
    match String.ofList op, numeric? op with
    | "=~", _ => matchExpression t gs
    | "=", _ | "==", _ => return some (pattern.admits t)
    | "!=", _ => return some !(pattern.admits t)
    | _, some f =>
      match ← comparedNumbers t u with
      | some (m, n) => return some (f m n)
      | none => return some false
    | _, none =>
      match Condition.binary? (s.setting (← machine)) op with
      | some f => return (f t u).toOption
      | none => return none
where
  shown (t : Text) : Text := if t = [] then ['\'', '\''] else t
  /-- Show a condition before it is answered. -/
  show' (h : Inner) (ts : List Text) : Run Unit := do
    let s ← get
    traceLine h s.complaints (List.intercalate [' '] ("[[".toList :: ts ++ ["]]".toList]))

end Comparison
end GoRepl.Machine.Shell
