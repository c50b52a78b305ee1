import GoRepl.TestBed.Command.Records.Basic

/-! # Test bed: regular expressions of programs on records

Some texts are no regular expressions, and in others a character stands for itself where it could
mean nothing else. -/

namespace GoRepl.Machine.Records

/-- How regular expressions are written: numbers of repetitions are not known. -/
def form : Regex.Form := { extended := true, bounded := false, escapes := true }

/-- A set of characters in which the dash of a range that goes backwards stands for itself. -/
def withoutBackward : Text → Text
  | [] => []
  | '\\' :: c :: t => '\\' :: c :: withoutBackward t
  | a :: '-' :: b :: t =>
    if b < a && b ≠ ']' then a :: '\\' :: '-' :: withoutBackward (b :: t)
    else a :: '-' :: withoutBackward (b :: t)
  | c :: t => c :: withoutBackward t
termination_by t => t.length

/-- Are all classes that are named in a set of characters known? -/
def knowsClasses : Text → Bool
  | '[' :: ':' :: t =>
    let name := t.takeWhile (· ≠ ':')
    let isClosed := ":]".toList.isPrefixOf (t.drop name.length)
    (CharSet.namedRanges name ≠ [] || !isClosed) && knowsClasses t
  | _ :: t => knowsClasses t
  | [] => true

/-- The rest of a set of characters whose opening bracket has been read, and what follows it. -/
def setAt? (t : Text) : Option (Text × Text) :=
  (CharSet.read? { escapes := true } (Regex.glyphs t)).bind fun (_, rest) =>
    let inside := t.take (t.length - rest.length)
    if knowsClasses inside then some (withoutBackward inside, t.drop inside.length) else none

/-- A regular expression in which what stands for itself has a backslash before it, or what is wrong
with it. So many parentheses are open; an operand may be missing, or the start of the text was asked
for just before. -/
def mended : (fuel opened : Nat) → (isMissing atStart : Bool) → Text → Except String Text
  | 0, _, _, _, t => return t
  | fuel + 1, opened, isMissing, atStart, t => do
    let goOn (t : Text) : Except String Text := mended fuel opened false false t
    let demand : Except String Unit := if isMissing then throw "missing operand" else return
    match t with
    | [] =>
      if 0 < opened then throw "missing ')'"
      demand
      return []
    | ['\\'] => return ['\\', '\\']
    | '\\' :: c :: t => return '\\' :: c :: (← goOn t)
    | '[' :: t =>
      match setAt? t with
      | none => throw "bad class -- [], [^] or ["
      | some (set, t) => return '[' :: set ++ (← goOn t)
    | '(' :: t => return '(' :: (← mended fuel (opened + 1) true false t)
    | ')' :: t =>
      if opened = 0 then return '\\' :: ')' :: (← goOn t)
      demand
      return ')' :: (← mended fuel (opened - 1) false false t)
    | '|' :: t =>
      demand
      return '|' :: (← mended fuel opened true false t)
    | '^' :: t => return '^' :: (← mended fuel opened false true t)
    | c :: t =>
      if c = '*' || c = '+' then
        if atStart then throw "syntax error ^* or ^+"
        demand
      if c = '?' then demand
      return c :: (← goOn t)

/-- The regular expression that a text is, or why it is none. -/
def regexOf (t : Text) : Except Text Regex :=
  if t = [] then return Regex.read form []
  else match mended (t.length + 1) 0 true false t with
    | .ok mended => return Regex.read form mended
    | .error why =>
      throw ("regular expression compile failed (".toList ++ why.toList ++ ")\n".toList ++ t)

/-- A text as a regular expression, even if it is none. -/
def regexIn (t : Text) : Regex :=
  match regexOf t with
  | .ok r => r
  | .error _ => Regex.read form t

end GoRepl.Machine.Records
