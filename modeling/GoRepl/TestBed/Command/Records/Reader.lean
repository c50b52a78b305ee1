import GoRepl.TestBed.Command.Records.Matching

/-! # Test bed: reading programs on records

From the text of a program to its rules, by way of tokens. A slash begins a regular expression where
no operand stands before it, and divides else. -/

namespace GoRepl.Machine.Records

inductive Token where
  | number (x : Float)
  | text (t : Text)
  | regex (t : Text)
  | name (t : Text)
  /-- A name with a parenthesis right after it. -/
  | called (t : Text)
  | keyword (t : Text)
  | op (t : Text)
  | newline

namespace Token

/-- Can an operand end here? -/
def endsOperand : Token → Bool
  | number _ | text _ | regex _ | name _ => true
  | keyword t => t = "length".toList || t = "getline".toList
  | op t => t = [')'] || t = [']'] || t = ['$'] || t = "++".toList || t = "--".toList
  | _ => false

def shown : Token → Text
  | number x => Value.ofNumber x
  | text t => ['"'] ++ t ++ ['"']
  | regex t => ['/'] ++ t ++ ['/']
  | name t | called t | keyword t | op t => t
  | newline => "end of line".toList

end Token

def keywords : List String :=
  ["BEGIN", "END", "function", "func", "if", "else", "while", "for", "do", "break", "continue",
    "next", "nextfile", "exit", "return", "delete", "in", "getline", "print", "printf"]

def operators : List String :=
  ["&&", "||", "++", "--", "+=", "-=", "*=", "/=", "%=", "^=", "==", "<=", ">=", "!=", "!~", ">>",
    "\x7b", "\x7d", "(", ")", "[", "]", ";", ",", "+", "-", "*", "/", "%", "^", "!", ">", "<", "|",
    "?", ":", "~", "$", "="]

/-- The text up to a closing character on the same line that has no backslash before it and does not
stand in brackets, and what follows it. -/
def upTo? (closing : Char) : (inBrackets : Bool) → Text → Option (Text × Text)
  | _, [] => none
  | b, '\\' :: c :: t => (upTo? closing b t).map fun (x, y) => ('\\' :: c :: x, y)
  | b, c :: t =>
    let goOn (b : Bool) := (upTo? closing b t).map fun (x, y) => (c :: x, y)
    if c = '\n' then none
    else if closing = '/' && b then goOn (c ≠ ']')
    else if c = closing then some ([], t)
    else goOn (closing = '/' && c = '[')

/-- The characters of a text in which escapes stand for others. -/
def unescapedText : (fuel : Nat) → Text → Text
  | 0, t => t
  | _ + 1, [] => []
  | fuel + 1, '\\' :: c :: t =>
    if c = '"' || c = '/' then c :: unescapedText fuel t
    else match escape? false false (c :: t) with
      | some (shown, t) => shown ++ unescapedText fuel t
      | none => '\\' :: c :: unescapedText fuel t
  | fuel + 1, c :: t => c :: unescapedText fuel t

/-- Why a text is no program, and the line where that was noticed, if it is known. -/
structure Misread where
  message : Text
  line : Option Nat := none

/-- The tokens of a program. The fault is a character that begins none. -/
def tokens : (fuel line : Nat) → (before : Option Token) → Text → Except Misread (List Token)
  | 0, _, _, _ => return []
  | _ + 1, _, _, [] => return []
  | fuel + 1, line, before, c :: t => do
    let give (k : Token) (rest : Text) : Except Misread (List Token) := do
      return k :: (← tokens fuel (if c == '\n' then line + 1 else line) (some k) rest)
    let runaway (what : String) : Except Misread (List Token) :=
      let shown := (t.takeWhile (· != '\n')).take 10
      throw { message := "runaway ".toList ++ what.toList ++ shown ++ " ...".toList, line }
    if c == '\n' then give .newline t
    else if c == ' ' || c == '\t' || c == '\r' then tokens fuel line before t
    else if c == '#' then tokens fuel line before (t.dropWhile (· != '\n'))
    else if c == '\\' && t.head? = some '\n' then tokens fuel (line + 1) before t.tail
    else if c == '"' then
      match upTo? '"' false t with
      | some (inner, rest) => give (.text (unescapedText (inner.length + 1) inner)) rest
      | none => runaway "string constant \""
    else if c == '/' && !before.any Token.endsOperand then
      match upTo? '/' false t with
      | some (inner, rest) =>
        match regexOf inner with
        | .error message => throw { message, line }
        | .ok _ => give (.regex inner) rest
      | none => runaway "regular expression /"
    else if Text.isDigit c || (c == '.' && t.head?.any Text.isDigit) then
      let (x, rest) := Value.numberAt (c :: t)
      give (.number x) rest
    else if Shell.isNameStart c then
      let word := (c :: t).takeWhile Shell.isNameChar
      let rest := (c :: t).drop word.length
      if keywords.any (·.toList = word) then give (.keyword word) rest
      else if rest.head? = some '(' then give (.called word) rest
      else if word = "length".toList then give (.keyword word) rest
      else give (.name word) rest
    else match operators.findSome? fun o => (Text.after? o.toList (c :: t)).map (o.toList, ·) with
      | some (o, rest) => give (.op o) rest
      | none => throw { message := "unexpected character '".toList ++ [c, '\''] }

/-- Reading goes through the tokens; the fault tells how many ends of lines were left. -/
abbrev Reading := StateT (List Token) (Except (Text × Nat))

def linesLeft (ks : List Token) : Nat := (ks.filter (· matches .newline)).length

namespace Reader

def refuse {α : Type} : Reading α := do
  let ks ← get
  throw ("syntax error at or near ".toList ++ (match ks.head? with
    | some k => k.shown
    | none => "end of file".toList), linesLeft ks)

def isOp (o : String) : Reading Bool := do
  match (← get).head? with
  | some (.op t) => return t = o.toList
  | _ => return false

def isKeyword (k : String) : Reading Bool := do
  match (← get).head? with
  | some (.keyword t) => return t = k.toList
  | _ => return false

def advance : Reading Unit := modify List.tail

/-- Take an operator if it stands here. -/
def took (o : String) : Reading Bool := do
  if ← isOp o then
    advance
    return true
  else return false

def need (o : String) : Reading Unit := do
  if !(← took o) then refuse

def newlines : Reading Unit := modify fun ks => ks.dropWhile (· matches .newline)

/-- Pass over ends of lines and semicolons. -/
def separators : Reading Unit :=
  modify fun ks => ks.dropWhile fun k => match k with
    | .newline => true
    | .op t => t = [';']
    | _ => false

/-- A text that stands in place of a regular expression is one. -/
def asPattern (e : Expr) : Reading Expr := do
  match e with
  | .text t =>
    match regexOf t with
    | .ok r => return .regex t r
    | .error message => throw (message, linesLeft (← get))
  | e => return e

def isTarget : Expr → Bool
  | .field _ | .variable _ | .element _ _ => true
  | _ => false

/-- Where an expression stands decides which operators may be part of it. -/
structure Place where
  noGreater : Bool := false
  noIn : Bool := false

/-- The operator that stands here, if it is one of some. -/
def oneOf (os : List String) : Reading (Option Text) := do
  match (← get).head? with
  | some (.op t) => return if os.any (·.toList = t) then some t else none
  | _ => return none

/-- Can an operand begin here, apart from one with a sign? -/
def beginsOperand : Token → Bool
  | .number _ | .text _ | .regex _ | .name _ | .called _ => true
  | .keyword t => t = "length".toList
  | .op t => t = ['('] || t = ['$'] || t = "++".toList || t = "--".toList || t = ['!']
  | .newline => false

mutual

def expr (p : Place) : (fuel : Nat) → Reading Expr
  | 0 => refuse
  | fuel + 1 => do
    let e ← ternary p fuel
    if isTarget e then
      match ← oneOf ["=", "+=", "-=", "*=", "/=", "%=", "^="] with
      | some o =>
        advance
        newlines
        return .assign e (o.headD '=') (← expr p fuel)
      | none => return e
    else return e

def ternary (p : Place) : (fuel : Nat) → Reading Expr
  | 0 => refuse
  | fuel + 1 => do
    let condition ← level p fuel 0
    if ← took "?" then
      newlines
      let yes ← expr p fuel
      newlines
      need ":"
      newlines
      return .choice condition yes (← expr p fuel)
    else return condition

/-- An expression whose operators are at least so strong: alternatives, conjunctions, membership,
matches, comparisons, joined texts, sums, products. -/
def level (p : Place) : (fuel : Nat) → (strength : Nat) → Reading Expr
  | 0, _ => refuse
  | fuel + 1, strength => do
    if strength = 8 then unary p fuel
    else more p fuel strength (← level p fuel (strength + 1))

def more (p : Place) : (fuel : Nat) → (strength : Nat) → (left : Expr) → Reading Expr
  | 0, _, _ => refuse
  | fuel + 1, strength, left => do
    let goOn (make : Expr → Expr) : Reading Expr := do
      advance
      newlines
      more p fuel strength (make (← level p fuel (strength + 1)))
    let binary (os : List String) : Reading Expr := do
      match ← oneOf os with
      | some o => goOn (.binary o left)
      | none => return left
    match strength with
    | 0 => binary ["||"]
    | 1 => binary ["&&"]
    | 2 =>
      if !p.noIn && (← isKeyword "in") then
        advance
        match (← get).head? with
        | some (.name n) =>
          advance
          let index := match left with
            | .several es => es
            | e => [e]
          more p fuel strength (.isIn index n)
        | _ => refuse
      else return left
    | 3 =>
      match ← oneOf ["~", "!~"] with
      | some o =>
        advance
        newlines
        let e ← asPattern (← level p fuel 4)
        more p fuel strength (.isMatch (o = "!~".toList) left e)
      | none => return left
    | 4 =>
      match ← oneOf (["<", "<=", "==", "!=", ">="] ++ if p.noGreater then [] else [">"]) with
      | some o =>
        advance
        return .binary o left (← level p fuel 5)
      | none => return left
    | 5 =>
      let isIn ← isKeyword "in"
      if !isIn && (← get).head?.any beginsOperand then
        more p fuel strength (.joined left (← level p fuel 6))
      else return left
    | 6 => binary ["+", "-"]
    | _ => binary ["*", "/", "%"]

def unary (p : Place) : (fuel : Nat) → Reading Expr
  | 0 => refuse
  | fuel + 1 => do
    match ← oneOf ["!", "-", "+"] with
    | some o =>
      advance
      return .unary (o.headD '+') (← unary p fuel)
    | none => power p fuel

def power (p : Place) : (fuel : Nat) → Reading Expr
  | 0 => refuse
  | fuel + 1 => do
    let e ← postfixed p fuel
    match ← oneOf ["^"] with
    | some _ =>
      advance
      return .binary ['^'] e (← unary p fuel)
    | none => return e

def postfixed (p : Place) : (fuel : Nat) → Reading Expr
  | 0 => refuse
  | fuel + 1 => do
    let e ← primary p fuel
    if isTarget e then
      match ← oneOf ["++", "--"] with
      | some o =>
        advance
        return .bump e (o = "++".toList) false
      | none => piped p fuel e
    else piped p fuel e

/-- What is read from a command, if an operand is followed by that. -/
def piped (p : Place) : (fuel : Nat) → Expr → Reading Expr
  | 0, _ => refuse
  | fuel + 1, e => do
    match ← get with
    | .op ['|'] :: .keyword k :: ks =>
      if k = "getline".toList then
        set ks
        piped p fuel (.next (← filled p fuel) (some (true, e)))
      else return e
    | _ => return e

/-- The target that a record goes into, if one is named. -/
def filled (p : Place) : (fuel : Nat) → Reading (Option Expr)
  | 0 => refuse
  | fuel + 1 => do
    match (← get).head? with
    | some (.name _) | some (.op ['$']) => return some (← primary p fuel)
    | _ => return none

/-- Expressions with commas between them. -/
def list (p : Place) : (fuel : Nat) → Reading (List Expr)
  | 0 => refuse
  | fuel + 1 => do
    let e ← expr p fuel
    if ← took "," then
      newlines
      return e :: (← list p fuel)
    else return [e]

def primary (p : Place) : (fuel : Nat) → Reading Expr
  | 0 => refuse
  | fuel + 1 => do
    match (← get).head? with
    | some (.number x) =>
      advance
      return .number x
    | some (.text t) =>
      advance
      return .text t
    | some (.regex t) =>
      advance
      return .regex t (regexIn t)
    | some (.name n) =>
      advance
      if ← took "[" then
        let index ← list {} fuel
        need "]"
        return .element n index
      else return .variable n
    | some (.called n) =>
      advance
      need "("
      newlines
      if ← took ")" then return .call n []
      else
        let args ← list {} fuel
        newlines
        need ")"
        let place := if n = "match".toList then 1 else 0
        let isPattern := ["sub", "gsub", "match"].any (·.toList = n)
        let args ← args.zipIdx.mapM fun ((e, k) : Expr × Nat) => do
          if isPattern && k = place then asPattern e else return e
        return .call n args
    | some (.keyword k) =>
      advance
      if k = "length".toList then return .call k []
      else if k = "getline".toList then
        let target ← filled p fuel
        if ← took "<" then return .next target (some (false, ← primary p fuel))
        else return .next target none
      else refuse
    | some (.op o) =>
      advance
      match String.ofList o with
      | "(" =>
        newlines
        let es ← list {} fuel
        newlines
        need ")"
        match es with
        -- What stands in parentheses cannot be assigned to.
        | [e] => return if isTarget e then .several [e] else e
        | es => return .several es
      | "$" =>
        match ← oneOf ["++", "--", "-"] with
        | some ['-'] =>
          advance
          return .field (.unary '-' (← primary p fuel))
        | _ => return .field (← primary p fuel)
      | "++" => return .bump (← primary p fuel) true true
      | "--" => return .bump (← primary p fuel) false true
      | "-" => return .unary '-' (← unary p fuel)
      | "+" => return .unary '+' (← unary p fuel)
      | "!" => return .unary '!' (← unary p fuel)
      | _ => refuse
    | _ => refuse

end

/-- Does a statement end here? -/
def endsStmt : Reading Bool := do
  match (← get).head? with
  | none | some .newline => return true
  | some (.op t) => return t = [';'] || t = ['\x7d']
  | _ => return false

mutual

/-- A statement without what ends it. -/
def simple : (fuel : Nat) → Reading Stmt
  | 0 => refuse
  | fuel + 1 => do
    let optional : Reading (Option Expr) := do
      if ← endsStmt then return none else return some (← expr {} fuel)
    match (← get).head? with
    | some (.keyword k) =>
      match String.ofList k with
      | "print" | "printf" =>
        advance
        let isOver ← endsStmt
        let target? ← oneOf [">", ">>", "|"]
        let args ← if isOver || target?.isSome then pure [] else list { noGreater := true } fuel
        let args := match args with
          | [.several es] => es
          | es => es
        let target ← match ← oneOf [">", ">>", "|"] with
          | some o => do
            advance
            let way := if o = ['|'] then Way.into else if o = ['>'] then .over else .after
            pure (some (way, ← expr {} fuel))
          | none => pure none
        return .print args (k = "printf".toList) target
      | "delete" =>
        advance
        match (← get).head? with
        | some (.name n) =>
          advance
          if ← took "[" then
            let index ← list {} fuel
            need "]"
            return .delete n index
          else return .delete n []
        | _ => refuse
      | "break" =>
        advance
        return .leaveLoop
      | "continue" =>
        advance
        return .nextRound
      | "next" =>
        advance
        return .nextRecord
      | "nextfile" =>
        advance
        return .nextFile
      | "exit" =>
        advance
        return .exit (← optional)
      | "return" =>
        advance
        return .give (← optional)
      | _ => return .expr (← expr {} fuel)
    | _ => return .expr (← expr {} fuel)

/-- What a branch or a loop holds. -/
def inner : (fuel : Nat) → Reading Stmt
  | 0 => refuse
  | fuel + 1 => do
    newlines
    if ← took ";" then return .block [] else stmt fuel

def stmt : (fuel : Nat) → Reading Stmt
  | 0 => refuse
  | fuel + 1 => do
    if ← isOp "\x7b" then return .block (← block fuel)
    else
      let keyword := match (← get).head? with
        | some (.keyword k) => String.ofList k
        | _ => ""
      match keyword with
      | "if" =>
        advance
        need "("
        let condition ← expr {} fuel
        need ")"
        let yes ← inner fuel
        let before ← get
        separators
        if ← isKeyword "else" then
          advance
          return .branch condition yes (← inner fuel)
        else
          set before
          return .branch condition yes (.block [])
      | "while" =>
        advance
        need "("
        let condition ← expr {} fuel
        need ")"
        return .loop condition (← inner fuel)
      | "do" =>
        advance
        let body ← inner fuel
        separators
        if !(← isKeyword "while") then refuse
        advance
        need "("
        let condition ← expr {} fuel
        need ")"
        finish
        return .doLoop body condition
      | "for" =>
        advance
        need "("
        match ← get with
        | .name x :: .keyword ['i', 'n'] :: .name l :: .op [')'] :: rest =>
          set rest
          return .each x l (← inner fuel)
        | _ =>
          let start ← if ← isOp ";" then pure (.block []) else simple fuel
          need ";"
          newlines
          let condition ← if ← isOp ";" then pure none else do pure (some (← expr {} fuel))
          need ";"
          newlines
          let step ← if ← isOp ")" then pure (.block []) else simple fuel
          need ")"
          return .count start condition step (← inner fuel)
      | _ =>
        let s ← simple fuel
        finish
        return s
where
  finish : Reading Unit := do
    match (← get).head? with
    | none => return
    | some .newline => advance
    | some (.op [';']) => advance
    | some (.op ['\x7d']) => return
    | _ => refuse

/-- The statements in braces. -/
def block : (fuel : Nat) → Reading (List Stmt)
  | 0 => refuse
  | fuel + 1 => do
    need "\x7b"
    rest fuel

def rest : (fuel : Nat) → Reading (List Stmt)
  | 0 => refuse
  | fuel + 1 => do
    separators
    if (← get).isEmpty then throw ("missing \x7d near end of file".toList, 0)
    if ← took "\x7d" then return []
    else
      let s ← stmt fuel
      return s :: (← rest fuel)

end

/-- The names of a function's parameters. -/
def params : (fuel : Nat) → Reading (List Text)
  | 0 => refuse
  | fuel + 1 => do
    newlines
    match (← get).head? with
    | some (.name n) =>
      advance
      if ← took "," then return n :: (← params fuel) else return [n]
    | _ => return []

/-- The rules and functions of a program. -/
def program : (fuel : Nat) → Program → Reading Program
  | 0, _ => refuse
  | fuel + 1, p => do
    separators
    let body : Reading (Option Stmt) := do
      if ← isOp "\x7b" then return some (.block (← block fuel)) else return none
    let add (pattern : Pattern) (body : Option Stmt) : Reading Program :=
      program fuel { p with rules := p.rules ++ [⟨pattern, body⟩] }
    match (← get).head? with
    | none => return p
    | some (.op ['\x7b']) => add .always (← body)
    | some (.keyword k) =>
      match String.ofList k with
      | "BEGIN" =>
        advance
        match ← body with
        | some b => add .start (some b)
        | none => refuse
      | "END" =>
        advance
        match ← body with
        | some b => add .finish (some b)
        | none => refuse
      | "function" | "func" =>
        advance
        match (← get).head? with
        | some (.name n) | some (.called n) =>
          advance
          need "("
          let ps ← params fuel
          need ")"
          newlines
          match ← body with
          | some b => program fuel { p with functions := p.functions ++ [(n, ps, b)] }
          | none => refuse
        | _ => refuse
      | _ => pattern fuel add body
    | some _ => pattern fuel add body
where
  pattern (fuel : Nat) (add : Pattern → Option Stmt → Reading Program)
      (body : Reading (Option Stmt)) : Reading Program := do
    let e ← expr {} fuel
    if ← took "," then
      newlines
      let last ← expr {} fuel
      add (.between e last) (← body)
    else add (.where_ e) (← body)

end Reader

/-- The functions that every program has. -/
def provided : List String :=
  ["length", "substr", "index", "split", "sub", "gsub", "match", "sprintf", "tolower", "toupper",
    "int", "sqrt", "exp", "log", "sin", "cos", "atan2", "rand", "srand", "close", "fflush",
    "system"]

/-- The functions that a program calls and does not have, the one that is called last first. -/
def undefinedFunctions (ks : List Token) (p : Program) : List Text :=
  let called := ks.filterMap fun
    | .called n => some n
    | _ => none
  (called.eraseDups.filter fun n =>
    !(provided.contains (String.ofList n) || p.functions.any (·.1 = n))).reverse

/-- Read a program. -/
def read (t : Text) : Except (List Misread) Program := do
  -- The text counts as ended by the end of a line.
  let ks ← (tokens (t.length + 2) 1 none (t ++ ['\n'])).mapError ([·])
  match (Reader.program (20 * ks.length + 40) {}).run ks with
  | .ok (p, _) =>
    match undefinedFunctions ks p with
    | [] => return p
    | missing =>
      throw (missing.map fun n => {
        message := "function ".toList ++ n ++ " never defined".toList
        line := some (linesLeft ks + 1) })
  | .error (message, left) => throw [{ message, line := some (linesLeft ks - left + 1) }]

end GoRepl.Machine.Records
