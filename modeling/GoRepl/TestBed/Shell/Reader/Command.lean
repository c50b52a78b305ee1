import GoRepl.TestBed.Shell.Reader.Word

/-! # Test bed: reading commands

From the text of a script to its commands. The lists of commands inside others are read by `inner`,
and `body` reads what a function does. -/

namespace GoRepl.Machine.Shell.Reader

/-! ## Conditions in double brackets -/

/-- The operators about one operand. -/
def isUnary (t : Text) : Bool :=
  match t with
  | ['-', c] => "abcdefghknoprstuvwxzGLNORS".toList.contains c
  | _ => false

/-- The operators between two operands. -/
def binaryOperators : List String :=
  ["==", "=", "!=", "=~", "-eq", "-ne", "-lt", "-le", "-gt", "-ge", "-nt", "-ot", "-ef"]

/-- The operator or sign that a text begins with, as it is named, and its length. Words have no
such name. -/
def sign? (t : Text) : Option (Text × Nat) :=
  match t with
  | [] => some ("EOF".toList, 0)
  | '\n' :: _ => some ("newline".toList, 1)
  | t =>
    if front t = "]]".toList then some ("]]".toList, 2)
    else ((signs.map String.toList).find? (·.isPrefixOf t)).map fun sign => (sign, sign.length)
where
  /-- The longer ones come first. -/
  signs : List String :=
    [";;&", "<<-", "<<<", "&>>", "&&", "||", ">>", "<<", "<&", ">&", ";;", ";&", "<>", ">|", "&>",
      ";", "(", ")", "|", "&", "<", ">"]

/-- Refuse a condition because of what stands here; `complaint` is made of its name, if it has
one, for the line `line?` or this one. -/
def refuseCondition {α : Type} (line? : Option Nat) (complaint : Option Text → Option String) :
    Reading α := do
  skipSpaces
  let s ← get
  let sign := sign? s.rest
  let length := match sign with
    | some (_, n) => n
    | none => (front s.rest).length
  let after := s.rest.drop length
  let left := match s.rest with
    | [] => none
    | '\n' :: _ => some 0
    | _ => some ((after.takeWhile (· ≠ '\n')).length + 1)
  let complaints := (complaint (sign.map Prod.fst)).toList.map fun t =>
    (line?.getD s.line, t.toList)
  throw ⟨s.line, .badCondition complaints left, s.openDocuments, false⟩

/-- A word of a condition that stands on the same line, in which groups may be known. -/
def operand (inner : Reading (List Command)) (fuel : Nat) (grouped : Bool) (kind : String) :
    Reading Word := do
  skipSpaces
  let s ← get
  let refused : Reading Word := refuseCondition none fun name => some <|
    "unexpected argument " ++ (match name with
      | some t => "`" ++ String.ofList t ++ "' "
      | none => "") ++ "to conditional " ++ kind ++ " operator"
  if front s.rest = "]]".toList then refused
  else
    modify fun s => { s with grouped := s.grouped || grouped }
    let w ← word? inner fuel
    modify ({ · with grouped := s.grouped })
    match w with
    | some w => return w
    | none => refused

/-- A condition that begins with a word. -/
def wordTest (inner : Reading (List Command)) (fuel : Nat) : Reading Test := do
  let before ← get
  let op := front before.rest
  let first ← if op = "]]".toList then pure none else word? inner fuel
  match first with
  | none => refuseCondition none fun name =>
    match name with
    | some ['\x5d', '\x5d'] | none => none
    | some t => some ("unexpected token `" ++ String.ofList t ++ "' in conditional command")
  | some w =>
    if isUnary op then
      let t ← operand inner fuel false "unary"
      skipLines
      return .unary op t
    else
      skipSpaces
      let rest := (← get).rest
      let op := front rest
      let second (op : Text) : Reading Test := do
        advance op.length
        let isMatch := ["=", "==", "!="].any (·.toList = op)
        let t ← operand inner fuel isMatch "binary"
        skipLines
        return .binary op w t
      if ["<", ">"].any (some ·.toList = (sign? rest).map Prod.fst) then second (rest.take 1)
      else if op = "=~".toList then
        advance 2
        skipSpaces
        if (← get).rest.head?.any (fun c => c = '\n' || c = ')') || (← atWord "]]") then
          second []
        else
          let t ← parts inner fuel (.regex 0)
          skipLines
          return .binary op w t
      else if binaryOperators.any (·.toList = op) then second op
      else if ["]]", "&&", "||", ")"].any (some ·.toList = (sign? rest).map Prod.fst) then
        return .word w
      else refuseCondition none fun name => some <| match name with
        | some t => "unexpected token `" ++ String.ofList t ++
          "', conditional binary operator expected"
        | none => "conditional binary operator expected"

mutual

def testOr (inner : Reading (List Command)) : (fuel : Nat) → Reading Test
  | 0 => refuse .tooDeep
  | fuel + 1 => do
    let a ← testAnd inner fuel
    if ← at? "||" then
      advance 2
      return .oneOf a (← testOr inner fuel)
    else return a

def testAnd (inner : Reading (List Command)) : (fuel : Nat) → Reading Test
  | 0 => refuse .tooDeep
  | fuel + 1 => do
    let a ← testOne inner fuel
    if ← at? "&&" then
      advance 2
      return .both a (← testAnd inner fuel)
    else return a

def testOne (inner : Reading (List Command)) : (fuel : Nat) → Reading Test
  | 0 => refuse .tooDeep
  | fuel + 1 => do
    skipLines
    let line := (← get).line
    if ← atWord "!" then
      advance 1
      return .negation (← testOne inner fuel)
    else if (← get).rest.head? = some '(' then
      advance 1
      let t ← tryCatch (testOr inner fuel) fun m => match m.problem with
        | .badCondition complaints left =>
          let more := complaints ++ [(line, "expected `)'".toList)]
          throw { m with problem := .badCondition more left }
        | _ => throw m
      if (← get).rest.head? = some ')' then
        advance 1
        skipLines
        return t
      else refuseCondition (some line) fun name => some <| match name with
        | some t => "unexpected token `" ++ String.ofList t ++ "', expected `)'"
        | none => "expected `)'"
    else wordTest inner fuel

end

/-- The condition up to two closing brackets. -/
def bracketed (inner : Reading (List Command)) (fuel : Nat) : Reading Test := do
  let line := (← get).line
  let t ← testOr inner fuel
  if ← atWord "]]" then
    advance 2
    return t
  else refuseCondition (some line) fun name => some <| match name with
    | some ['E', 'O', 'F'] => "unexpected EOF while looking for `]]'"
    | some t => "syntax error in conditional expression: unexpected token `" ++
      String.ofList t ++ "'"
    | none => "syntax error in conditional expression"

/-! ## Parts of commands -/

/-- The words of a loop up to the end of their line. -/
def loopWords (inner : Reading (List Command)) : (fuel : Nat) → Reading (List Word)
  | 0 => refuse .tooDeep
  | fuel + 1 => do
    match ← word? inner fuel with
    | some w => return w :: (← loopWords inner fuel)
    | none =>
      match (← get).rest with
      | ';' :: ';' :: _ => unexpected
      | ';' :: _ | '\n' :: _ =>
        advance 1
        return []
      | _ => unexpected

/-- The patterns of a case, up to the parenthesis that closes them. -/
def patterns (inner : Reading (List Command)) : (fuel : Nat) → Reading (List Word)
  | 0 => refuse .tooDeep
  | fuel + 1 => do
    let w ← match ← word? inner fuel with
      | some w => pure w
      | none =>
        let s ← get
        match s.dialect, token s.dialect s.rest with
        -- The plain shell looks only at what follows.
        | .plain, .operator t | .plain, .redirection t =>
          advance t.length
          pure []
        | _, _ => unexpected [')']
    skipSpaces
    match (← get).rest with
    | '|' :: _ =>
      advance 1
      return w :: (← patterns inner fuel)
    | ')' :: _ =>
      advance 1
      return [w]
    | _ => refuseHere inner fuel (← isExtended) [')']

/-- A list of commands that is not empty, unless the text ends. -/
def someCommands (inner : Reading (List Command)) : Reading (List Command) := do
  match ← inner with
  | [] => if (← get).rest = [] then return [] else unexpected
  | cs => return cs

/-- The branches after `if` or `elif`. -/
def branch (inner : Reading (List Command)) : (fuel : Nat) → Reading Command
  | 0 => refuse .tooDeep
  | fuel + 1 => do
    let condition ← someCommands inner
    keyword inner fuel "then"
    let yes ← someCommands inner
    skipLines
    if ← atWord "elif" then
      advance 4
      return .branch condition yes [← branch inner fuel]
    else if ← atWord "else" then
      advance 4
      let no ← someCommands inner
      keyword inner fuel "fi"
      return .branch condition yes no
    else
      keyword inner fuel "fi"
      return .branch condition yes []

/-- The commands that a loop repeats. -/
def rounds (inner : Reading (List Command)) (fuel : Nat) : Reading (List Command) := do
  skipLines
  if (← isExtended) && (← atWord "\x7b") then
    advance 1
    let body ← someCommands inner
    keyword inner fuel "\x7d"
    return body
  else
    keyword inner fuel "do"
    let body ← someCommands inner
    keyword inner fuel "done"
    return body

/-- A loop that counts, from its parentheses on. -/
def counting (inner : Reading (List Command)) (fuel : Nat) : Reading Command := do
  markOpened
  let start ← get
  advance 2
  let rest := (← get).rest
  match closing? none 0 rest with
  | none => unclosed ')'
  | some n =>
    advance (n + 1)
    if (← get).rest.head? ≠ some ')' then unexpected
    advance 1
    let sums := (rest.take n).splitOn ';'
    let parts ← sums.mapM fun t => within (t.filter (· ≠ '"')) (parts inner fuel .document)
    skipSpaces
    if (← get).rest.head? = some ';' then advance 1
    let body ← rounds inner fuel
    match parts with
    | [first, condition, step] => return .count start.here first condition step body
    | _ =>
      throw ⟨start.line, .badCount (rest.take n) (sums.length < 3), start.openDocuments, false⟩

/-- The cases of a choice, up to its end. -/
def cases (inner : Reading (List Command)) :
    (fuel : Nat) → Reading (List (List Word × List Command × CaseEnd))
  | 0 => refuse .tooDeep
  | fuel + 1 => do
    skipLines
    let rest := (← get).rest
    if front rest = "esac".toList then
      advance 4
      return []
    else
      if rest.head? = some '(' then advance 1
      let ps ← patterns inner fuel
      let body ← inner
      skipLines
      match (← get).rest, ← isExtended with
      | ';' :: ';' :: '&' :: _, true =>
        advance 3
        return (ps, body, .goOn) :: (← cases inner fuel)
      | ';' :: ';' :: _, _ =>
        advance 2
        return (ps, body, .over) :: (← cases inner fuel)
      | ';' :: '&' :: _, true =>
        advance 2
        return (ps, body, .fallThrough) :: (← cases inner fuel)
      | _, _ =>
        if ← atWord "esac" then
          advance 4
          return [(ps, body, .over)]
        else refuseHere inner fuel true ";;".toList

/-- The commands whose arguments may be assignments. -/
def assigning : List String := ["declare", "typeset", "local", "export", "readonly"]

/-- Is a word one of the commands whose arguments may be assignments? -/
def isAssigning (w : Word) : Bool :=
  match plain? w with
  | some (t, false) => assigning.any (·.toList = t)
  | _ => false

/-- A word with the list that follows it, if it is an assignment of one. -/
def withList (inner : Reading (List Command)) (fuel : Nat) (w : Word) : Reading Word := do
  let s ← get
  match if s.rest.head? = some '(' then assignment? s.dialect w else none with
  | some (.one _ none _ []) =>
    return w ++ [.list (← list inner fuel)]
  | _ => return w

/-- What a function of the extended shell does, which is no simple command. -/
def groupedBody (inner : Reading (List Command)) (body : Reading Command) (fuel : Nat) :
    Reading Command := do
  skipLines
  let s ← get
  let begins := ["\x7b", "if", "for", "while", "until", "case", "select", "[["]
  if s.rest.head? = some '(' || begins.any (·.toList = front s.rest) then body
  else refuseHere inner fuel true

/-- A simple command or the definition of a function, of which some parts have been read; `body`
reads what a function does. -/
def simple (inner : Reading (List Command)) (body : Reading Command) :
    (fuel line : Nat) → List Assignment → List Word → List Redirection → Reading Command
  | 0, _, _, _, _ => refuse .tooDeep
  | fuel + 1, line, assignments, words, rs => do
    skipSpaces
    let s ← get
    -- The extended shell tells the line in which the second part ends.
    let isSecond := s.dialect = .extended && isSingle assignments words rs
    match ← redirection inner fuel with
    | r :: more =>
      let line := if isSecond then s.here else line
      simple inner body fuel line assignments words (rs ++ r :: more)
    | [] =>
      if words.isEmpty || (← get).again then
        modify ({ · with again := false })
        replaceAlias 100
      let before ← get
      let next ← if words.isEmpty then firstWord? inner fuel else word? inner fuel
      let now ← get
      let name := before.rest.take (front before.rest).length
      let line := if isSecond then now.here else line
      match next with
      | none =>
        if assignments.isEmpty && words.isEmpty && rs.isEmpty then unexpected
        else return .simple line assignments words rs
      | some w =>
        let s ← get
        let isList := s.dialect = .extended && s.rest.head? = some '('
        match if words.isEmpty then assignment? s.dialect w else none with
        | some (.one name none adds []) =>
          if isList then
            let new := .all name adds (← list inner fuel)
            simple inner body fuel line (assignments ++ [new]) words rs
          else simple inner body fuel line (assignments ++ [.one name none adds []]) words rs
        | some a => simple inner body fuel line (assignments ++ [a]) words rs
        | none =>
          if isList && (words.head?.any isAssigning) then
            simple inner body fuel line assignments (words ++ [← withList inner fuel w]) rs
          else
            skipSpaces
            let nothing := assignments.isEmpty && words.isEmpty && rs.isEmpty
            if (← get).rest.head? = some '(' && nothing then
              advance 1
              skipSpaces
              if (← get).rest.head? ≠ some ')' then refuseHere inner fuel true [')']
              else
                advance 1
                if s.dialect = .extended then return .define name (← groupedBody inner body fuel)
                else
                  match plain? w with
                  | some (name, false) =>
                    if isName name then
                      skipLines
                      return .define name (← body)
                    else refuse .badFunctionName
                  | _ => refuse .badFunctionName
            else simple inner body fuel line assignments (words ++ [w]) rs
where
  isSingle : List Assignment → List Word → List Redirection → Bool
    | [_], [], [] | [], [_], [] | [], [], [_] => true
    | _, _, _ => false

/-! ## Commands -/

/-- The name and the words of a loop over words. The extended shell looks at the name only when the
loop is run. -/
def eachOf (inner : Reading (List Command)) (fuel : Nat) :
    Reading (Text × Option (List Word) × List Command) := do
  skipSpaces
  let s ← get
  match ← word? inner fuel with
  | none =>
    if s.dialect = .extended then unexpected
    else
      if s.rest.head? = some '\n' then advance 1
      refuse .badLoopVariable
  | some w =>
    let after ← get
    let name := s.rest.take (s.rest.length - after.rest.length)
    if s.dialect = .plain && (!isName name || w.length ≠ 1) then refuse .badLoopVariable
    else
      skipLines
      let ws ← if ← atWord "in" then do
          advance 2
          pure (some (← loopWords inner fuel))
        else do
          if (← get).rest.head? = some ';' then advance 1
          pure none
      return (name, ws, ← rounds inner fuel)

/-- A simple command or one that is put together, without the redirections of the latter. -/
def bareCommand (inner : Reading (List Command)) (body : Reading Command) (fuel : Nat) :
    Reading (Command × Bool) := do
  replaceAlias 100
  let s ← get
  let word := front s.rest
  let plain : Reading (Command × Bool) :=
    return (← simple inner body fuel s.here [] [] [], false)
  let isExtended := s.dialect = .extended
  match String.ofList word with
  | "if" =>
    advance 2
    return (← branch inner fuel, true)
  | "while" | "until" =>
    advance 5
    let condition ← someCommands inner
    return (.loop (word = "while".toList) condition (← rounds inner fuel), true)
  | "for" =>
    advance 3
    skipSpaces
    if isExtended && (← at? "((") then return (← counting inner fuel, true)
    else
      let (name, words, body) ← eachOf inner fuel
      return (.each s.here name words body, true)
  | "select" =>
    if isExtended then
      advance 6
      let (name, words, body) ← eachOf inner fuel
      return (.select s.here name words body, true)
    else plain
  | "case" =>
    advance 4
    match ← word? inner fuel with
    | none => unexpected "word".toList
    | some w =>
      keyword inner fuel "in"
      return (.choice s.here w (← cases inner fuel), true)
  | "\x7b" =>
    advance 1
    let commands ← someCommands inner
    keyword inner fuel "\x7d"
    return (.group commands, true)
  | "[[" =>
    if isExtended then
      advance 2
      return (.condition s.here (← bracketed inner fuel), true)
    else plain
  | "function" =>
    if isExtended then
      advance 8
      skipSpaces
      let before ← get
      match ← word? inner fuel with
      | none => unexpected
      | some _ =>
        let name := front before.rest
        skipSpaces
        if (← at? "()") then advance 2
        return (.define name (← groupedBody inner body fuel), false)
    else plain
  | _ =>
    let subshell : Reading (Command × Bool) := do
      advance 1
      let commands ← someCommands inner
      close
      return (.subshell commands, true)
    let encloses? := if isExtended && "((".toList.isPrefixOf s.rest then
        some (enclosesSum? (s.rest.drop 2))
      else none
    if encloses? = some none then
      markOpened
      unclosed ')'
    else if encloses? = some (some true) then
      let sum ← opening do
        advance 2
        parts inner fuel (.sum 0)
      let now ← get
      return (.sum s.here (showingWhole true (s.rest.drop 2) now.rest 2 sum), true)
    else if s.rest.head? = some '(' then subshell
    else if keywords.any (·.toList = word) || (isExtended && word = "]]".toList) then unexpected
    else plain

/-- The members of a pipeline. -/
def members (one : Reading Command) : (fuel : Nat) → Reading (List Command)
  | 0 => refuse .tooDeep
  | fuel + 1 => do
    let c ← one
    skipSpaces
    match (← get).rest with
    | '|' :: '|' :: _ => return [c]
    | '|' :: t =>
      if t.head? = some '&' && (← isExtended) then
        advance 2
        skipLines
        return .redirected c [⟨.number 2, .duplicate, [.text ['1'] true]⟩] ::
          (← members one fuel)
      else
        advance 1
        skipLines
        return c :: (← members one fuel)
    | _ => return [c]

/-- Commands with pipes between them, of which `one` reads each. -/
def pipeline (one : Reading Command) : (fuel : Nat) → Reading Command
  | 0 => refuse .tooDeep
  | fuel + 1 => do
    skipSpaces
    if ← atWord "!" then
      advance 1
      skipSpaces
      let ends := (← isExtended) && (← get).rest.head?.any fun c => c = '\n' || c = ';'
      if ends then return .pipeline true [.group []]
      else if ← atWord "!" then return .pipeline true [← pipeline one fuel]
      else return .pipeline true (← members one fuel)
    else if (← isExtended) && (← atWord "time") then
      advance 4
      skipSpaces
      let brief ← atWord "-p"
      if brief then advance 2
      skipSpaces
      match (← get).rest with
      | [] | '\n' :: _ | ';' :: _ => return .timed brief (.group [])
      | _ => return .timed brief (← pipeline one fuel)
    else match ← members one fuel with
      | [c] => return c
      | cs => return .pipeline false cs

/-- The rest of a list whose commands depend on one another. -/
def linked (one : Reading Command) : (fuel : Nat) → Command → Reading Command
  | 0, _ => refuse .tooDeep
  | fuel + 1, first => do
    skipSpaces
    let link? : Option Link := match (← get).rest with
      | '&' :: '&' :: _ => some .ifOk
      | '|' :: '|' :: _ => some .ifNot
      | _ => none
    match link? with
    | none => return first
    | some link =>
      advance 2
      skipLines
      linked one fuel (.list first link (← pipeline one fuel))

/-- A list whose commands depend on one another, with its text. -/
def chain (one : Reading Command) (fuel : Nat) : Reading (Command × Text) := do
  let before := (← get).rest
  let c ← linked one fuel (← pipeline one fuel)
  skipSpaces
  let t := before.take (before.length - (← get).rest.length)
  return (c, Text.dropEndWhile (fun ch => ch = ' ' || ch = '\t') t)

mutual

/-- One command with its redirections. -/
def command : (fuel : Nat) → Reading Command
  | 0 => refuse .tooDeep
  | fuel + 1 => do
    let (c, compound) ← bareCommand (commands fuel) (command fuel) fuel
    if !compound then return c
    match ← redirections (commands fuel) fuel with
    | [] => return c
    | rs => return .redirected c rs

/-- Commands up to the end of the list. -/
def commands : (fuel : Nat) → Reading (List Command)
  | 0 => refuse .tooDeep
  | fuel + 1 => do
    skipToCommand
    if endsList (← get).rest then return []
    else
      let (c, t) ← chain (command fuel) fuel
      match (← get).rest with
      | ';' :: ';' :: _ | ';' :: '&' :: _ => return [c]
      | ';' :: _ =>
        advance 1
        return c :: (← commands fuel)
      | '&' :: _ =>
        advance 1
        return .background c t :: (← commands fuel)
      | '\n' :: _ => return c :: (← commands fuel)
      | _ => return [c]

end

/-- Commands up to the end of the line. -/
def line : (fuel : Nat) → Reading (List Command)
  | 0 => refuse .tooDeep
  | fuel + 1 => do
    let (c, t) ← chain (command fuel) fuel
    match (← get).rest with
    | ';' :: ';' :: _ => unexpected
    | ';' :: _ =>
      advance 1
      return c :: (← more fuel)
    | '&' :: _ =>
      advance 1
      return .background c t :: (← more fuel)
    | [] | '\n' :: _ => return c :: (← more fuel)
    | _ => refuseHere (commands fuel) fuel true
where
  /-- A line may end after a semicolon. -/
  more (fuel : Nat) : Reading (List Command) := do
    skipSpaces
    match (← get).rest with
    | [] => return []
    | '\n' :: _ =>
      advance 1
      return []
    | _ => line fuel

end Reader

/-- The next commands of a script, with the rest of it. -/
def Source.next? (src : Source) : Option (Except Misread (List Command × Source)) :=
  match Reader.skipLines.run src with
  | .error e => some (.error e)
  | .ok ((), src) =>
    if src.rest = [] then none else some ((Reader.line (16 * src.rest.length + 64)).run src)

end GoRepl.Machine.Shell
