import GoRepl.TestBed.Command.Basic
import GoRepl.TestBed.Shell.Source

/-! # Test bed: reading words

The parts of words: quoted and unquoted text, parameters with what is made of them, and commands in
place of what they print. -/

namespace GoRepl.Machine.Shell.Reader

/-- Where a part of a word stands. -/
inductive Context where
  | bare
  | quotes
  | brace (quoted : Bool)
  | sum (depth : Nat)
  | document
  /-- Inside of the brackets of an index. -/
  | index (depth : Nat)
  /-- Inside of a group in a pattern. -/
  | group
  /-- Inside of a regular expression. -/
  | regex (depth : Nat)
deriving DecidableEq, Repr

def Context.isQuoted : Context → Bool
  | .bare | .brace false | .index _ | .group | .regex _ => false
  | _ => true

/-- How many characters end the parts at this place, if they end here. -/
def Context.end? : Context → Text → Option Nat
  | .bare, c :: _ => if isMeta c then some 0 else none
  | .quotes, '"' :: _ => some 1
  | .brace _, '\x7d' :: _ => some 1
  | .sum 0, ')' :: ')' :: _ => some 2
  | .index 0, ']' :: _ => some 1
  | .group, ')' :: _ => some 1
  | .regex 0, c :: _ => if c = ')' || c = ' ' || c = '\t' || c = '\n' then some 0 else none
  | _, _ => none

/-- A script may end in a word or a document, but not inside quotes. -/
def Context.finish : Context → Reading (List Part)
  | .bare | .document | .regex _ => return []
  | .quotes => unclosed '"'
  | .brace _ => unclosed '\x7d'
  | .sum _ | .group => unclosed ')'
  | .index _ => unclosed ']'

/-- Parentheses inside an arithmetic expression are counted. -/
def Context.after (c : Char) : Context → Context
  | .sum depth => .sum (if c = '(' then depth + 1 else if c = ')' then depth - 1 else depth)
  | .regex depth => .regex (if c = '(' then depth + 1 else if c = ')' then depth - 1 else depth)
  | .index depth => .index (if c = '[' then depth + 1 else if c = ']' then depth - 1 else depth)
  | context => context

/-- Does a backslash take the meaning from a character? -/
def Context.escapes (c : Char) : Context → Bool
  | .bare | .brace false | .index _ | .group | .regex _ => true
  | .quotes => "$`\\\"".toList.contains c
  | .brace true => "$`\\\"\x7d".toList.contains c
  | .sum _ | .document => "$`\\".toList.contains c

/-- May quotes begin here? -/
def Context.quotes? : Context → Bool
  | .quotes | .document | .sum _ => false
  | _ => true

/-- The commands between two backquotes, and what follows. A backslash before a backquote, a dollar
sign or another backslash belongs to the quotes. -/
def backquoted? (quoted : Bool) : Text → Option (Text × Text)
  | [] => none
  | '`' :: t => some ([], t)
  | '\\' :: c :: t =>
    let kept : Text := if "`\\$".toList.contains c || (quoted && c == '"') then [c] else ['\\', c]
    (backquoted? quoted t).map fun (inner, t) => (kept ++ inner, t)
  | c :: t => (backquoted? quoted t).map fun (inner, t) => (c :: inner, t)

/-- The name of a parameter at the start of a text. -/
def paramName? : Text → Option (Text × Text)
  | [] => none
  | c :: t =>
    if Text.isDigit c then some ((c :: t).takeWhile Text.isDigit, (c :: t).dropWhile Text.isDigit)
    else if isNameStart c then some ((c :: t).takeWhile isNameChar, (c :: t).dropWhile isNameChar)
    else if isSpecial c then some ([c], t)
    else none

/-- The characters of a text in which escapes stand for others. -/
def unescaped : (fuel : Nat) → Text → Text
  | 0, t => t
  | _ + 1, [] => []
  | fuel + 1, '\\' :: c :: t =>
    if c == '\'' || c == '"' || c == '?' then c :: unescaped fuel t
    else match escape? true false (c :: t) with
      | some (shown, t) => shown ++ unescaped fuel t
      | none => '\\' :: c :: unescaped fuel t
  | fuel + 1, c :: t => c :: unescaped fuel t

/-- The text up to the next single quote that has no backslash before it, and what follows. -/
def cutAtQuote? : Text → Option (Text × Text)
  | [] => none
  | '\'' :: t => some ([], t)
  | '\\' :: c :: t => (cutAtQuote? t).map fun (inner, t) => ('\\' :: c :: inner, t)
  | c :: t => (cutAtQuote? t).map fun (inner, t) => (c :: inner, t)

/-- Parts with a text before them. -/
def withText (t : Text) (parts : Word) : Word := if t = [] then parts else .text t false :: parts

/-- The parts before and after a mark in unquoted text. -/
def splitWord? (mark : Text) : Word → Option (Word × Word)
  | [] => none
  | .text t false :: parts =>
    match cutAtMark? mark t with
    | some (before, after) => some (withText before [], withText after parts)
    | none => (splitWord? mark parts).map fun (a, b) => (.text t false :: a, b)
  | p :: parts => (splitWord? mark parts).map fun (a, b) => (p :: a, b)
where
  cutAtMark? (mark : Text) : Text → Option (Text × Text)
    | [] => none
    | c :: t =>
      match Text.after? mark (c :: t) with
      | some rest => some ([], rest)
      | none => (cutAtMark? mark t).map fun (a, b) => (c :: a, b)

/-- The name of a variable, whether its value is added to, and what follows it in an assignment. -/
def assigned? (d : Dialect) (before : Text) : Option (Text × Bool) :=
  if isName before then some (before, false)
  else if d = .extended && before.getLast? = some '+' && isName before.dropLast then
    some (before.dropLast, true)
  else none

/-- The parts of a slice before and after the colon that divides it, which does not stand behind a
question mark. -/
def splitSlice (w : Word) : Option (Word × Word) :=
  match splitWord? [':'] w with
  | some (start, length) =>
    let chooses (p : Part) : Bool := match p with
      | .text t false => t.contains '?'
      | _ => false
    if start.any chooses then none else some (start, length)
  | none => none

/-- Unquoted text in front of other parts, of which it becomes one with such text. -/
def joined (t : Text) : Word → Word
  | .text t' false :: parts => .text (t ++ t') false :: parts
  | parts => withText t parts

/-- The parts before and after the bracket that ends an index, inside of which `depth` more are
open. -/
def cutIndex? : (depth : Nat) → Word → Option (Word × Word)
  | _, [] => none
  | depth, .text t false :: parts =>
    match closing depth t with
    | .ok n => some (withText (t.take n) [], withText (t.drop (n + 1)) parts)
    | .error depth => (cutIndex? depth parts).map fun (a, b) => (.text t false :: a, b)
  | depth, p :: parts => (cutIndex? depth parts).map fun (a, b) => (p :: a, b)
where
  /-- The place of the bracket in a text, or how many are open behind the text. -/
  closing : (depth : Nat) → Text → Except Nat Nat
    | depth, [] => .error depth
    | depth, c :: t =>
      if c == ']' then
        if depth = 0 then .ok 0 else (closing (depth - 1) t).map (· + 1)
      else (closing (if c == '[' then depth + 1 else depth) t).map (· + 1)

/-- Let the parts that cannot be read stand with the whole text around them, which begins where
`before` does and ends `n` characters before `after`. -/
def showingWhole (quoted : Bool) (before after : Text) (n : Nat) (parts : Word) : Word :=
  let isBad (p : Part) : Bool := match p with
    | .param _ (.bad _) q => q = quoted
    | _ => false
  if parts.any isBad then
    let whole := before.take (before.length - after.length - n)
    parts.map fun p => if isBad p then .param [] (.bad whole) quoted else p
  else parts

/-- The value of an assignment, in which what cannot be read stands without the name. -/
def assignedValue (value : Word) : Word :=
  value.map fun p => match p with
    | .param _ (.bad t) false => .param [] (.bad (t.dropWhile (· ≠ '=')).tail) false
    | p => p

/-- A word that is an assignment. -/
def assignment? (d : Dialect) : Word → Option Assignment
  | .text t false :: parts =>
    let name := t.takeWhile isNameChar
    match t.drop name.length with
    | '[' :: t =>
      if d = .plain || !isName name then none
      else
        match cutIndex? 0 (withText t parts) with
        | some (index, .text ('=' :: t) false :: parts) =>
          some (.one name (some index) false (assignedValue (withText t parts)))
        | some (index, .text ('+' :: '=' :: t) false :: parts) =>
          some (.one name (some index) true (assignedValue (withText t parts)))
        | _ => none
    | _ =>
      match (Text.cutAt? '=' t).bind fun (before, value) => (assigned? d before).map (·, value) with
      | some ((name, adds), value) =>
        some (.one name none adds (assignedValue (withText value parts)))
      | none => none
  | _ => none

/-- The text of a word without parameters, and whether some of it is quoted. -/
def plain? (w : Word) : Option (Text × Bool) :=
  w.foldlM (fun (t, quoted) p => match p with
    | .text t' quoted' => some (t ++ t', quoted || quoted')
    | _ => none) ([], false)

/-- How many characters stand before the parenthesis that closes one which has been read. Inside of
it `depth` more are open, and perhaps quotes. -/
def closing? : (quote : Option Char) → (depth : Nat) → Text → Option Nat
  | _, _, [] => none
  | some '\'', depth, c :: t =>
    (closing? (if c = '\'' then none else some '\'') depth t).map (· + 1)
  | quote, depth, '\\' :: _ :: t => (closing? quote depth t).map (· + 2)
  | some quote, depth, c :: t =>
    (closing? (if c = quote then none else some quote) depth t).map (· + 1)
  | none, depth, c :: t =>
    if c = '\'' || c = '"' || c = '`' then (closing? (some c) depth t).map (· + 1)
    else if c = '(' then (closing? none (depth + 1) t).map (· + 1)
    else if c = ')' then
      if depth = 0 then some 0 else (closing? none (depth - 1) t).map (· + 1)
    else (closing? none depth t).map (· + 1)

/-- Do two parentheses that have been read enclose an expression? Then they are closed by two as
well. Nothing is known of a text in which they are not closed. -/
def enclosesSum? (t : Text) : Option Bool :=
  (closing? none 0 t).map fun n => (t.drop (n + 1)).head? = some ')'

/-! ## Words

The commands of a substitution are read by `inner`. -/

mutual

/-- The parts from here to the end of their context. -/
def parts (inner : Reading (List Command)) : (fuel : Nat) → Context → Reading (List Part)
  | 0, _ => refuse .tooDeep
  | fuel + 1, context => do
    let s ← get
    let rest := s.rest
    match rest with
    | [] => context.finish
    | c :: t =>
      match context.end? rest with
      | some n =>
        advance n
        return []
      | none =>
        let run := rest.takeWhile isPlain
        if run ≠ [] then
          advance run.length
          let next := rest.drop run.length
          let opens := next.head? = some '(' && s.grouped && context matches .bare | .group
          if opens && run.getLast?.any ("?*+@!".toList.contains ·) then
            advance 1
            let inside ← parts inner fuel .group
            return .text (run ++ ['(']) false :: inside ++
              .text [')'] false :: (← parts inner fuel context)
          else
            let more ← parts inner fuel context
            return if context.isQuoted then .text run true :: more else joined run more
        else if c == '\\' then
          match t with
          | '\n' :: _ =>
            advance 2
            parts inner fuel context
          | d :: _ =>
            if context.escapes d then
              advance 2
              return .text [d] true :: (← parts inner fuel context)
            else
              advance 1
              return .text ['\\'] true :: (← parts inner fuel context)
          | [] =>
            advance 1
            return [.text ['\\'] true]
        else if c == '\'' && !context.isQuoted then
          match Text.cutAt? '\'' t with
          | none =>
            markOpened
            advance rest.length
            unclosed '\''
          | some (t, _) =>
            advance (t.length + 2)
            return .text t true :: (← parts inner fuel context)
        else if c == '"' && context.quotes? then
          let quoted ← opening do
            advance 1
            parts inner fuel .quotes
          let s ← get
          let quoted := showingWhole true t s.rest 1 quoted
          let quoted := if quoted.isEmpty then [.text [] true] else quoted
          return quoted ++ (← parts inner fuel context)
        else if c == '"' && s.dialect = .extended && (context matches .sum _) then
          -- All of an expression counts as quoted.
          advance 1
          parts inner fuel context
        else if c == '$' then
          advance 1
          let p ← dollar inner fuel context
          return p ++ (← parts inner fuel context)
        else if c == '`' then
          match backquoted? context.isQuoted t with
          | none =>
            markOpened
            advance rest.length
            unclosed '`'
          | some (text, after) =>
            let body ← tryCatch (within text do
                modify fun s =>
                  let line := if s.dialect = .plain then 1 else s.line
                  { s with line, first := line, leftOut := none }
                let body ← inner
                let now ← get
                if now.dialect = .extended && now.rest ≠ [] then unexpected
                return body) fun m => do
              if (← isExtended) then return [.text text] else throw m
            advance (rest.length - after.length)
            return .output body context.isQuoted :: (← parts inner fuel context)
        else
          advance 1
          let more ← parts inner fuel (context.after c)
          return if context.isQuoted then .text [c] true :: more else joined [c] more

/-- What a dollar sign stands for together with what follows it. -/
def dollar (inner : Reading (List Command)) : (fuel : Nat) → Context → Reading (List Part)
  | 0, _ => refuse .tooDeep
  | fuel + 1, context => do
    let quoted := context.isQuoted
    let s ← get
    let isExtended := s.dialect = .extended
    match s.rest with
    | '(' :: '(' :: t =>
      match if isExtended then enclosesSum? t else some true with
      | none =>
        markOpened
        unclosed ')'
      | some true =>
        let sum ← opening do
          advance 2
          parts inner fuel (.sum 0)
        let now ← get
        return [.sum (showingWhole true t now.rest 2 sum) quoted]
      | some false =>
        -- Commands that cannot be read are noticed when they are run.
        tryCatch (do
          advance 1
          return [.output (← enclosed inner) quoted]) fun _ => do
          set s
          match closing? none 0 ('(' :: t) with
          | none =>
            markOpened
            unclosed ')'
          | some n =>
            advance (n + 2)
            return [.output [.text (('(' :: t).take n)] quoted]
    | '(' :: _ =>
      advance 1
      let body ← enclosed inner
      return [.output body quoted]
    | '[' :: _ =>
      if isExtended then
        let sum ← opening do
          advance 1
          parts inner fuel (.index 0)
        return [.sum sum quoted]
      else return [.text ['$'] quoted]
    | '\x7b' :: t =>
      let p ← opening do
        advance 1
        braced inner fuel quoted
      let now ← get
      return match p with
        | .element _ [] _ _ =>
          let whole := "$\x7b".toList ++ t.take (t.length - now.rest.length)
          [.param [] (.bad whole) quoted]
        | p => [p]
    | '\'' :: t =>
      match if isExtended && !quoted then cutAtQuote? t else none with
      | some (t, _) =>
        advance (t.length + 2)
        return [.text (unescaped (t.length + 1) t) true]
      | none => return [.text ['$'] quoted]
    | '"' :: _ =>
      -- A text for which there might be another one in the language of the user stays as it is.
      return if isExtended && !quoted then [] else [.text ['$'] quoted]
    | t =>
      match paramName? t with
      | none => return [.text ['$'] quoted]
      | some (name, _) =>
        let name := if name.head?.any Text.isDigit then name.take 1 else name
        advance name.length
        -- In a document there are blanks between all arguments.
        let isBlanked := isExtended && name = ['*'] && context matches .document
        return [.param (if isBlanked then ['@'] else name) .value quoted]

/-- A parameter in braces; the opening brace has been read. -/
def braced (inner : Reading (List Command)) : (fuel : Nat) → (quoted : Bool) → Reading Part
  | 0, _ => refuse .tooDeep
  | fuel + 1, quoted => do
    let s ← get
    let rest := s.rest
    let isExtended := s.dialect = .extended
    let measured : Option (Text × Text) := match rest with
      | '#' :: t => (paramName? t).filter fun (_, t) =>
        t.head? = some '\x7d' || (isExtended && t.head? = some '[')
      | _ => none
    match measured with
    | some (name, _) =>
      advance (name.length + 1)
      let part ← subscripted fuel quoted name
      match (← get).rest with
      | '\x7d' :: _ =>
        advance 1
        return part .length
      | _ => bad fuel quoted rest
    | none =>
      match if isExtended then pointed rest else none with
      | some (name, _) =>
        advance (name.length + 1)
        let part ← subscripted fuel quoted name
        match (← get).rest, part .value with
        | '\x7d' :: _, .element _ [.text t _] _ _ =>
          advance 1
          return part (if t = ['@'] || t = ['*'] then .keys else .indirect .value)
        | '*' :: '\x7d' :: _, _ =>
          advance 2
          return .param name .names false
        | '@' :: '\x7d' :: _, _ =>
          advance 2
          return .param name .names quoted
        | _, _ => used fuel quoted isExtended rest fun use => part (.indirect use)
      | none =>
        match paramName? rest with
        | none => bad fuel quoted rest
        | some (name, _) =>
          advance name.length
          let part ← subscripted fuel quoted name
          used fuel quoted isExtended rest part
where
  /-- A parameter whose name is the value of another one. -/
  pointed : Text → Option (Text × Text)
    | '!' :: t => (paramName? t).filter fun (name, t) => isName name || name.all Text.isDigit ||
        (t.head? = some '\x7d' && name ≠ ['!'])
    | _ => none
  /-- A parameter that may have an index. -/
  subscripted (fuel : Nat) (quoted : Bool) (name : Text) : Reading (Use → Part) := do
    let s ← get
    if s.rest.head? = some '[' && s.dialect = .extended && isName name then
      let index ← opening do
        advance 1
        parts inner fuel (.index 0)
      let index := match index with
        | [.text t _] => [.text t false]
        | index => index
      return fun use => .element name index use quoted
    else return fun use => .param name use quoted
  /-- What is made of a parameter. -/
  used (fuel : Nat) (quoted isExtended : Bool) (whole : Text) (part : Use → Part) :
      Reading Part := do
    let use (n : Nat) (context : Context) (make : Word → Use) : Reading Part := do
      advance n
      let before ← get
      let word ← parts inner fuel context
      let after ← get
      return part (make (showingWhole context.isQuoted before.rest after.rest 1 word))
    let extended (n : Nat) (make : Word → Use) : Reading Part :=
      if isExtended then use n (.brace false) make else bad fuel quoted whole
    match (← get).rest with
    | '\x7d' :: _ =>
      advance 1
      return part .value
    | '%' :: '%' :: _ => use 2 (.brace false) (.trim true true)
    | '%' :: _ => use 1 (.brace false) (.trim true false)
    | '#' :: '#' :: _ => use 2 (.brace false) (.trim false true)
    | '#' :: _ => use 1 (.brace false) (.trim false false)
    | '@' :: op :: '\x7d' :: _ =>
      if isExtended then
        advance 3
        return part (.form op)
      else bad fuel quoted whole
    | '/' :: c :: _ =>
      let isPlace := c = '/' || c = '#' || c = '%'
      extended (if isPlace then 2 else 1) fun w =>
        match splitWord? ['/'] w with
        | some (pattern, new) => .replace (if isPlace then c else ' ') pattern new
        | none => .replace (if isPlace then c else ' ') w []
    | ':' :: '\x7d' :: _ =>
      if !isExtended then advance 2
      bad fuel quoted whole
    | ':' :: op :: _ =>
      if "-=?+".toList.contains op then use 2 (.brace quoted) (.choose op true)
      else extended 1 fun w =>
        match splitSlice w with
        | some (start, length) => .slice start (some length)
        | none => .slice w none
    | op :: rest =>
      if "-=?+".toList.contains op then use 1 (.brace quoted) (.choose op false)
      else if "^,~".toList.contains op then
        let all := rest.head? = some op
        extended (if all then 2 else 1) (.recase op all)
      else bad fuel quoted whole
    | [] => bad fuel quoted whole
  bad (fuel : Nat) (quoted : Bool) (whole : Text) : Reading Part := do
    -- The end of a line right after the name is not counted.
    modify fun s => if s.rest.head? = some '\n' && s.dialect = .plain then
      { s with rest := s.rest.tail } else s
    let _ ← parts inner fuel (.brace quoted)
    let s ← get
    let t := whole.take (whole.length - s.rest.length)
    return .param [] (.bad ("$\x7b".toList ++ t)) quoted

end

/-- The commands after a sign that makes a stream of them, and what follows the parenthesis. -/
def streamed (inner : Reading (List Command)) (fuel : Nat) (reads : Bool) : Reading Word := do
  advance 2
  let body ← enclosed inner
  return .stream reads body :: (← parts inner fuel .bare)

/-- The word that begins here, if one does. -/
def word? (inner : Reading (List Command)) (fuel : Nat) : Reading (Option Word) := do
  skipSpaces
  let s ← get
  match s.rest with
  | [] => return none
  | '<' :: '(' :: _ =>
    if s.dialect = .extended then return some (← streamed inner fuel true) else return none
  | '>' :: '(' :: _ =>
    if s.dialect = .extended then return some (← streamed inner fuel false) else return none
  | c :: _ =>
    if isMeta c then return none
    else
      let word ← parts inner fuel .bare
      let after ← get
      return some (showingWhole false s.rest after.rest 0 word)

/-- Refuse what stands here. A word is read before, in which there may be another problem; it may be
one that is `known` for its place in a command. -/
def refuseHere {α : Type} (inner : Reading (List Command)) (fuel : Nat) (known : Bool)
    (expected : Text := []) : Reading α := do
  skipSpaces
  let before ← get
  match ← word? inner fuel with
  | none => unexpected expected
  | some _ =>
    let after ← get
    let t := before.rest.take (before.rest.length - after.rest.length)
    let token := match token before.dialect before.rest with
      | .word _ => .word t
      | .keyword t => if known then .keyword t else .word t
      | token => token
    throw ⟨after.line, .unexpected token expected, after.openDocuments, false⟩

/-- Pass a word that must stand here. -/
def keyword (inner : Reading (List Command)) (fuel : Nat) (k : String) : Reading Unit := do
  skipLines
  if ← atWord k then advance k.length else refuseHere inner fuel true k.toList

/-- The word that begins here at a place where an assignment may stand. The index of an element goes
on up to its bracket. -/
def firstWord? (inner : Reading (List Command)) (fuel : Nat) : Reading (Option Word) := do
  skipSpaces
  let s ← get
  let name := s.rest.takeWhile isNameChar
  if s.dialect = .extended && isName name && (s.rest.drop name.length).head? = some '[' then
    let index ← opening do
      advance (name.length + 1)
      parts inner fuel (.index 0)
    let after ← parts inner fuel .bare
    return some (joined (name ++ ['[']) (index ++ joined [']'] after))
  else word? inner fuel

/-! ## Redirections -/

/-- The operator of a redirection, its length, and the stream that it is about if no other is
named. -/
def redirection? (d : Dialect) : Text → Option (RedirectionKind × Nat × Nat)
  | '&' :: '>' :: '>' :: _ => if d = .extended then some (.append, 3, 1) else none
  | '&' :: '>' :: _ => if d = .extended then some (.write, 2, 1) else none
  | '<' :: '<' :: '<' :: _ =>
    if d = .extended then some (.document, 3, 0) else some (.document, 2, 0)
  | '<' :: '<' :: _ => some (.document, 2, 0)
  | '<' :: '&' :: _ => some (.duplicate, 2, 0)
  | '<' :: '>' :: _ => some (.readWrite, 2, 0)
  | '<' :: '(' :: _ => if d = .extended then none else some (.read, 1, 0)
  | '<' :: _ => some (.read, 1, 0)
  | '>' :: '>' :: _ => some (.append, 2, 1)
  | '>' :: '&' :: _ => some (.duplicate, 2, 1)
  | '>' :: '|' :: _ => some (.clobber, 2, 1)
  | '>' :: '(' :: _ => if d = .extended then none else some (.write, 1, 1)
  | '>' :: _ => some (.write, 1, 1)
  | _ => none

/-- Does a line go on in the next one? -/
def goesOn (l : Text) : Bool := (l.reverse.takeWhile (· == '\\')).length % 2 = 1

/-- The lines of a document up to its end mark, and what follows that if it is there. Unless the
document is `literal`, a line in which the one before goes on is no mark. -/
def cutDocument (mark : Text) (tabs literal : Bool) :
    (isOpen : Bool) → List Text → List Text × Option (List Text)
  | _, [] => ([], none)
  | isOpen, l :: ls =>
    let l := if tabs && !isOpen then l.dropWhile (· == '\t') else l
    if l = mark && !isOpen then ([], some ls)
    else
      let (inside, after) := cutDocument mark tabs literal (!literal && goesOn l) ls
      (l :: inside, after)

/-- Take a document out of the text after the current line. -/
def takeDocument (mark : Text) (tabs literal : Bool) : Reading Text := do
  let s ← get
  let here := s.rest.takeWhile (· != '\n')
  let start := s.line + s.taken
  let note (last : Nat) : List OpenDocument :=
    s.openDocuments ++ if s.dialect = .extended then [⟨mark, start, last⟩] else []
  match s.rest.dropWhile (· != '\n') with
  | [] =>
    set { s with openDocuments := note start }
    return []
  | _ :: below =>
    let ls := below.splitOn '\n'
    let (ls, last) := if ls.getLast? = some [] then (ls.dropLast, true) else (ls, false)
    let (inside, after?) := cutDocument mark tabs literal false ls
    let n := inside.length + if after?.isSome then 1 else 0
    let after := (after?.getD []).flatMap (· ++ ['\n'])
    let after := if last then after else after.dropLast
    set { s with
      rest := here ++ '\n' :: after, taken := s.taken + n
      openDocuments := if after?.isSome then s.openDocuments else note (start + n) }
    return inside.flatMap (· ++ ['\n'])

/-- An end mark as it is written, without its quotes, and whether it has some. -/
def rawMark (t : Text) : Text × Bool :=
  let isQuote (c : Char) : Bool := c = '\'' || c = '"' || c = '\\'
  (t.filter (!isQuote ·), t.any isQuote)

/-- The stream that is named before the operator of a redirection, and its length. -/
def outlet? (d : Dialect) (t : Text) : Option (Outlet × Nat) :=
  let isOperator (t : Text) : Bool := t.head? = some '<' || t.head? = some '>'
  let digits := t.takeWhile Text.isDigit
  let mayBeLong := d = .extended || digits.length = 1
  if digits ≠ [] && mayBeLong && isOperator (t.drop digits.length) then
    (natural? digits).map fun n => (.number n, digits.length)
  else match t with
    | '\x7b' :: t =>
      let name := t.takeWhile isNameChar
      match t.drop name.length with
      | '\x7d' :: after =>
        if d = .extended && isName name && isOperator after then
          some (.variable name, name.length + 2)
        else none
      | _ => none
    | _ => none

/-- The redirections that an operator here stands for, if there is one. -/
def redirection (inner : Reading (List Command)) (fuel : Nat) : Reading (List Redirection) := do
  skipSpaces
  let s ← get
  let given := outlet? s.dialect s.rest
  let t := s.rest.drop ((given.map Prod.snd).getD 0)
  match redirection? s.dialect t with
  | none => return []
  | some (kind, n, standard) =>
    let outlet := (given.map Prod.fst).getD (.number standard)
    advance (n + (given.map Prod.snd).getD 0)
    let target : Reading Word := do
      match ← word? inner fuel with
      | none => unexpected
      | some w => return w
    if t.head? = some '&' then
      return [⟨.number 1, kind, ← target⟩, ⟨.number 2, .duplicate, [.text ['1'] true]⟩]
    else if kind = .document && n = 3 then
      return [⟨outlet, kind, (← target) ++ [.text ['\n'] true]⟩]
    else if kind = .document then
      let tabs := (← get).rest.head? = some '-'
      if tabs then advance 1
      skipSpaces
      let before := (← get).rest
      let w ← target
      let written := before.take (before.length - (← get).rest.length)
      let (mark, literal) := (plain? w).getD (rawMark written)
      let t ← takeDocument mark tabs literal
      if literal then return [⟨outlet, kind, [.text t true]⟩]
      else
        let word ← within t (parts inner fuel .document)
        return [⟨outlet, kind, showingWhole true t [] 0 word⟩]
    else return [⟨outlet, kind, ← target⟩]

def redirections (inner : Reading (List Command)) : (fuel : Nat) → Reading (List Redirection)
  | 0 => refuse .tooDeep
  | fuel + 1 => do
    match ← redirection inner fuel with
    | [] => return []
    | rs => return rs ++ (← redirections inner fuel)

/-- The elements of a list up to a closing parenthesis, which may have indices. -/
def listed (inner : Reading (List Command)) :
    (fuel : Nat) → Reading (List (Option (Word × Bool) × Word))
  | 0 => refuse .tooDeep
  | fuel + 1 => do
    skipLines
    let s ← get
    let indexed : Option (Word × Bool × Word) ← if s.rest.head? = some '[' then
        tryCatch (do
          advance 1
          let index ← parts inner fuel (.index 0)
          match (← get).rest with
          | '=' :: _ =>
            advance 1
            return some (index, false, ← parts inner fuel .bare)
          | '+' :: '=' :: _ =>
            advance 2
            return some (index, true, ← parts inner fuel .bare)
          | _ =>
            set s
            return none) fun _ => do
          set s
          return none
      else pure none
    match indexed with
    | some (index, adds, w) => return (some (index, adds), w) :: (← listed inner fuel)
    | none =>
      match ← word? inner fuel with
      | some w => return (none, w) :: (← listed inner fuel)
      | none =>
        close
        return []

/-- The elements of a list whose opening parenthesis stands here. -/
def list (inner : Reading (List Command)) (fuel : Nat) :
    Reading (List (Option (Word × Bool) × Word)) := do
  let start := (← get).line
  advance 1
  tryCatch (listed inner fuel) fun m => match m.problem with
    | .unexpected .endOfText _ => throw { m with problem := .unclosed ')' start }
    | .unexpected _ _ => throw { m with goesOn := true }
    | _ => throw m

end GoRepl.Machine.Shell.Reader
