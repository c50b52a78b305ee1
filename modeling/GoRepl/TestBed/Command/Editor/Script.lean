import GoRepl.TestBed.Command.Basic
import GoRepl.TestBed.Command.Format
import GoRepl.TestBed.Regex

/-! # Test bed: scripts of the line editor

What is to be done with lines: instructions, each for the lines that its addresses choose. -/

namespace GoRepl.Machine.Editor

inductive Address where
  | line (n : Nat)
  | last
  | every (first step : Nat)
  | matching (r : Option Regex)
  /-- So many lines after the first one. -/
  | offset (n : Nat)
  /-- Up to the next line whose number is a multiple. -/
  | multiple (n : Nat)
deriving DecidableEq, Repr

/-- A part of a replacement. -/
inductive Piece where
  | text (t : Text)
  | group (n : Nat)
  /-- From here on, or for one character, letters are changed. -/
  | letters (mark : Char)
deriving DecidableEq, Repr

structure Substitution where
  expression : Option Regex
  replacement : List Piece
  global : Bool := false
  nth : Option Nat := none
  prints : Nat := 0
  file : Option Text := none
  ignoreCase : Bool := false
  lines : Bool := false
deriving DecidableEq, Repr

inductive Action where
  | open (endsAt : Nat)
  | close
  | label (name : Text)
  | branch (when? : Option Bool) (name : Text)
  | substitute (s : Substitution)
  | transliterate (table : List (Char × Char))
  | append (t : Text)
  | insert (t : Text)
  | change (t : Text)
  | read (file : Text)
  | readLine (file : Text)
  | write (file : Text) (firstLine : Bool)
  | quit (silent : Bool) (status : Nat)
  /-- Show the space unambiguously, in lines of a length. -/
  | show (width : Option Nat)
  | simple (name : Char)
deriving DecidableEq, Repr

structure Instruction where
  first : Option Address := none
  second : Option Address := none
  negated : Bool := false
  action : Action
deriving DecidableEq, Repr

/-- Why a script cannot be read, and how much of it was left; some things are not noticed at a
place, and some are not taken for a mistake in the script. -/
structure Misread where
  left : Option Nat
  message : Text
  isForeign : Bool := false

abbrev Reading := StateT Text (Except Misread)

/-- Refuse the script where it has been read to. -/
def refuse {α : Type} (message : String) : Reading α := do
  throw { left := some (← get).length, message := message.toList }

/-- Refuse the script after all of it has been read. -/
def refuseAll {α : Type} (message : String) : Reading α := do
  set ([] : Text)
  refuse message

def skip (p : Char → Bool) : Reading Unit := modify (·.dropWhile p)

def isBlank (c : Char) : Bool := c == ' ' || c == '\t'

def isSpace (c : Char) : Bool := c == ' ' || ('\t' ≤ c && c ≤ '\r')

/-! ## Escapes -/

/-- The character of an escape by a number or a letter, and what follows it. -/
def special? : Text → Option (Char × Text)
  | 'a' :: t => some ('\x07', t)
  | 'f' :: t => some ('\x0c', t)
  | 'r' :: t => some ('\r', t)
  | 't' :: t => some ('\t', t)
  | 'v' :: t => some ('\x0b', t)
  | 'c' :: c :: t => some (Char.ofNat (Nat.xor c.toUpper.toNat 64), t)
  | 'd' :: t => based 10 3 t
  | 'o' :: t => based 8 3 t
  | 'x' :: t => based 16 2 t
  | _ => none
where
  based (base n : Nat) (t : Text) : Option (Char × Text) :=
    let ds := (t.take n).takeWhile fun c => (Shell.Expression.digit? base c).isSome
    if ds = [] then none
    else some (Char.ofNat (Shell.Expression.ofDigits base ds % 256), t.drop ds.length)

/-- An expression with the characters of its escapes; those that would have a meaning of their own
are quoted. -/
def regexText : (fuel : Nat) → Text → Text
  | 0, t => t
  | _, [] => []
  | fuel + 1, '\\' :: t =>
    match special? t with
    | some (c, t) =>
      (if "^$.*[]\\/+?(){}|".toList.contains c then ['\\', c] else [c]) ++ regexText fuel t
    | none =>
      match t with
      | c :: t => '\\' :: c :: regexText fuel t
      | [] => ['\\']
  | fuel + 1, c :: t => c :: regexText fuel t

/-- A set in brackets may hold a newline or a tab as an escape. -/
def withSets : (fuel : Nat) → (inside : Bool) → Text → Text
  | 0, _, t => t
  | _, _, [] => []
  | fuel + 1, true, '\\' :: 'n' :: t => '\n' :: withSets fuel true t
  | fuel + 1, true, '\\' :: ']' :: t => '\\' :: ']' :: withSets fuel false t
  | fuel + 1, true, '[' :: ':' :: t =>
    let name := t.takeWhile (· ≠ ':')
    '[' :: ':' :: name ++ ':' :: ']' :: withSets fuel true (t.drop (name.length + 2))
  | fuel + 1, true, c :: t => c :: withSets fuel (c ≠ ']') t
  | fuel + 1, false, '\\' :: c :: t => '\\' :: c :: withSets fuel false t
  | fuel + 1, false, '[' :: '^' :: ']' :: t => '[' :: '^' :: ']' :: withSets fuel true t
  | fuel + 1, false, '[' :: ']' :: t => '[' :: ']' :: withSets fuel true t
  | fuel + 1, false, c :: t => c :: withSets fuel (c = '[') t

/-- The text up to a delimiter that no backslash stands before. A backslash before the delimiter is
left out; delimiters in brackets do not count if `sets`. A newline may end what is no set. -/
def delimited? (d : Char) (sets : Bool) : (fuel : Nat) → Text → Option (Text × Text)
  | 0, _ => none
  | _, [] => none
  | fuel + 1, '\\' :: c :: t =>
    let kept : Text := if c = d then (if d = 'n' || (!sets && d = '&') then ['\\', c] else [c])
      else ['\\', c]
    (delimited? d sets fuel t).map fun (a, b) => (kept ++ a, b)
  | fuel + 1, c :: t =>
    if c = d then some ([], t)
    else if c = '[' && sets && d ≠ '[' then
      match closing? t with
      | some (set, rest) => (delimited? d sets fuel rest).map fun (a, b) => ('[' :: set ++ a, b)
      | none => none
    else (delimited? d sets fuel t).map fun (a, b) => (c :: a, b)
where
  /-- The rest of a set up to its closing bracket. -/
  closing? (t : Text) : Option (Text × Text) :=
    (CharSet.read? {} (t.map (⟨·, false⟩))).map fun (_, rest) =>
      (t.take (t.length - rest.length), rest.map Glyph.char)

def number : Reading Nat := do
  let t ← get
  set (t.dropWhile Text.isDigit)
  return (natural? (t.takeWhile Text.isDigit)).getD 0

/-- How expressions are read: in the extended form or not. -/
def expression (extended ignoreCase lines : Bool) (t : Text) : Reading (Option Regex) := do
  if t = [] then return none
  else
    let t := withSets (t.length + 1) false (regexText (t.length + 1) t)
    let form : Regex.Form :=
      { extended, ignoreCase, lines, strict := true, balanced := true, wary := true }
    match Regex.fault? form t with
    | some message =>
      -- Sets are looked at by another reader.
      let isForeign := "character class".toList.isPrefixOf message.toList
      throw ⟨some (← get).length, message.toList, isForeign⟩
    | none => return some (Regex.read form t)

/-- The letters after an expression that is an address. -/
def addressFlags : (fuel : Nat) → (i m : Bool) → Reading (Bool × Bool)
  | 0, i, m => return (i, m)
  | fuel + 1, i, m => do
    match ← get with
    | 'I' :: t =>
      set t
      addressFlags fuel true m
    | 'M' :: t =>
      set t
      addressFlags fuel i true
    | _ => return (i, m)

def address (extended second : Bool) : Reading (Option Address) := do
  let t ← get
  match t with
  | '$' :: t =>
    set t
    return some .last
  | '/' :: t => matching '/' t
  | '\\' :: d :: t => matching d t
  | '+' :: t =>
    set t
    if second then return some (.offset (← number))
    else refuse "invalid usage of +N or ~N as first address"
  | '~' :: t =>
    set t
    if second then return some (.multiple (← number))
    else refuse "invalid usage of +N or ~N as first address"
  | c :: _ =>
    if Text.isDigit c then
      let n ← number
      match ← get with
      | '~' :: t =>
        set t
        return some (.every n (← number))
      | _ => return some (.line n)
    else return none
  | [] => return none
where
  matching (d : Char) (t : Text) : Reading (Option Address) := do
    match delimited? d true (t.length + 1) t with
    | none => refuseAll "unterminated address regex"
    | some (r, rest) =>
      set rest
      let (i, m) ← addressFlags (rest.length + 1) false false
      return some (.matching (← expression extended i m r))

/-- The parts of a replacement. -/
def pieces : (fuel : Nat) → Text → List Piece
  | 0, _ => []
  | _, [] => []
  | fuel + 1, '&' :: t => .group 0 :: pieces fuel t
  | fuel + 1, '\\' :: t =>
    match special? t with
    | some (c, t) => .text [c] :: pieces fuel t
    | none =>
      match t with
      | [] => [.text ['\\']]
      | c :: t =>
        (if Text.isDigit c then .group (c.toNat - '0'.toNat)
        else if "LUElu".toList.contains c then .letters c
        else .text [if c = 'n' then '\n' else c]) :: pieces fuel t
  | fuel + 1, c :: t => .text [c] :: pieces fuel t

/-- Nothing but blanks may follow an instruction before it is ended. -/
def endOfCommand : Reading Unit := do
  skip fun c => isSpace c && c != '\n'
  match ← get with
  | [] | '\x7d' :: _ | '#' :: _ => return
  | c :: t =>
    set t
    if c ≠ '\n' && c ≠ ';' then refuse "extra characters after command"

def fileName : Reading Text := do
  skip isBlank
  let t ← get
  set (t.dropWhile (· != '\n'))
  let name := t.takeWhile (· != '\n')
  if name = [] then refuse "missing filename in r/R/w/W commands"
  else return name

/-- The flags after a replacement. -/
def substitutionFlags : (fuel : Nat) → Substitution → Reading Substitution
  | 0, s => return s
  | fuel + 1, s => do
    match ← get with
    | [] => return s
    | c :: t =>
      if Text.isDigit c then
        let n ← number
        if n = 0 then refuse "number option to `s' command may not be zero"
        else if s.nth.isSome then refuse "multiple number options to `s' command"
        else substitutionFlags fuel { s with nth := some n }
      else
        set t
        let next (s : Substitution) : Reading Substitution := substitutionFlags fuel s
        match c with
        | 'g' =>
          if s.global then refuse "multiple `g' options to `s' command"
          else next { s with global := true }
        | 'p' =>
          if 0 < s.prints then refuse "multiple `p' options to `s' command"
          else next { s with prints := 1 }
        | 'i' | 'I' => next { s with ignoreCase := true }
        | 'm' | 'M' => next { s with lines := true }
        | 'e' => next s
        | 'w' => return { s with file := some (← fileName) }
        | '\x7d' | '#' =>
          set (c :: t)
          return s
        | c =>
          if c = ';' || c = '\n' then return s
          else if isSpace c then next s
          else refuse "unknown option to `s'"

/-- The text of an instruction that adds one: lines that end in a backslash go on. -/
def addedText : Reading Text := do
  skip isBlank
  match ← get with
  | [] => refuse "expected \\ after `a', `c' or `i'"
  | '\\' :: t =>
    match t.dropWhile isBlank with
    | '\n' :: t => set t
    | _ => set t
  | _ => pure ()
  let t ← get
  let (text, rest) := lines (t.length + 1) t
  set rest
  return if t = [] then [] else text ++ ['\n']
where
  lines : (fuel : Nat) → Text → Text × Text
    | 0, t => (t, [])
    | _, [] => ([], [])
    | _, '\n' :: t => ([], t)
    | fuel + 1, '\\' :: t =>
      match special? t with
      | some (c, t) => (lines fuel t).map (c :: ·) id
      | none =>
        match t with
        | 'n' :: t => (lines fuel t).map ('\n' :: ·) id
        | c :: t => (lines fuel t).map (c :: ·) id
        | [] => ([], [])
    | fuel + 1, c :: t => (lines fuel t).map (c :: ·) id

/-- The name of a label. -/
def name : Reading Text := do
  skip isBlank
  let t ← get
  let ends (c : Char) : Bool := isSpace c || c == ';' || c == '\x7d'
  set (t.dropWhile (!ends ·))
  return t.takeWhile (!ends ·)

/-- The highest group that a replacement mentions. -/
def highest (ps : List Piece) : Nat :=
  ps.foldl (fun n p => match p with
    | .group k => max n k
    | _ => n) 0

def groupCount : Regex → Nat
  | .group n r => max n (groupCount r)
  | .sequence a b | .either a b => max (groupCount a) (groupCount b)
  | .repeated r _ _ => groupCount r
  | _ => 0

def substitution (extended : Bool) (t : Text) : Reading Action := do
  match t with
  | [] | '\n' :: _ | '\\' :: _ => refuseAll "unterminated `s' command"
  | d :: t =>
    match (delimited? d true (t.length + 1) t).bind fun (r, t) =>
        (delimited? d false (t.length + 1) t).map fun (w, t) => (r, w, t) with
    | none => refuseAll "unterminated `s' command"
    | some (r, w, rest) =>
      set rest
      let ps := pieces (w.length + 1) w
      let s ← substitutionFlags (rest.length + 1) { expression := none, replacement := ps }
      let e ← expression extended s.ignoreCase s.lines r
      if e.any fun e => groupCount e < highest ps then
        refuse s!"invalid reference \\{highest ps} on `s' command's RHS"
      else return .substitute { s with expression := e }

def transliteration (t : Text) : Reading Action := do
  match t with
  | [] => refuseAll "unterminated `y' command"
  | d :: t =>
    match (delimited? d false (t.length + 1) t).bind fun (a, t) =>
        (delimited? d false (t.length + 1) t).map fun (b, t) => (a, b, t) with
    | none => refuseAll "unterminated `y' command"
    | some (a, b, rest) =>
      set rest
      let a := characters (a.length + 1) a
      let b := characters (b.length + 1) b
      if a.length ≠ b.length then refuse "strings for `y' command are different lengths"
      else
        endOfCommand
        return .transliterate (a.zip b)
where
  characters : (fuel : Nat) → Text → Text
    | 0, t => t
    | _, [] => []
    | fuel + 1, '\\' :: t =>
      match special? t with
      | some (c, t) => c :: characters fuel t
      | none =>
        match t with
        | 'n' :: t => '\n' :: characters fuel t
        | '\\' :: t => '\\' :: characters fuel t
        | t => '\\' :: characters fuel t
    | fuel + 1, c :: t => c :: characters fuel t

def action (extended : Bool) (addresses : Nat) : Reading Action := do
  match ← get with
  | [] => refuse "missing command"
  | c :: t =>
    set t
    let ended (a : Action) : Reading Action := do
      endOfCommand
      return a
    let exit (silent : Bool) : Reading Action := do
      if addresses = 2 then refuse "command only uses one address"
      skip isBlank
      let n ← number
      ended (.quit silent (n % 256))
    match c with
    | '\x7b' => return .open 0
    | '\x7d' => ended .close
    | ':' =>
      if addresses ≠ 0 then refuse ": doesn't want any addresses"
      let n ← name
      if n = [] then refuse "\":\" lacks a label" else return .label n
    | 'b' => return .branch none (← name)
    | 't' => return .branch (some true) (← name)
    | 'T' => return .branch (some false) (← name)
    | 'a' => return .append (← addedText)
    | 'i' => return .insert (← addedText)
    | 'c' => return .change (← addedText)
    | 'r' => return .read (← fileName)
    | 'R' => return .readLine (← fileName)
    | 'w' => return .write (← fileName) false
    | 'W' => return .write (← fileName) true
    | 'q' => exit false
    | 'Q' => exit true
    | 'l' =>
      skip isBlank
      let isNumber := (← get).head?.any Text.isDigit
      let n ← number
      ended (.show (if isNumber then some n else none))
    | 'v' =>
      let _ ← name
      ended (.simple 'v')
    | 's' => substitution extended t
    | 'y' => transliteration t
    | c =>
      if "pPdDnNhHgGx=zF".toList.contains c then ended (.simple c)
      else
        throw { left := some t.length, message := "unknown command: `".toList ++ [c, '\''] }

def instructions (extended : Bool) : (fuel : Nat) → (depth : Nat) → Reading (List Instruction)
  | 0, _ => refuse "too deep"
  | fuel + 1, depth => do
    skip fun c => isSpace c || c == ';'
    match ← get with
    | [] => if depth = 0 then return [] else
      throw { left := none, message := "unmatched `\x7b'".toList }
    | '#' :: t =>
      set (t.dropWhile (· != '\n'))
      instructions extended fuel depth
    | _ =>
      let first ← address extended false
      skip isBlank
      let second ← match first, ← get with
        | some _, ',' :: t => do
          set (t.dropWhile isBlank)
          match ← address extended true with
          | some a => pure (some a)
          | none =>
            modify List.tail
            refuse "unexpected `,'"
        | _, _ => pure none
      skip isBlank
      let isMatching := second.any (· matches .matching _)
      if first = some (.line 0) && !isMatching then
        modify List.tail
        refuse "invalid usage of line address 0"
      let negated ← match ← get with
        | '!' :: t => do
          set (t.dropWhile isBlank)
          if (← get).head? = some '!' then
            modify List.tail
            refuse "multiple `!'s"
          pure true
        | _ => pure false
      if (← get).head? = some '#' && first.isSome then
        modify List.tail
        refuse "comments don't accept any addresses"
      let addresses := first.toList.length + second.toList.length
      if (← get).head? = some '\x7d' && depth = 0 then
        modify List.tail
        refuse "unexpected `\x7d'"
      let action ← action extended addresses
      let depth := match action with
        | .open _ => depth + 1
        | .close => depth - 1
        | _ => depth
      let rest ← instructions extended fuel depth
      return ⟨first, second, negated, action⟩ :: rest

/-- Where the block that is opened before these instructions ends. -/
def closing : (depth : Nat) → List Instruction → Nat
  | _, [] => 0
  | depth, i :: is =>
    match i.action, depth with
    | .close, 0 => 0
    | .close, depth + 1 => closing depth is + 1
    | .open _, depth => closing (depth + 1) is + 1
    | _, depth => closing depth is + 1

/-- Let each opening instruction know where its block ends. -/
def withBlocks : List Instruction → List Instruction
  | [] => []
  | i :: is =>
    (match i.action with
      | .open _ => { i with action := .open (closing 0 is + 1) }
      | _ => i) :: withBlocks is

/-- A label that is branched to and does not stand anywhere. -/
def missingLabel? (is : List Instruction) : Option Text :=
  is.findSome? fun i => match i.action with
    | .branch _ name =>
      if name = [] || is.any (·.action = .label name) then none else some name
    | _ => none

def readScript (extended : Bool) (t : Text) : Except Misread (List Instruction) := do
  let (is, _) ← (instructions extended (2 * t.length + 4) 0).run t
  return withBlocks is

end GoRepl.Machine.Editor
