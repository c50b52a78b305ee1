import GoRepl.TestBed.Command.Listing
import GoRepl.TestBed.Regex

/-! # Test bed: finding files

The files below directories that pass some tests, and what is to be done with them. -/

namespace GoRepl.Machine.Find

open Call (path reason quoted)

/-- A number with which another one is compared: it is to be less, more, or the same. -/
structure Bound where
  order : Ordering
  number : Nat

def Bound.admits (b : Bound) (n : Nat) : Bool := Ord.compare n b.number = b.order

inductive Expr where
  | constant (b : Bool)
  | name (pattern : Text) (folded : Bool)
  | whole (pattern : Text) (folded : Bool)
  | target (pattern : Text)
  | regex (r : Regex) (folded : Bool)
  | kind (letters : Text)
  | size (bound : Bound) (unit : Nat)
  | empty
  | permission (bit : Nat)
  /-- The mode is the given one, has all of its bits, or some of them. -/
  | mode (sign : Option Char) (bits : Nat)
  | newer (time : Int)
  | age (bound : Bound) (unit : Nat)
  | links (bound : Bound)
  | inode (bound : Bound)
  | same (id : NodeId)
  | owned (byUser : Bool)
  | print (ending : Text)
  | printf (form : Text)
  | list
  | delete
  | prune
  | quit
  | execute (words : List Text) (batched inPlace asks : Bool)
  | not (e : Expr)
  | and (a b : Expr)
  | or (a b : Expr)
  | comma (a b : Expr)

/-- What holds for the whole of a search. -/
structure Settings where
  least : Nat := 0
  most : Nat := Disk.depthLimit
  insideFirst : Bool := false
  follows : Bool := false
  acts : Bool := false
  /-- The kind of regular expressions. -/
  kind : Text := "emacs".toList

/-! ## Reading -/

/-- What has been read: settings, the name of the last test or operator, and the words to come. -/
structure Progression where
  settings : Settings := {}
  last : Text := []
  words : List Text

abbrev Reading := StateT Progression (Except Text)

def bound? (t : Text) : Option Bound :=
  match t with
  | '+' :: t => (natural? t).map (⟨.gt, ·⟩)
  | '-' :: t => (natural? t).map (⟨.lt, ·⟩)
  | t => (natural? t).map (⟨.eq, ·⟩)

/-- The unit of a size, in bytes. -/
def sizeUnit? (c : Char) : Option Nat :=
  match c with
  | 'c' => some 1
  | 'w' => some 2
  | 'b' => some 512
  | 'k' => some 1024
  | 'M' => some 1048576
  | 'G' => some 1073741824
  | _ => none

def shift : Reading (Option Text) :=
  modifyGet fun p => (p.words.head?, { p with words := p.words.tail })

/-- The argument of a test. -/
def argument (name : Text) : Reading Text := do
  match ← shift with
  | some w =>
    modify ({ · with last := name })
    return w
  | none => throw ("missing argument to `".toList ++ name ++ ['\''])

def number (name : Text) : Reading Bound := do
  let w ← argument name
  match bound? w with
  | some b => return b
  | none =>
    throw ("invalid argument `".toList ++ w ++ "' to `".toList ++ name ++ ['\''])

/-- How deep a search goes. -/
def depthOf (name : Text) : Reading Nat := do
  let w ← argument name
  match natural? w with
  | some n => return n
  | none =>
    throw ("Expected a positive decimal integer argument to ".toList ++ name ++
      ", but got ".toList ++ quoted w)

/-- The letters of kinds of files, between commas. -/
def kinds (name w : Text) : Except Text Text := do
  if w = [] then
    throw ("Arguments to ".toList ++ name ++ " should contain at least one letter".toList)
  (w.splitOn ',').zipIdx.foldlM (fun found (piece, k) =>
    match piece with
    | [] =>
      if k + 1 = (w.splitOn ',').length then
        throw ("Last file type in list argument to ".toList ++ name ++
          " is missing, i.e., list is ending on: ','".toList)
      else throw ("Unknown argument to ".toList ++ name ++ ": ,".toList)
    | c :: more =>
      if !"fdlpscbD".toList.contains c then
        throw ("Unknown argument to ".toList ++ name ++ ": ".toList ++ [c])
      else if more ≠ [] then
        throw ("Must separate multiple arguments to ".toList ++ name ++ " using: ','".toList)
      else if found.contains c then
        throw ("Duplicate file type '".toList ++ [c] ++ "' in the argument list to ".toList ++
          name ++ ['.'])
      else return found ++ [c]) []

/-- The mark that stands for the path of a file. -/
def mark : Text := "\x7b\x7d".toList

/-- The words of a command up to the sign that ends it, which may ask for all files at once. -/
def commandWords : List Text → Option (List Text × Bool × List Text)
  | [] => none
  | w :: ws =>
    if w = [';'] then some ([], false, ws)
    else if w = mark && ws.head? = some ['+'] then some ([], true, ws.tail)
    else (commandWords ws).map fun (cs, plus, rest) => (w :: cs, plus, rest)

def adjust (f : Settings → Settings) : Reading Unit :=
  modify fun p => { p with settings := f p.settings }

def action (e : Expr) : Reading Expr := do
  adjust ({ · with acts := true })
  return e

/-- An expression in which parentheses and bars need a backslash, as one in which they do not. -/
def swapped : Text → Text
  | '\\' :: c :: t =>
    if "()|\x7b\x7d".toList.contains c then c :: swapped t else '\\' :: c :: swapped t
  | c :: t =>
    if "()|\x7b\x7d".toList.contains c then '\\' :: c :: swapped t else c :: swapped t
  | [] => []

/-- The kinds of regular expressions, as they are told. -/
def expressionKinds : List String :=
  ["findutils-default", "ed", "emacs", "gnu-awk", "grep", "posix-awk", "awk", "posix-basic",
   "posix-egrep", "egrep", "posix-extended", "posix-minimal-basic", "sed"]

/-- The expression that paths are to match. -/
def expression (folded : Bool) (t : Text) : Reading Expr := do
  let kind := (← get).settings.kind
  let t := if folded then t.map Char.toLower else t
  let isNamed (names : List String) : Bool := names.any (·.toList = kind)
  if isNamed ["posix-extended", "posix-egrep", "egrep", "awk", "posix-awk", "gnu-awk"] then
    return .regex (Regex.read { extended := true } t) folded
  else if isNamed ["posix-basic", "sed", "grep", "ed"] then
    return .regex (Regex.read { extended := false } t) folded
  else return .regex (Regex.read { extended := true } (swapped t)) folded

/-- The words about a path that stands behind a test. -/
def misplaced (m : Machine) (place : Place) (w : Text) : Reading Text := do
  let message := "paths must precede expression: `".toList ++ w ++ ['\'']
  let last := (← get).last
  if last ≠ [] && m.disk.exists? place (path w) then
    return message ++ "\nfind: possible unquoted pattern after predicate `".toList ++ last ++
      "'?".toList
  else return message

/-- Does a word join two expressions? -/
def isJoining (w : Text) : Bool := ["-a", "-and", "-o", "-or", ","].any (·.toList = w)

/-- One test or action; its name has been read. -/
def primary (m : Machine) (place : Place) (name : Text) : Reading Expr := do
  let file (w : Text) : Reading Node := do
    match m.disk.find place (path w) with
    | .ok n => return n
    | .error fault => throw (quoted w ++ ": ".toList ++ reason fault)
  let command (inPlace asks : Bool) : Reading Expr := do
    match commandWords (← get).words with
    | none => throw ("missing argument to `".toList ++ name ++ ['\''])
    | some ([], _, _) => throw ("invalid argument `;' to `".toList ++ name ++ ['\''])
    | some (words, batched, rest) =>
      if batched then
        if words.contains mark then
          throw ("Only one instance of ".toList ++ mark ++ " is supported with ".toList ++ name ++
            " ... +".toList)
      modify ({ · with words := rest, last := name })
      action (.execute words batched inPlace asks)
  let outOfPlace ← misplaced m place name
  modify ({ · with last := name })
  match String.ofList name with
  | "-true" => return .constant true
  | "-false" => return .constant false
  | "-name" => return .name (← argument name) false
  | "-iname" => return .name ((← argument name).map Char.toLower) true
  | "-path" | "-wholename" => return .whole (← argument name) false
  | "-ipath" | "-iwholename" => return .whole ((← argument name).map Char.toLower) true
  | "-lname" => return .target (← argument name)
  | "-regex" => expression false (← argument name)
  | "-iregex" => expression true (← argument name)
  | "-regextype" =>
    let kind ← argument name
    if !expressionKinds.any (·.toList = kind) then
      throw ("Unknown regular expression type ".toList ++ quoted kind ++
        "; valid types are ".toList ++
        List.intercalate [',', ' '] (expressionKinds.map fun t => quoted t.toList) ++ ['.'])
    adjust ({ · with kind })
    return .constant true
  | "-type" | "-xtype" =>
    return .kind (← kinds name (← argument name))
  | "-size" =>
    let w ← argument name
    match w.getLast? with
    | none => throw "invalid null argument to -size".toList
    | some last =>
      if (sizeUnit? last).isNone && !last.isDigit then
        throw ("invalid -size type `".toList ++ [last, '\''])
      match bound? (if last.isDigit then w else w.dropLast) with
      | some b => return .size b ((sizeUnit? last).getD 512)
      | none => throw ("Invalid argument `".toList ++ w ++ "' to -size".toList)
  | "-empty" => return .empty
  | "-readable" => return .permission 4
  | "-writable" => return .permission 2
  | "-executable" => return .permission 1
  | "-perm" =>
    let w ← argument name
    let sign := w.head?.filter ("-/".toList.contains ·)
    match Mode.altered? 0 false 0 (if sign.isSome then w.tail else w) with
    | some bits => return .mode sign bits
    | none => throw ("invalid mode ".toList ++ quoted w)
  | "-newer" | "-anewer" | "-cnewer" | "-newermm" => return .newer (← file (← argument name)).time
  | "-newermt" =>
    let w ← argument name
    match Calendar.read? m.clock w with
    | some time => return .newer time
    | none => throw ("I cannot figure out how to interpret ".toList ++ quoted w ++
        " as a date or time".toList)
  | "-mtime" | "-atime" | "-ctime" => return .age (← number name) 86400
  | "-mmin" | "-amin" | "-cmin" => return .age (← number name) 60
  | "-links" => return .links (← number name)
  | "-inum" => return .inode (← number name)
  | "-samefile" =>
    let w ← argument name
    match m.disk.locate place (path w) with
    | .ok s => return .same s.id
    | .error fault => throw (quoted w ++ ": ".toList ++ reason fault)
  | "-user" | "-group" =>
    let w ← argument name
    if w = [] then throw ("The argument to ".toList ++ name ++ " should not be empty".toList)
    else if w = Listing.userName.toList || natural? w = some Listing.userNumber then
      return .owned true
    else if w = "root".toList || natural? w = some 0 then return .owned false
    else if (natural? w).isSome then return .constant false
    else
      throw (quoted w ++ if name = "-user".toList then " is not the name of a known user".toList
        else " is not the name of an existing group".toList)
  | "-uid" | "-gid" =>
    let b ← number name
    return .or (.and (.constant (b.admits Listing.userNumber)) (.owned true))
      (.and (.constant (b.admits 0)) (.owned false))
  | "-nouser" | "-nogroup" => return .constant false
  | "-maxdepth" =>
    let most ← depthOf name
    adjust ({ · with most })
    return .constant true
  | "-mindepth" =>
    let least ← depthOf name
    adjust ({ · with least })
    return .constant true
  | "-depth" | "-d" =>
    adjust ({ · with insideFirst := true })
    return .constant true
  | "-follow" =>
    adjust ({ · with follows := true })
    return .constant true
  | "-xdev" | "-mount" | "-noleaf" | "-daystart" | "-ignore_readdir_race" => return .constant true
  | "-print" => action (.print ['\n'])
  | "-print0" => action (.print ['\x00'])
  | "-printf" => do
    let form ← argument name
    action (.printf form)
  | "-ls" => action .list
  | "-delete" =>
    adjust ({ · with insideFirst := true })
    action .delete
  | "-prune" => return .prune
  | "-quit" => return .quit
  | "-exec" => command false false
  | "-execdir" => command true false
  | "-ok" => command false true
  | "-okdir" => command true true
  | _ =>
    if name.head? = some '-' then throw ("unknown predicate `".toList ++ name ++ ['\''])
    else throw outOfPlace

mutual

/-- Expressions of which one is enough; `after` is the word that stands before them. -/
def anyOf (one : Text → Reading Expr) : (fuel : Nat) → (after : Text) → Reading Expr
  | 0, _ => throw "too deep".toList
  | fuel + 1, after => do
    let a ← allOf one fuel after
    match (← get).words with
    | w :: _ =>
      if w = "-o".toList || w = "-or".toList then
        let _ ← shift
        return .or a (← anyOf one fuel w)
      else if w = [','] then
        let _ ← shift
        return .comma a (← anyOf one fuel w)
      else return a
    | [] => return a

/-- Expressions all of which have to hold. -/
def allOf (one : Text → Reading Expr) : (fuel : Nat) → (after : Text) → Reading Expr
  | 0, _ => throw "too deep".toList
  | fuel + 1, after => do
    let a ← unit one fuel after
    match (← get).words with
    | w :: _ =>
      if w = "-o".toList || w = "-or".toList || w = [','] || w = [')'] then return a
      else if w = "-a".toList || w = "-and".toList then
        let _ ← shift
        return .and a (← allOf one fuel w)
      else return .and a (← allOf one fuel [])
    | [] => return a

def unit (one : Text → Reading Expr) : (fuel : Nat) → (after : Text) → Reading Expr
  | 0, _ => throw "too deep".toList
  | fuel + 1, after => do
    match ← shift with
    | none =>
      if after = ['('] then
        throw ("invalid expression; expected to find a ')' but didn't see one. " ++
          "Perhaps you need an extra predicate after '('").toList
      else throw ("expected an expression after ".toList ++ quoted after)
    | some w =>
      if isJoining w then
        throw ("invalid expression; you have used a binary operator ".toList ++ quoted w ++
          " with nothing before it.".toList)
      else if w = [')'] then
        throw (if after = ['('] then "invalid expression; empty parentheses are not allowed.".toList
          else if after = [] then "invalid expression; you have too many ')'".toList
          else "expected an expression between ".toList ++ quoted after ++ " and ')'".toList)
      else if w = ['!'] || w = "-not".toList then
        modify ({ · with last := w })
        return .not (← unit one fuel w)
      else if w = ['('] then
        modify ({ · with last := w })
        let e ← anyOf one fuel w
        match ← shift with
        | some [')'] =>
          modify ({ · with last := [')'] })
          return e
        | _ => throw ("invalid expression; I was expecting to find a ')' somewhere but did not " ++
          "see one.").toList
      else one w

end

/-- Is a directory to be left out that is searched after what it holds? -/
def Expr.prunes : Expr → Bool
  | .prune => true
  | .not e => e.prunes
  | .and a b | .or a b | .comma a b => a.prunes || b.prunes
  | _ => false

def Expr.deletes : Expr → Bool
  | .delete => true
  | .not e => e.deletes
  | .and a b | .or a b | .comma a b => a.deletes || b.deletes
  | _ => false

def read (m : Machine) (place : Place) (ws : List Text) : Except Text (Expr × Settings) :=
  if ws.isEmpty then .ok (.constant true, {})
  else match (anyOf (primary m place) (4 * ws.length + 8) []).run { words := ws } with
    | .error message => .error message
    | .ok (_, { words := _ :: _, .. }) => .error "you have too many ')'".toList
    | .ok (e, p) =>
      let isExplicit := ws.any fun w => w = "-depth".toList || w = "-d".toList
      if e.deletes && e.prunes && !isExplicit then
        .error ("The -delete action automatically turns on -depth, but -prune does nothing when " ++
          "-depth is in effect.  If you want to carry on anyway, just explicitly use the -depth " ++
          "option.").toList
      else .ok (e, p.settings)

/-! ## Searching -/

/-- A file that was found: the path, the part of it where the search began, and how deep it is. -/
structure Found where
  path : Text
  start : Text
  depth : Nat
  id : NodeId
  node : Node

/-- What a search has come to. -/
structure Progress where
  status : Nat := 0
  pruned : Bool := false
  finished : Bool := false
  /-- The paths that commands are to be run for at the end, with the words of the commands. -/
  waiting : List (List Text × List Text) := []

def globbed (pattern : Text) (folded : Bool) (t : Text) : Bool :=
  Glob.matches? (pattern.map (⟨·, false⟩)) (if folded then t.map Char.toLower else t)

/-- A directive of a form; what is left of the form is returned. -/
def directive (d : Disk) (f : Found) (c : Char) (rest : Text) : Text × Text :=
  let below := if f.depth = 0 then [] else
    (f.path.drop f.start.length).dropWhile (· = '/')
  let time := Calendar.ofMicros f.node.time
  match c with
  | 'p' => (f.path, rest)
  | 'f' => (Files.lastPart f.path, rest)
  | 'h' =>
    let dir := Text.dropEndWhile (· ≠ '/') f.path
    (if dir = [] then ['.'] else if dir = ['/'] then [] else dir.dropLast, rest)
  | 'P' => (below, rest)
  | 'H' => (f.start, rest)
  | 'd' => (decimal f.depth, rest)
  | 's' => (decimal (Listing.size f.node), rest)
  | 'm' => (Mode.octal f.node.mode, rest)
  | 'M' => (Mode.letters (Listing.kindLetter f.node) f.node.mode, rest)
  | 'y' | 'Y' =>
    let k := Listing.kindLetter f.node
    ([if k = '-' then 'f' else k], rest)
  | 'l' => (match f.node.content with
    | .link t => Narrow.ofText t
    | _ => [], rest)
  | 'n' => (decimal (Listing.linkCount d f.id), rest)
  | 'i' => (decimal f.id, rest)
  | 'k' => (decimal (Listing.blocks f.node / 2), rest)
  | 'b' => (decimal (Listing.blocks f.node), rest)
  | 'u' | 'g' => (Listing.owner f.node, rest)
  | 'U' | 'G' => (decimal (Listing.ownerNumber f.node), rest)
  | 't' | 'a' | 'c' => (Calendar.write time "%a %b %e %H:%M:%S.%N0 %Y".toList, rest)
  | 'T' | 'A' | 'C' =>
    match rest with
    | '@' :: rest => (Calendar.write time "%s.%N0".toList, rest)
    | '+' :: rest => (Calendar.write time "%Y-%m-%d+%H:%M:%S.%N0".toList, rest)
    | 'S' :: rest => (Calendar.write time "%S.%N0".toList, rest)
    | k :: rest => (Calendar.write time ['%', k], rest)
    | [] => ([], [])
  | '%' => (['%'], rest)
  | c => (['%', c], rest)

def printed (d : Disk) (f : Found) : (fuel : Nat) → Text → Text
  | 0, _ => []
  | _, [] => []
  | fuel + 1, '\\' :: 'c' :: _ => let _ := fuel; []
  | fuel + 1, '\\' :: t =>
    match escape? false false t with
    | some (shown, t) => shown ++ printed d f fuel t
    | none => '\\' :: printed d f fuel t
  | fuel + 1, '%' :: t =>
    let flags := t.takeWhile ("-0 ".toList.contains ·)
    let t' := t.drop flags.length
    let width := t'.takeWhile Text.isDigit
    match t'.drop width.length with
    | [] => ['%']
    | c :: rest =>
      let (shown, rest) := directive d f c rest
      let n := Shell.Expression.ofDigits 10 width
      (if flags.contains '-' then shown ++ List.replicate (n - shown.length) ' '
        else padStart n (if flags.contains '0' then '0' else ' ') shown) ++ printed d f fuel rest
  | fuel + 1, c :: t => c :: printed d f fuel t

/-- A word of a command with a path in place of each mark. -/
def filledWord (shown : Text) : (fuel : Nat) → Text → Text
  | 0, t => t
  | _, [] => []
  | fuel + 1, c :: t =>
    match Text.after? mark (c :: t) with
    | some rest => shown ++ filledWord shown fuel rest
    | none => c :: filledWord shown fuel t

/-- Run a command; complain if it cannot be started. -/
def start (launch : Launch) (c : Call) (place : Place) (words : List Text) : Work Nat := do
  match words with
  | [] => return 0
  | name :: args =>
    match ← launch name { c with name, args, place } with
    | .ok r => return r.status
    | .error fault => c.fail (quoted name ++ ": ".toList ++ reason fault)

/-- Does a file pass? Actions are carried out on the way. -/
def passes (launch : Launch) (c : Call) (f : Found) : Expr → StateT Progress Work Bool
  | .constant b => return b
  | .name p folded => return globbed p folded (Files.lastPart f.path)
  | .whole p folded => return globbed p folded f.path
  | .target p => return match f.node.content with
    | .link t => globbed p false (Narrow.ofText t)
    | _ => false
  | .regex r folded =>
    let t := if folded then f.path.map Char.toLower else f.path
    return (Regex.matchAt? r ⟨[], t, [], none⟩ fun e => e.rest = []).isSome
  | .kind letters =>
    let k := Listing.kindLetter f.node
    return letters.contains (if k = '-' then 'f' else k)
  | .size b unit => return b.admits ((Listing.size f.node + unit - 1) / unit)
  | .empty => do
    let d := (← getThe Machine).disk
    return match f.node.content with
      | .file bytes => bytes.isEmpty
      | .directory _ => (d.below f.id).isEmpty
      | _ => false
  | .permission bit => return f.node.allows bit
  | .mode sign bits =>
    let has := Mode.land f.node.mode bits
    return match sign with
      | some '-' => has = bits
      | some _ => bits = 0 || has ≠ 0
      | none => f.node.mode = bits
  | .newer time => return decide (time < f.node.time)
  | .age b unit => do
    let past := ((← getThe Machine).clock - f.node.time).toNat / 1000000
    return b.admits (if unit = 60 then (past + 59) / 60 else past / unit)
  | .links b => return b.admits (Listing.linkCount (← getThe Machine).disk f.id)
  | .inode b => return b.admits f.id
  | .same id => return f.id = id
  | .owned byUser => return f.node.foreign != byUser
  | .print ending => do
    c.print (f.path ++ ending)
    return true
  | .printf form => do
    c.print (printed (← getThe Machine).disk f (form.length + 1) form)
    return true
  | .list => do
    let m ← getThe Machine
    let e : Listing.Entry := { shown := f.path, id := f.id, node := f.node }
    let o : Options := { given := [('l', []), ('i', []), ('s', [])] }
    c.print (Listing.shownEntries m.clock m.disk o { layout := .long } [e])
    return true
  | .delete => do
    let change (d : Disk) : Except Fault Disk :=
      if f.path = ['.'] then .ok d
      else if !(d.below f.id).isEmpty then .error .notEmpty
      else d.remove c.place (path f.path)
    match ← Call.alter change with
    | .ok () => return true
    | .error fault =>
      c.complain ("cannot delete ".toList ++ quoted f.path ++ ": ".toList ++ reason fault)
      modify ({ · with status := 1 })
      return false
  | .prune => do
    modify ({ · with pruned := true })
    return true
  | .quit => do
    modify ({ · with finished := true })
    return true
  | .execute words batched inPlace asks => do
    let d := (← getThe Machine).disk
    let name := if inPlace then "./".toList ++ Files.lastPart f.path else f.path
    let place := if inPlace then
        match d.locateLast false c.place (path f.path) with
        | .ok (above, _) => above.place
        | .error _ => c.place
      else c.place
    if batched && !inPlace then
      modify fun p => { p with waiting := match p.waiting.lookup words with
        | some _ => p.waiting.map fun (ws, fs) =>
          if ws = words then (ws, fs ++ [f.path]) else (ws, fs)
        | none => p.waiting ++ [(words, [f.path])] }
      return true
    else
      let words := if batched then words ++ [name]
        else words.map fun w => filledWord name (w.length + 1) w
      if asks then
        let shown := "< ".toList ++ List.intercalate [' '] [words.headD [], "...".toList, name] ++
          " > ? ".toList
        c.write 2 shown
        let (answer, _) ← match c.stream? 0 with
          | some id => (takeLine id : Work (Text × Bool))
          | none => pure ([], false)
        if answer.head? ≠ some 'y' then return false
      return (← start launch c place words) = 0
  | .not e => return !(← passes launch c f e)
  | .and a b => do
    if ← passes launch c f a then
      if (← get).finished then return true else passes launch c f b
    else return false
  | .or a b => do
    if ← passes launch c f a then return true
    else if (← get).finished then return false else passes launch c f b
  | .comma a b => do
    let _ ← passes launch c f a
    passes launch c f b

/-- Search what stands at a path and below. -/
def visit (launch : Launch) (c : Call) (s : Settings) (e : Expr) (start : Text) : (fuel : Nat) →
    (depth : Nat) → (shown : Text) → StateT Progress Work Unit
  | 0, _, _ => return
  | fuel + 1, depth, shown => do
    let d := (← getThe Machine).disk
    if (← get).finished then return
    let spot : Except Fault Disk.Spot := match d.locateBy s.follows c.place (path shown) with
      | .ok s => .ok s
      | .error fault => match d.locateBy false c.place (path shown) with
        | .ok s => .ok s
        | .error _ => .error fault
    match spot with
    | .error fault =>
      c.complain (quoted shown ++ ": ".toList ++ reason fault)
      modify ({ · with status := 1 })
    | .ok spot =>
      let n := (d.node? spot.id).getD { content := .pipe }
      let f : Found := ⟨shown, start, depth, spot.id, n⟩
      let test : StateT Progress Work Unit := do
        if s.least ≤ depth then
          modify ({ · with pruned := false })
          let _ ← passes launch c f e
      let inside : StateT Progress Work Unit := do
        if n.isDirectory && depth < s.most then
          let failed (fault : Fault) : StateT Progress Work Unit := do
            c.complain (quoted shown ++ ": ".toList ++ reason fault)
            modify ({ · with status := 1 })
          let d := (← getThe Machine).disk
          if !n.allows 4 then failed .permissionDenied
          -- A command may have taken the directory away.
          else if !d.exists? c.place (path shown) then failed .notFound
          else
            for (name, _) in ((d.entries? spot.id).getD .empty).entries do
              visit launch c s e start fuel (depth + 1) (Files.joined shown (Narrow.ofText name))
      if s.insideFirst then
        inside
        if !(← get).finished then test
      else
        test
        let p ← get
        let pruned := p.pruned && s.least ≤ depth
        if !pruned && !p.finished then inside

def find (launch : Launch) (c : Call) : Work Nat := do
  let options := c.args.takeWhile fun t => t = "-L".toList || t = "-P".toList || t = "-H".toList
  let rest := c.args.drop options.length
  let isStart (t : Text) : Bool := t.head? ≠ some '-' && t ≠ ['!'] && t ≠ ['(']
  let starts := rest.takeWhile isStart
  match read (← get) c.place (rest.drop starts.length) with
  | .error message => c.fail message
  | .ok (e, s) =>
    let s := { s with follows := s.follows || options.getLast? = some "-L".toList }
    let e := if s.acts then e else .and e (.print ['\n'])
    let starts := if starts.isEmpty then [['.']] else starts
    let run : StateT Progress Work Unit := starts.forM fun t =>
      visit launch c s e t (Disk.depthLimit + 2) 0 t
    let ((), p) ← run.run {}
    let status ← p.waiting.foldlM (fun status (words, files) => do
      let new ← start launch c c.place (words ++ files)
      return if new = 0 then status else 1) p.status
    return status

end GoRepl.Machine.Find
