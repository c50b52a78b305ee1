import Std.Data.HashMap
import GoRepl.TestBed.Command.Records.Reader
import GoRepl.TestBed.Command.Records.Table

/-! # Test bed: the state of a program on records

What a program knows while it runs: its variables and tables, the record with its fields, what is
left of the input, and the files and commands that it reads from and writes to. -/

namespace GoRepl.Machine.Records

/-- A command with the arguments that it is called with, and a way to start others. -/
structure Setting where
  call : Call
  launch : Launch

/-- What a name inside of a function stands for. -/
inductive Slot where
  | value (v : Value)
  /-- A table that has another name outside. -/
  | table (id : Text)
  /-- Nothing yet, but a table with this name if it is used as one. -/
  | pending (id : Text)

/-- A file or command that is written to. What is written reaches it when it is flushed. -/
structure Writer where
  name : Text
  stream : StreamId
  /-- The process that reads it. -/
  process : Option Nat := none
  /-- What has not been flushed, latest first. -/
  parts : List Text := []

/-- A file or command that is read from, with what is left of it. -/
structure Reader where
  name : Text
  flow : Flow
  /-- The status of the command. -/
  status : Nat := 0

/-- A source of numbers that look random. -/
structure Generator where
  words : Array UInt32 := #[]
  front : Nat := 0
  back : Nat := 0
  seed : Float := 0

namespace Generator

def next (g : Generator) : UInt32 × Generator :=
  let word (i : Nat) : UInt32 := (g.words[i]?).getD 0
  let sum := word g.front + word g.back
  (sum >>> 1, { g with
    words := g.words.setIfInBounds g.front sum
    front := (g.front + 1) % 31, back := (g.back + 1) % 31 })

/-- The source that a number sets. -/
def ofSeed (x : Float) : Generator :=
  let seed : Int := (Value.whole x) % Nat.pow 2 32
  let seed := if seed = 0 then 1 else if seed < Nat.pow 2 31 then seed else seed - Nat.pow 2 32
  let words := (List.range 30).foldl (fun (ws : Array Int) k =>
    ws.push ((16807 * (ws[k]?).getD 0) % 2147483647)) #[seed]
  let g : Generator :=
    { words := words.map fun (n : Int) => UInt32.ofNat n.toNat, front := 3, seed := x }
  (List.range 310).foldl (fun g _ => g.next.2) g

end Generator

/-- Things by their names. -/
abbrev Named (α : Type) := @Std.HashMap Text α _ ⟨fun name => UInt64.ofNat (Table.hash name)⟩

structure State where
  bindings : Named Value := ∅
  tables : Named Table := ∅
  slots : Option (List (Text × Slot)) := none
  record : Text := []
  fields : Array Text := #[]
  /-- What is left of the file that is read. -/
  input : Option Flow := none
  /-- The number of the argument that comes next, and whether a file was read already. -/
  argument : Nat := 1
  opened : Bool := false
  readers : List Reader := []
  writers : List Writer := []
  /-- What has been printed and not been written, latest first. -/
  printed : List Text := []
  status : Nat := 0
  /-- The rules between whose patterns the record stands. -/
  inside : List Nat := []
  /-- How many tables have been made for functions. -/
  made : Nat := 0
  rounds : Nat := 0
  generator : Generator := .ofSeed 1

inductive Jump where
  | leaveLoop
  | nextRound
  | nextRecord
  | exit
  | give (v : Value)
  | fault (message : Text)
  | stuck

abbrev Act := ExceptT Jump (StateT State Work)

def fault {α : Type} (message : Text) : Act α := throw (.fault message)

/-- Do something on the machine. -/
def work {α : Type} (w : Work α) : Act α := ExceptT.lift (StateT.lift w)

/-! ## Variables -/

def bound? (s : State) (name : String) : Value :=
  (s.bindings.get? name.toList).getD .unset

/-! ## Formats -/

/-- What is wrong with a format. -/
inductive FormatProblem where
  | missing
  | improper (n : Nat)

/-- A format filled in with values, as far as that is possible; `n` directives stand before. -/
def formatted (shown : Float → Text) : (fuel n : Nat) → Text → List Value →
    Text × Option FormatProblem
  | 0, _, t, _ => (t, none)
  | _ + 1, _, [], _ => ([], none)
  | fuel + 1, n, '%' :: '%' :: t, vs =>
    let (rest, problem) := formatted shown fuel n t vs
    ('%' :: rest, problem)
  | fuel + 1, n, '%' :: t, vs =>
    let flags := t.takeWhile ("-+ #0".toList.contains ·)
    let (width, t, vs) := count (t.dropWhile ("-+ #0".toList.contains ·)) vs
    let (precision, t, vs) : Option Int × Text × List Value := match t with
      | '.' :: t =>
        let (n, t, vs) := count t vs
        (some (n.getD 0), t, vs)
      | t => (none, t, vs)
    let t := t.dropWhile fun c => c = 'l' || c = 'h'
    match t, vs with
    | [], _ => ([], some (.improper (n + 1)))
    | kind :: t, vs =>
      if !"dioxXuceEfFgGs".toList.contains kind then ([], some (.improper (n + 1)))
      else match vs with
        | [] => ([], some .missing)
        | v :: vs =>
          let d : Directive := { flags, width, precision := precision.map Int.toNat, kind }
          let one : Text := match kind with
            | 'd' | 'i' | 'o' | 'x' | 'X' | 'u' =>
              let n := clamped (Value.whole v.toNumber)
              (d.render .double (some (Shell.Expression.shown n))).1
            | 'c' => match v with
              | .number x => character d x
              | .outside t =>
                if Value.looksNumeric t then character d v.toNumber else d.text (first t)
              | v => d.text (first (v.toText shown))
            | 's' => d.text (v.toText shown)
            | _ => Value.shownAs d v.toNumber
          let (rest, problem) := formatted shown fuel (n + 1) t vs
          (one ++ rest, problem)
  | fuel + 1, n, c :: t, vs =>
    let (rest, problem) := formatted shown fuel n t vs
    (c :: rest, problem)
where
  clamped (n : Int) : Int := max (-Nat.pow 2 63) (min n (Nat.pow 2 63 - 1))
  character (d : Directive) (x : Float) : Text :=
    d.text [Char.ofNat (Value.whole x % 256).toNat]
  first (t : Text) : Text := [t.headD '\x00']
  count (t : Text) (vs : List Value) : Option Int × Text × List Value :=
    match t with
    | '*' :: t => (some (Value.whole (vs.headD .unset).toNumber), t, vs.tail)
    | t =>
      let ds := t.takeWhile Text.isDigit
      (if ds = [] then none else some (Shell.Expression.ofDigits 10 ds), t.drop ds.length, vs)

/-- The text of a number that is not whole, in the form that a variable gives. -/
def shownBy (s : State) (name : String) (x : Float) : Text :=
  let brief (t : Value) : Text := t.toText fun _ => []
  let form := brief (bound? s name)
  if form = "%.6g".toList then Value.shownAs { kind := 'g' } x
  else (formatted (fun _ => []) (form.length + 1) 0 form [.number x]).1

def textOf (s : State) (v : Value) : Text := v.toText (shownBy s "CONVFMT")

def variableText (s : State) (name : String) : Text := textOf s (bound? s name)

/-! ## Fields -/

/-- The pieces of a text between matches. -/
def cutAll (r : Regex) : (fuel : Nat) → Text → List Text
  | 0, t => [t]
  | fuel + 1, t =>
    match (Regex.find? r [] t).filter fun m => m.matched ≠ [] with
    | some m => m.before :: cutAll r fuel m.after.rest
    | none => [t]

/-- The pieces of a text. A single character separates as it is, except for a blank. -/
def separated (t : Text) (separator : Text) : List Text :=
  if t = [] then []
  else match separator with
    | [' '] => (t.splitOnP Value.isBlank).filter (· ≠ [])
    | [c] => t.splitOn c
    | [] => t.map fun c => [c]
    | r => cutAll (regexIn r) (t.length + 1) t

def setRecord (t : Text) : Act Unit :=
  modify fun s =>
    let separator := variableText s "FS"
    -- An empty separator of records makes every end of a line a separator of fields.
    let fields := if variableText s "RS" = [] && separator ≠ [' '] then
        (t.splitOn '\n').flatMap fun l => separated l separator
      else separated t separator
    { s with record := t, fields := fields.toArray }

def setFields (fields : Array Text) : Act Unit :=
  modify fun s => { s with
    fields, record := List.intercalate (variableText s "OFS") fields.toList }

/-! ## Names -/

def getVariable (name : Text) : Act Value := do
  let s ← get
  match (s.slots.getD []).lookup name with
  | some (.value v) => return v
  | some (.pending _) => return .unset
  | some (.table _) => fault ("type error in use of ".toList ++ name)
  | none =>
    if name = ['N', 'F'] then return .ofNat s.fields.size
    else return (s.bindings.get? name).getD .unset

/-- Let a name inside of a function stand for something else. -/
def setSlot (name : Text) (new : Slot) : Act Unit :=
  modify fun s =>
    let set (slots : List (Text × Slot)) :=
      slots.map fun (n, slot) => (n, if n = name then new else slot)
    { s with slots := s.slots.map set }

def setVariable (name : Text) (v : Value) : Act Unit := do
  let s ← get
  match s.slots.bind (·.lookup name) with
  | some _ => setSlot name (.value v)
  | none =>
    if name = ['N', 'F'] then
      let n := (Value.whole v.toNumber).toNat
      setFields ((s.fields.toList.take n ++ List.replicate (n - s.fields.size) []).toArray)
    else modify fun s => { s with bindings := s.bindings.insert name v }

/-- A name for a table of a function's own. -/
def newTable : Act Text :=
  modifyGet fun s => ('#' :: decimal s.made, { s with made := s.made + 1 })

/-- The name outside of functions of a table. -/
def tableId (name : Text) : Act Text := do
  match (← get).slots.bind (·.lookup name) with
  | some (.table id) => return id
  | some (.pending id) =>
    setSlot name (.table id)
    return id
  | some (.value _) =>
    let id ← newTable
    setSlot name (.table id)
    return id
  | none => return name

/-- What an argument that is a name is for a function. -/
def slotFor (name : Text) : Act Slot := do
  let s ← get
  match s.slots.bind (·.lookup name) with
  | some (.value .unset) =>
    let id ← newTable
    setSlot name (.pending id)
    return .pending id
  | some slot => return slot
  | none =>
    if s.tables.contains name then return .table name
    else if s.bindings.contains name || name = ['N', 'F'] then
      return .value (← getVariable name)
    else return .pending name

/-- Change a table, and tell what was asked about it. -/
def withTable {α : Type} (name : Text) (f : Table → α × Table) : Act α := do
  let id ← tableId name
  modifyGet fun s =>
    let t := (s.tables.get? id).getD {}
    -- The table is changed in place.
    let s := { s with tables := s.tables.erase id }
    let (a, t) := f t
    (a, { s with tables := s.tables.insert id t })

def addOne (name : String) : Act Unit :=
  modify fun s =>
    let x := (bound? s name).toNumber
    { s with bindings := s.bindings.insert name.toList (.number (x + 1)) }

/-! ## Output -/

/-- Write what has been printed, to files and commands too. -/
def flush (g : Setting) : Act Unit := do
  let s ← get
  let emptied (w : Writer) : Writer := { w with parts := [] }
  set { s with printed := [], writers := s.writers.map emptied }
  if s.printed ≠ [] then work (g.call.print s.printed.reverse.flatten)
  for w in s.writers do
    if w.parts ≠ [] then work (Machine.write w.stream w.parts.reverse.flatten)

/-- Note that a program goes on for ever. -/
def endless {α : Type} (g : Setting) : Act α := do
  flush g
  work spin
  throw .stuck

/-- A call of a shell for a command. -/
def shellCall (c : Call) (name : String) (t : Text) : Call :=
  { c with name := name.toList, args := ["-c".toList, t] }

def statusOf (r : Except Fault Result) : Nat :=
  match r with
  | .ok r => match r.signal with
    | some n => 256 + n
    | none => r.status
  | .error _ => 127

/-- A new way to write to a file or a command. -/
def openWriter (g : Setting) (way : Way) (target : Text) : Act Writer := do
  match way with
  | .into =>
    flush g
    let (w, number) ← work do
      let p ← newPipe
      let r ← openEnd p true false false
      let w ← openEnd p false true false
      let streams := (0, r) :: g.call.streams.filter (·.1 ≠ 0)
      let held := streams.map Prod.snd
      let number ← begin held fun _ => do
        let result ← g.launch "/bin/sh".toList
          { shellCall g.call "/bin/sh" target with streams }
        return (statusOf result, held)
      release r
      return (w, number)
    return { name := target, stream := w, process := some number }
  | way =>
    match ← work (g.call.openFile (if way = .after then .append else .write) target) with
    | .ok stream => return { name := target, stream }
    | .error f =>
      fault ("cannot open \"".toList ++ target ++ "\" for output (".toList ++ Call.reason f ++
        [')'])

def isOutput (target : Text) : Bool := target = ['-'] || target = "/dev/stdout".toList

def write (g : Setting) (way : Way) (target t : Text) : Act Unit := do
  if way ≠ .into && isOutput target then modify fun s => { s with printed := t :: s.printed }
  else if way ≠ .into && target = "/dev/stderr".toList then work (g.call.write 2 t)
  else
    let w ← match (← get).writers.find? (·.name = target) with
      | some w => pure w
      | none => openWriter g way target
    modify fun s => { s with
      writers := { w with parts := t :: w.parts } :: s.writers.filter (·.name ≠ target) }

/-- Write what is left for a file or command, and wait for the end of the command. -/
def closeWriter (w : Writer) : Act Nat := work do
  if w.parts ≠ [] then Machine.write w.stream w.parts.reverse.flatten
  release w.stream
  match w.process with
  | none => return 0
  | some n => waitForEnd n

/-- Close what has a name. The answer is the status of a command. -/
def close (g : Setting) (name : Text) : Act Int := do
  let s ← get
  match s.writers.find? (·.name = name), s.readers.find? (·.name = name) with
  | some w, _ =>
    set { s with writers := s.writers.filter (·.name ≠ name) }
    if w.process.isSome then flush g
    return (← closeWriter w)
  | none, some r =>
    set { s with readers := s.readers.filter (·.name ≠ name) }
    return r.status
  | none, none => return -1

/-! ## Input -/

/-- How many records of an input without an end are read. -/
def recordLimit : Nat := 200000

/-- The next record of a text, and what is left. -/
def cutRecord (separator t : Text) : Text × Text :=
  match separator with
  | [] =>
    let t := t.dropWhile (· == '\n')
    cutParagraph [] t
  | [c] => (Text.cutAt? c t).getD (t, [])
  | r =>
    match (Regex.find? (regexIn r) [] t).filter fun m => m.matched ≠ [] with
    | some m => (m.before, m.after.rest)
    | none => (t, [])
where
  cutParagraph (done : Text) : Text → Text × Text
    | [] => (Text.dropEndWhile (· == '\n') done.reverse, [])
    | '\n' :: '\n' :: t => (done.reverse, t.dropWhile (· == '\n'))
    | c :: t => cutParagraph (c :: done) t

/-- The next record of a flow, and what is left. -/
def recordOf? (separator : Text) (f : Flow) : Option (Text × Flow) :=
  let text := if f.text = [] && f.isEndless then f.cycle else f.text
  if (if separator = [] then text.dropWhile (· == '\n') else text) = [] then none
  else
    let (record, rest) := cutRecord separator text
    some (record, ⟨rest, f.cycle⟩)

/-- An argument that gives a value to a variable. -/
def assigned? (t : Text) : Option (Text × Value) :=
  match Text.cutAt? '=' t with
  | some (n, v) =>
    if Shell.isName n then some (n, .outside (unescapedText (v.length + 1) v)) else none
  | none => none

/-- Open the file that the next argument names. The input is read if none does. -/
def openNext (g : Setting) : (fuel : Nat) → Act Bool
  | 0 => return false
  | fuel + 1 => do
    let s ← get
    let count := (Value.whole (bound? s "ARGC").toNumber).toNat
    let openFile (name : Text) : Act Bool := do
      match ← work (g.call.contents name) with
      | .ok f =>
        modify fun s => { s with input := some f, opened := true }
        setVariable "FNR".toList (.number 0)
        setVariable "FILENAME".toList (.text name)
        return true
      | .error f =>
        fault ("cannot open \"".toList ++ name ++ "\" (".toList ++ Call.reason f ++ [')'])
    if s.argument < count then
      let arg ← withTable "ARGV".toList fun t => t.seek (.number s.argument) false
      let arg := textOf s (arg.getD .unset)
      set { (← get) with argument := s.argument + 1 }
      if arg = [] then openNext g fuel
      else match assigned? arg with
        | some (n, v) =>
          setVariable n v
          openNext g fuel
        | none => openFile arg
    else if s.opened then return false
    else openFile ['-']

/-- Take the next record of the input. -/
def takeRecord (g : Setting) : (fuel : Nat) → Act (Option Text)
  | 0 => return none
  | fuel + 1 => do
    let s ← get
    match s.input with
    | some f =>
      match recordOf? (variableText s "RS") f with
      | none =>
        set { s with input := none }
        takeRecord g fuel
      | some (record, f) =>
        if f.isEndless && recordLimit < s.rounds then endless g
        set { s with input := some f, rounds := s.rounds + 1 }
        addOne "NR"
        addOne "FNR"
        return some record
    | none => if ← openNext g 10000 then takeRecord g fuel else return none

def nextRecord? (g : Setting) : Act (Option Text) := takeRecord g 10000

/-- What a file or a command has to be read, if it can be. -/
def openReader (g : Setting) (isCommand : Bool) (name : Text) : Act (Option Reader) := do
  if isCommand then
    flush g
    let (flow, result) ← work do
      let buffer ← openStream (.buffer [] [])
      let streams := (1, buffer) :: g.call.streams.filter (·.1 ≠ 1)
      let result ← writing buffer (streams.map Prod.snd) (.ok { status := 141 })
        (g.launch "/bin/sh".toList { shellCall g.call "/bin/sh" name with streams })
      return (← drain buffer, result)
    return some { name, flow, status := statusOf result }
  else
    match ← work (g.call.contents name) with
    | .ok flow => return some { name, flow }
    | .error _ => return none

/-- Take the next record of a file or a command: none if it cannot be read. -/
def takeFrom (g : Setting) (isCommand : Bool) (name : Text) : Act (Option (Option Text)) := do
  let r? ← match (← get).readers.find? (·.name = name) with
    | some r => pure (some r)
    | none => openReader g isCommand name
  match r? with
  | none => return none
  | some r =>
    let s ← get
    let others := s.readers.filter (·.name ≠ name)
    match recordOf? (variableText s "RS") r.flow with
    | none =>
      set { s with readers := { r with flow := {} } :: others }
      return some none
    | some (record, flow) =>
      if flow.isEndless && recordLimit < s.rounds then endless g
      set { s with readers := { r with flow } :: others, rounds := s.rounds + 1 }
      if isCommand then addOne "NR"
      return some (some record)

end GoRepl.Machine.Records
