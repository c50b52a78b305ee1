import GoRepl.TestBed.Command.Editor.Script

/-! # Test bed: editing lines

Each line passes through all instructions, which apply to the lines that their addresses choose, and
is then written. -/

namespace GoRepl.Machine.Editor

open Call (quoted)

/-- A line, and whether it has an end. -/
structure Line where
  text : Text
  ended : Bool := true

/-- What is written after the line at the end of a cycle. -/
inductive Queued where
  | text (t : Text)
  | contents (t : Text)

structure State where
  space : Text := []
  ended : Bool := true
  hold : Text := []
  /-- Has the line that was held an end? -/
  holdEnded : Bool := true
  number : Nat := 0
  rest : List Line
  /-- The instructions whose ranges are open, with the line on which each one ends, if that is
  known. -/
  ranges : List (Nat × Option Nat) := []
  /-- The instructions whose ranges began at a numbered line and are over. -/
  closed : List Nat := []
  /-- What was written, latest first; a file may be named. -/
  written : List (Option Text × Text) := []
  /-- Does what was written lack the end of its line? -/
  isOpen : Bool := false
  /-- The named files for which that is so. -/
  openFiles : List Text := []
  queued : List Queued := []
  substituted : Bool := false
  latest : Option Regex := none
  /-- How many lines of files have been read. -/
  taken : List (Text × Nat) := []
  status : Option Nat := none
  failure : Option Text := none
  /-- Does the script go on for ever? -/
  endless : Bool := false

/-- What follows an instruction. -/
inductive Next where
  | step
  | jump (n : Nat)
  | endCycle
  | restart
  /-- Another cycle begins without another line. -/
  | again
  | stop

/-- What instructions may look at outside the text. -/
structure Setting where
  program : List Instruction
  quiet : Bool
  name : Text
  read : Text → Text
  width : Nat := 70
  /-- The sign between lines. -/
  ending : Char := '\n'

/-- Write the end that the line written last lacks. -/
def State.complete (g : Setting) (s : State) : State :=
  if s.isOpen then { s with written := (none, [g.ending]) :: s.written, isOpen := false } else s

def State.put (s : State) (t : Text) : State :=
  if t = [] then s
  else { s with written := (none, if s.isOpen then '\n' :: t else t) :: s.written, isOpen := false }

/-- Write a line, which lacks its end if the line that was read last does. -/
def State.write (g : Setting) (s : State) (t : Text) : State :=
  let s := { s with
    written := (none, (if s.isOpen then [g.ending] else []) ++ t ++
      if s.ended then [g.ending] else []) :: s.written }
  { s with isOpen := !s.ended }

def State.writeTo (g : Setting) (s : State) (file t : Text) : State :=
  let target := if file = "/dev/stdout".toList then none else some file
  let start := if s.openFiles.contains file then [g.ending] else []
  let others := s.openFiles.filter (· ≠ file)
  { s with
    written := (target, start ++ t ++ if s.ended then [g.ending] else []) :: s.written
    openFiles := if s.ended then others else file :: others }

def State.isLast (s : State) : Bool := s.rest.isEmpty

def State.holds (s : State) : Address → Bool × State
  | .line n => (s.number = n, s)
  | .last => (s.isLast, s)
  | .every first step =>
    (if step = 0 then s.number = first
      else first ≤ s.number && (s.number - first) % step = 0, s)
  | .matching r =>
    match r <|> s.latest with
    | some r => (Regex.occursIn r s.space, { s with latest := some r })
    | none => (false, { s with failure := some "no previous regular expression".toList })
  | .offset _ | .multiple _ => (false, s)

/-- Does the line belong to the range of the instruction with the given number? A range that begins
at a numbered line begins once: there, or at the first line after it that the instruction sees. -/
def State.within (s : State) (n : Nat) (a b : Address) : Bool × State :=
  let leave (s : State) : State := { s with
    ranges := s.ranges.filter (·.1 ≠ n)
    closed := if a matches .line _ then n :: s.closed else s.closed }
  let stay (s : State) (stop : Option Nat) : State := { s with
    ranges := (n, stop) :: s.ranges.filter (·.1 ≠ n) }
  let enter (s : State) : Bool × State :=
    let upTo (m : Nat) : Bool × State :=
      (true, if m ≤ s.number then leave s else stay s (some m))
    match b with
    | .line m => upTo m
    | .offset m => upTo (s.number + m)
    | .multiple m => upTo (if m = 0 then s.number else (s.number / m + 1) * m)
    | .last => (true, if s.isLast then leave s else stay s none)
    | _ => (true, stay s none)
  let endsHere (s : State) : Bool × State :=
    let (ends, s) := s.holds b
    (true, if ends then leave s else stay s none)
  match s.ranges.lookup n with
  | some (some stop) =>
    if b matches .line _ && stop < s.number then
      let (yes, s') := (leave s).holds a
      if yes then enter s' else (false, leave s)
    else (true, if stop ≤ s.number then leave s else s)
  | some none => endsHere s
  | none =>
    match a with
    | .line 0 => if s.closed.contains n then (false, s) else endsHere s
    | .line k =>
      if s.number < k || s.closed.contains n then (false, s)
      else match b with
        | .line m => if s.number = k || s.number ≤ m then enter s else (false, leave s)
        | _ => enter s
    | a =>
      let (yes, s) := s.holds a
      if yes then enter s else (false, s)

/-- Does the instruction with the given number apply to the line? -/
def State.chooses (s : State) (n : Nat) (i : Instruction) : Bool × State :=
  let (yes, s) := match i.first, i.second with
    | none, _ => (true, s)
    | some a, none => s.holds a
    | some a, some b => s.within n a b
  (yes != i.negated, s)

/-- The text of a replacement for a match. -/
def replaced (ps : List Piece) (m : Regex.Match) : Text :=
  let step (state : Text × Option Char × Option Char) (p : Piece) :
      Text × Option Char × Option Char :=
    let (done, lasting, once) := state
    let add (t : Text) : Text × Option Char × Option Char :=
      if t = [] then state
      else
        let t := match lasting with
          | some 'U' => t.map Char.toUpper
          | some 'L' => t.map Char.toLower
          | _ => t
        let t := match once, t with
          | some 'u', c :: t => c.toUpper :: t
          | some 'l', c :: t => c.toLower :: t
          | _, t => t
        (done ++ t, lasting, none)
    match p with
    | .text t => add t
    | .group 0 => add m.matched
    | .group n => add ((m.after.groups.lookup n).getD [])
    | .letters 'E' => (done, none, once)
    | .letters c => if c = 'u' || c = 'l' then (done, lasting, some c) else (done, some c, once)
  (ps.foldl step ([], none, none)).1

/-- Replace matches from the `nth` one on, at most one unless all are asked for. What has been
passed stands backwards. An empty match does not count right after another one. -/
def substituteFrom (r : Regex) (s : Substitution) (nth : Nat) : (fuel count : Nat) →
    (before : Text) → (afterMatch : Bool) → Text → List Text → Bool → Option Text
  | 0, _, _, _, t, done, any => if any then some ((t :: done).reverse.flatten) else none
  | fuel + 1, count, before, afterMatch, t, done, any =>
    match Regex.find? r before t with
    | none => if any then some ((t :: done).reverse.flatten) else none
    | some m =>
      let passed := m.before.reverse ++ before
      if m.matched = [] && m.before = [] && afterMatch then
        match t with
        | [] => if any then some done.reverse.flatten else none
        | c :: t => substituteFrom r s nth fuel count (c :: before) false t ([c] :: done) any
      else
        let count := count + 1
        let chosen := count = nth || (s.global && nth ≤ count)
        let new := if chosen then replaced s.replacement m else m.matched
        let done := new :: m.before :: done
        let any := any || chosen
        if chosen && !s.global then some ((m.after.rest :: done).reverse.flatten)
        else if m.matched = [] then
          match m.after.rest with
          | [] => if any then some done.reverse.flatten else none
          | c :: rest =>
            substituteFrom r s nth fuel count (c :: passed) false rest ([c] :: done) any
        else
          substituteFrom r s nth fuel count (m.matched.reverse ++ passed) true m.after.rest done any

/-- The space as it is shown without ambiguity, in lines of at most a length. -/
def unambiguous (width : Nat) (t : Text) : Text :=
  let shown (c : Char) : Text := match c with
    | '\\' => ['\\', '\\']
    | '\n' => ['\\', 'n']
    | '\t' => ['\\', 't']
    | '\x07' => ['\\', 'a']
    | '\x08' => ['\\', 'b']
    | '\x0c' => ['\\', 'f']
    | '\r' => ['\\', 'r']
    | '\x0b' => ['\\', 'v']
    | c => if ' ' ≤ c && c ≤ '~' then [c] else '\\' :: padStart 3 '0' (Nat.toDigits 8 c.toNat)
  let step (state : Text × Nat) (c : Char) : Text × Nat :=
    let (done, n) := state
    let piece := shown c
    if 1 < width && width - 1 < n + piece.length then
      (piece.reverse ++ '\n' :: '\\' :: done, piece.length)
    else (piece.reverse ++ done, n + piece.length)
  (t.foldl step ([], 0)).1.reverse ++ ['$', '\n']

/-- Write what was queued for the end of a cycle. -/
def State.flush (g : Setting) (s : State) : State :=
  if s.queued.isEmpty then s
  else s.queued.reverse.foldl (fun s q => match q with
    | .text t => s.put t
    | .contents t => s.put t) (State.complete g { s with queued := [] })

/-- Take the next line into the space. -/
def State.advance (g : Setting) (s : State) (join : Bool) : State :=
  match s.rest with
  | [] => s
  | l :: rest => { s with
      space := if join then s.space ++ [g.ending] ++ l.text else l.text
      ended := l.ended
      number := s.number + 1
      rest }

/-- Carry out an instruction. -/
def State.carry (g : Setting) (s : State) : Action → State × Next
  | .open _ | .close | .label _ => (s, .step)
  | .branch when? name =>
    let taken := match when? with
      | none => true
      | some b => s.substituted = b
    let s := if when?.isSome then { s with substituted := false } else s
    if !taken then (s, .step)
    else if name = [] then (s, .endCycle)
    else match g.program.zipIdx.find? fun (i, _) => i.action = .label name with
      | some (_, n) => (s, .jump n)
      | none => (s, .endCycle)
  | .substitute sub =>
    match sub.expression <|> s.latest with
    | none => ({ s with failure := some "no previous regular expression".toList }, .stop)
    | some r =>
      let s := { s with latest := some r }
      match substituteFrom r sub (sub.nth.getD 1) (2 * s.space.length + 4) 0 [] false s.space []
          false with
      | none => (s, .step)
      | some t =>
        let s := { s with space := t, substituted := true }
        let s := if 0 < sub.prints then s.write g t else s
        (match sub.file with
          | some file => s.writeTo g file t
          | none => s, .step)
  | .transliterate table =>
    ({ s with space := s.space.map fun c => (table.lookup c).getD c }, .step)
  | .append t => ({ s with queued := .text t :: s.queued }, .step)
  | .insert t => (s.put t, .step)
  | .change t => (s.put t, .restart)
  | .read file => ({ s with queued := .contents (g.read file) :: s.queued }, .step)
  | .readLine file =>
    let n := (s.taken.lookup file).getD 0
    match (linesOf (g.read file))[n]? with
    | some l => ({ s with
        queued := .text (l ++ ['\n']) :: s.queued
        taken := (file, n + 1) :: s.taken.filter (·.1 ≠ file) }, .step)
    | none => (s, .step)
  | .write file firstLine =>
    (s.writeTo g file (if firstLine then s.space.takeWhile (· != '\n') else s.space), .step)
  | .quit silent status =>
    let s := { s with status := some status }
    (if silent then s else (if g.quiet then s else s.write g s.space).complete g, .stop)
  | .show width => (s.put (unambiguous (width.getD g.width) s.space), .step)
  | .simple c =>
    let leave : State := if g.quiet then s else s.write g s.space
    match c with
    | 'p' => (s.write g s.space, .step)
    | 'P' =>
      match s.space.cutAt? '\n' with
      | some (t, _) => ((s.complete g).put (t ++ ['\n']), .step)
      | none => (s.write g s.space, .step)
    | 'd' => (s, .restart)
    | 'D' =>
      match s.space.cutAt? '\n' with
      | none => (s, .restart)
      | some (_, t) => ({ s with space := t }, .again)
    | 'n' =>
      if s.isLast then (leave, .stop) else ((leave.flush g).advance g false, .step)
    | 'N' =>
      if s.isLast then (leave, .stop) else ((s.flush g).advance g true, .step)
    | 'h' => ({ s with hold := s.space, holdEnded := s.ended }, .step)
    | 'H' => ({ s with hold := s.hold ++ ['\n'] ++ s.space, holdEnded := s.ended }, .step)
    | 'g' => ({ s with space := s.hold, ended := s.holdEnded }, .step)
    | 'G' => ({ s with space := s.space ++ ['\n'] ++ s.hold, ended := s.holdEnded }, .step)
    | 'x' => ({ s with
        space := s.hold, hold := s.space, ended := s.holdEnded, holdEnded := s.ended }, .step)
    | '=' => (s.put (decimal s.number ++ ['\n']), .step)
    | 'F' => (s.put (g.name ++ ['\n']), .step)
    | 'z' => ({ s with space := [] }, .step)
    | _ => (s, .step)

/-- Carry out instructions from the one with number `n` on. -/
def State.pass (g : Setting) : (fuel n : Nat) → State → State × Next
  | 0, _, s => ({ s with endless := true }, .stop)
  | fuel + 1, n, s =>
    match g.program[n]? with
    | none => (s, .endCycle)
    | some i =>
      let (chosen, s) := s.chooses n i
      if s.failure.isSome then (s, .stop)
      else if !chosen then
        match i.action with
        | .open size => s.pass g fuel (n + size + 1)
        | _ => s.pass g fuel (n + 1)
      else match i.action, s.carry g i.action with
        | .change _, (s', .restart) =>
          -- A range is changed as a whole, where it ends.
          if i.second.isSome && !i.negated && (s.ranges.lookup n).isSome then (s, .restart)
          else (s', .restart)
        | _, (s, .step) => s.pass g fuel (n + 1)
        | _, (s, .jump m) => s.pass g fuel m
        | _, result => result

/-- One cycle after another, as long as lines are left. -/
def State.cycles (g : Setting) : (fuel : Nat) → (reads : Bool) → State → State
  | 0, _, s => s
  | fuel + 1, reads, s =>
    if reads && s.rest.isEmpty then s
    else
      let s := if reads then s.advance g false else s
      let (s, next) := ({ s with substituted := false }).pass g 100000 0
      match next with
      | .stop => s.flush g
      | .restart => (s.flush g).cycles g fuel true
      | .again => (s.flush g).cycles g fuel false
      | _ => ((if g.quiet then s else s.write g s.space).flush g).cycles g fuel true

/-- The lines of a text. -/
def linesIn (ending : Char) (t : Text) : List Line :=
  let ls := t.splitOn ending
  match ls.reverse with
  | [] :: before => before.reverse.map fun l => ⟨l, true⟩
  | last :: before => before.reverse.map (fun l => ⟨l, true⟩) ++ [⟨last, false⟩]
  | [] => []

/-- Begin again with another file: lines are counted from one on, and nothing is held. -/
def State.afresh (s : State) : State :=
  { s with number := 0, ranges := [], closed := [], hold := [], holdEnded := true }

/-- What a script makes of some lines. -/
def edit (g : Setting) (s : State) (ls : List Line) : State :=
  State.cycles g (2 * ls.length + 100000) true { s with rest := ls }

/-- What was written to the output. -/
def State.text (s : State) : Text :=
  (s.written.reverse.filter (·.1.isNone)).flatMap Prod.snd

/-! ## The command -/

/-- Options of which one may have a text right after it, for the names of files that are kept. -/
def withSuffix (args : List Text) : List Text :=
  args.flatMap fun t =>
    match t with
    | '-' :: '-' :: _ =>
      if t = "--in-place".toList then ["-i".toList]
      else match Text.after? "--in-place=".toList t with
        | some suffix => ["-i".toList, "-S".toList ++ suffix]
        | none => [t]
    | '-' :: cs =>
      let before := cs.takeWhile fun c => !"ieflS".toList.contains c
      match cs.drop before.length with
      | 'i' :: suffix =>
        (if before = [] then [] else ['-' :: before]) ++ ["-i".toList] ++
          if suffix = [] then [] else ["-S".toList ++ suffix]
      | _ => [t]
    | t => [t]

/-- The name of the file in which the old contents are kept. -/
def keptName (suffix file : Text) : Text :=
  if suffix.contains '*' then
    let name := (file.reverse.takeWhile (· != '/')).reverse
    let directory := file.take (file.length - name.length)
    let new := suffix.flatMap fun c => if c = '*' then name else [c]
    if new.contains '/' then new else directory ++ new
  else file ++ suffix

/-- Which part of a script a place lies in: its number and the place in it. -/
def locate : (n : Nat) → List Text → (place : Nat) → Nat × Nat
  | n, [], place => (n, place)
  | n, t :: ts, place =>
    if place ≤ t.length || ts.isEmpty then (n, place) else locate (n + 1) ts (place - t.length - 1)

/-- Write what an editor has written. -/
def perform (c : Call) (s : State) : Work Unit := do
  let mut fresh : List Text := []
  for (file, t) in s.written.reverse do
    match file with
    | none => c.print t
    | some file =>
      if file = "/dev/stderr".toList then c.write 2 t
      else
        let _ ← c.save file t (if fresh.contains file then .append else .write)
        fresh := file :: fresh

/-- All files that a script may write to. -/
def outputs (is : List Instruction) : List Text :=
  is.filterMap fun i => match i.action with
    | .write file _ => some file
    | .substitute s => s.file
    | _ => none

def usage (c : Call) : Work Nat := do
  c.write 2 ("Usage: ".toList ++ c.name ++
    " [OPTION]... \x7bscript-only-if-no-other-script\x7d [input-file]...\n".toList)
  return 1

/-- Edit files in their places. -/
def editFiles (c : Call) (g : Setting) (suffix : Option Text) (files : List Text) : Work Nat := do
  let mut status := 0
  let mut state : State := { rest := [] }
  for file in files do
    if state.status.isNone then
      match ← c.contents file with
      | .error .isDirectory =>
        c.complain ("couldn't edit ".toList ++ file ++ ": not a regular file".toList)
        status := 4
      | .error fault =>
        c.complain ("can't read ".toList ++ file ++ ": ".toList ++ Call.reason fault)
        status := max status 2
      | .ok f =>
        let s := edit { g with name := file } { state.afresh with written := [], isOpen := false }
          (linesIn g.ending f.text)
        match suffix with
        | some suffix => let _ ← c.save (keptName suffix file) f.text
        | none => pure ()
        perform c { s with written := s.written.filter fun (file, _) => file.isSome }
        let rest := if s.status.isSome then
            s.rest.flatMap fun l => l.text ++ if l.ended then [g.ending] else []
          else []
        let _ ← c.save file (s.text ++ rest)
        state := s
  return state.status.getD status

def sed (c : Call) : Work Nat := do
  match Options.read
    { flags := "nErsuzibD", valued := "eflS"
      long := [("quiet", 'n'), ("silent", 'n'), ("expression", 'e'), ("regexp-extended", 'E'),
        ("separate", 's'), ("file", 'f'), ("line-length", 'l'), ("unbuffered", 'u'),
        ("null-data", 'z'), ("zero-terminated", 'z'), ("posix", 'D'), ("sandbox", 'D')] }
    (withSuffix c.args) with
  | .error message =>
    c.complain message
    usage c
  | .ok o =>
    let mut given : List Text := []
    for (k, t) in o.given do
      if k = 'e' then given := given ++ [t]
      else if k = 'f' then
        match ← c.contents t with
        | .ok f => given := given ++ [if isUnfinished f.text then f.text else f.text.dropLast]
        | .error fault =>
          return ← c.fail ("couldn't open file ".toList ++ t ++ ": ".toList ++ Call.reason fault)
    let (scripts, files) := if o.has 'e' || o.has 'f' then (given, o.operands)
      else (o.operands.take 1, o.operands.drop 1)
    if scripts.isEmpty then usage c
    else
      let script := List.intercalate ['\n'] scripts
      -- A first line of `#n` is an option.
      let quiet := o.has 'n' || script = "#n".toList || "#n\n".toList.isPrefixOf script
      match readScript (o.has 'E' || o.has 'r') script with
      | .error e =>
        if e.isForeign then return ← c.fail e.message 4
        let (n, place) := match e.left with
          | some left => locate 1 scripts (script.length - left)
          | none => (scripts.length, 0)
        let where' := match (o.given.filter fun (k, _) => k = 'e' || k = 'f')[n - 1]? with
          | some ('f', file) =>
            "file ".toList ++ file ++ " line ".toList ++
              decimal (((scripts[n - 1]?).getD []).take place |>.count '\n' |> (· + 1))
          | _ => "-e expression #".toList ++ decimal n ++ ", char ".toList ++ decimal place
        c.fail (where' ++ ": ".toList ++ e.message)
      | .ok program =>
        match missingLabel? program with
        | some name =>
          c.fail ("can't find label for jump to `".toList ++ name ++ ['\'']) 4
        | none =>
          let m ← get
          let g : Setting := {
            program, quiet, name := files.headD ['-']
            read := fun file =>
              (m.disk.read c.place (Call.path file)).toOption.elim [] Narrow.ofBytes
            width := ((o.value? 'l').bind natural?).getD 70
            ending := if o.has 'z' then '\x00' else '\n' }
          for file in outputs program do
            if !"/dev/".toList.isPrefixOf file then
              let _ ← c.save file []
          if o.has 'i' then editFiles c g (o.value? 'S') files
          else
            let mut ok := true
            let mut flows : List Flow := []
            for file in (if files.isEmpty then [['-']] else files) do
              match ← c.contents file with
              | .ok f => flows := flows ++ [f]
              | .error .isDirectory =>
                c.complain ("couldn't edit ".toList ++ file ++ ": not a regular file".toList)
                ok := false
              | .error fault =>
                c.complain ("can't read ".toList ++ file ++ ": ".toList ++ Call.reason fault)
                ok := false
            let endless := flows.find? Flow.isEndless
            let start : State := { rest := [] }
            let s := if o.has 's' then flows.foldl (fun s f =>
                if s.status.isSome then s
                else edit g s.afresh (linesIn g.ending f.text)) start
              else edit g start (flows.flatMap fun f =>
                linesIn g.ending (if f.isEndless then f.unrolled 2000 else f.text))
            perform c s
            if s.endless then spin
            match s.failure with
            | some message =>
              c.fail ("-e expression #1, char 0: ".toList ++ message)
            | none =>
              match endless with
              | some f =>
                if s.status.isNone then
                  let again := (edit g start (linesIn g.ending f.cycle)).text
                  if again = [] then spin else c.pour ⟨[], again⟩
                return s.status.getD 0
              | none => return s.status.getD (if ok then 0 else 2)

end GoRepl.Machine.Editor
