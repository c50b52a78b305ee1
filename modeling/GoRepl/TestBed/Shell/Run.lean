import GoRepl.TestBed.Shell.Pipeline

/-! # Test bed: running commands

What each kind of command does. A command runs those that it consists of, and what it starts comes
to its end before the next command is run, unless it runs beside the shell. -/

namespace GoRepl.Machine.Shell

/-! ## Expressions -/

/-- The value of an expression that is a command of its own, or none if it cannot be found. -/
def shownValue? (x : Engine) (expression : Word) : Run (Option Int) := do
  let h := x.inner
  let t ← expandText h expression
  let s ← get
  traceLine h s.complaints ("(( ".toList ++ t ++ " ))".toList)
  if Reader.hasText "RANDOM".toList t then drawNumber
  match ← attempt (calculateText "((: ".toList t) with
  | .ok n => return some n
  | .error .giveUp => return none
  | .error j => throw j

/-- Run an expression as a command. -/
def runSum (x : Engine) (tested : Bool) (line : Nat) (expression : Word) : Run Unit := do
  setLine line
  runOccasion (runText x) "DEBUG"
  let n ← shownValue? x expression
  setStatus (if n.all (· = 0) then 1 else 0)
  finishCommand x tested

/-- Run a condition as a command. -/
def runCondition (x : Engine) (tested : Bool) (line : Nat) (t : Test) : Run Unit := do
  setLine line
  runOccasion (runText x) "DEBUG"
  match ← Comparison.answer x.inner t with
  | some a => setStatus (if a then 0 else 1)
  | none => setStatus 2
  finishCommand x tested

/-! ## Loops and choices -/

/-- The texts for which a loop is run: those of its words, or the arguments of the script. -/
def loopTexts (x : Engine) (words : Option (List Word)) : Run (List Text) := do
  match words with
  | some ws => ws.flatMapM (expandWord x.inner)
  | none => return (← get).args

/-- The start of a loop over words, as it is shown. -/
def writtenHead (kind : String) (name : Text) (words : Option (List Word)) : Text :=
  let ts := match words with
    | some ws => ws.map written
    | none => ["\"$@\"".toList]
  List.intercalate [' '] (kind.toList :: name :: "in".toList :: ts)

/-- Run a loop that depends on a condition. -/
def runLoop (x : Engine) (tested whileOk : Bool) (condition body : List Command) : Run Unit := do
  loop do
    condition.forM (x.run true)
    if ((← get).status = 0) = whileOk then
      body.forM (x.run tested)
      modify fun s => { s with lastRound := s.status }
      return true
    else
      modify fun s => { s with status := s.lastRound }
      return false

/-- Say that something is no name for a variable or a function. -/
def refuseName (name : Text) : Run Unit := do
  complain ("`".toList ++ name ++ "': not a valid identifier".toList)
  setStatus 1

/-- Run a loop over words. -/
def runEach (x : Engine) (tested : Bool) (line : Nat) (name : Text)
    (words : Option (List Word)) (body : List Command) : Run Unit := do
  setLine line
  if !isName name then return (← refuseName name)
  let ts ← loopTexts x words
  setStatus 0
  loopOver ts fun t => do
    setLine line
    let s ← get
    if s.isExtended then
      runOccasion (runText x) "DEBUG"
      traceLine x.inner s.complaints (writtenHead "for" name words)
    if ← assignOr 1 name t then
      body.forM (x.run tested)
      return true
    else return false

/-- Run a loop that counts. -/
def runCounting (x : Engine) (tested : Bool) (line : Nat) (start condition step : Word)
    (body : List Command) : Run Unit := do
  let value (w : Word) : Run (Option Int) := do
    setLine line
    runOccasion (runText x) "DEBUG"
    shownValue? x w
  if !isBlank start && (← value start).isNone then setStatus 1
  else
    setStatus 0
    loop do
      let goes ← if isBlank condition then pure (some 1) else value condition
      match goes with
      | none =>
        setStatus 1
        return false
      | some 0 => return false
      | some _ =>
        let goesOn ← round do
          body.forM (x.run tested)
          return true
        if !goesOn then return false
        else if isBlank step || (← value step).isSome then return true
        else
          setStatus 1
          return false

/-- Run the commands of the cases that a text falls under. -/
def runCases (x : Engine) (tested : Bool) (t : Text) :
    (falls : Bool) → List (List Word × List Command × CaseEnd) → Run Unit
  | _, [] => return
  | falls, (patterns, body, ending) :: cases => do
    let hit ← if falls then pure true else patterns.anyM fun w => do
      let gs ← expandPattern x.inner w
      return (Glob.ofGlyphs (← get).textForm gs).admits t
    if !hit then runCases x tested t false cases
    else
      body.forM (x.run tested)
      match ending with
      | .over => return
      | .fallThrough => runCases x tested t true cases
      | .goOn => runCases x tested t false cases

/-- Run what is to be done in the case of a word. -/
def runChoice (x : Engine) (tested : Bool) (line : Nat) (word : Word)
    (cases : List (List Word × List Command × CaseEnd)) : Run Unit := do
  setLine line
  let s ← get
  if s.isExtended then
    runOccasion (runText x) "DEBUG"
    traceLine x.inner s.complaints ("case ".toList ++ written word ++ " in".toList)
  let t ← expandText x.inner word
  setStatus 0
  runCases x tested t false cases

/-! ## Menus -/

/-- Blanks from one column to another, with tabulators where they fit. -/
def indent : (fuel from' : Nat) → Nat → Text
  | 0, _, _ => []
  | fuel + 1, from', until' =>
    if until' ≤ from' then []
    else if from' / 8 < until' / 8 then '\t' :: indent fuel (from' + 8 - from' % 8) until'
    else ' ' :: indent fuel (from' + 1) until'

/-- Choices with their numbers, in columns. -/
def menu (width : Nat) (items : List Text) : Text :=
  let count := items.length
  let digits (n : Nat) : Nat := (decimal n).length
  let longest := items.foldl (fun n t => max n t.length) 0 + digits count + 4
  let columns := max 1 (width / longest)
  let rows := count / columns + if count % columns = 0 then 0 else 1
  let columns := count / rows + if count % rows = 0 then 0 else 1
  let rows := if rows = 1 then columns else rows
  let shown (row column : Nat) : Option (Text × Nat) :=
    (items[row + column * rows]?).map fun t =>
      let places := if column = 0 then digits rows else digits count
      (padStart places ' ' (decimal (row + column * rows + 1)) ++ ") ".toList ++ t,
        t.length + places + 2)
  (List.range rows).flatMap fun row =>
    let rec line : (fuel column : Nat) → Text
      | 0, _ => []
      | fuel + 1, column =>
        match shown row column with
        | none => []
        | some (t, length) =>
          let start := column * longest
          let gap := if (shown row (column + 1)).isSome then
              indent longest (start + length) (start + longest)
            else []
          t ++ gap ++ line fuel (column + 1)
    line count 0 ++ ['\n']

/-- Ask for one of some choices: it, nothing if there is no such one, or none if there is no
answer. -/
def ask (items : List Text) : (fuel : Nat) → (shows : Bool) → Run (Option Text)
  | 0, _ => return none
  | fuel + 1, shows => do
    let s ← get
    let width := ((s.value? "COLUMNS".toList).bind natural?).getD 80
    if shows then put 2 (menu width items)
    put 2 ((s.value? "PS3".toList).getD "#? ".toList)
    Builtin.read "read".toList []
    let s ← get
    if s.status ≠ 0 then
      put 1 ['\n']
      return none
    let reply := (s.value? "REPLY".toList).getD []
    if reply = [] then ask items fuel true
    else return some (match Brace.integer? reply with
      | some n => if 0 < n then (items[n.toNat - 1]?).getD [] else []
      | none => [])

/-- Offer choices again and again. -/
def runSelect (x : Engine) (tested : Bool) (line : Nat) (name : Text) (words : Option (List Word))
    (body : List Command) : Run Unit := do
  setLine line
  if !isName name then return (← refuseName name)
  let s ← get
  traceLine x.inner s.complaints (writtenHead "select" name words)
  let items ← loopTexts x words
  setStatus 0
  if !items.isEmpty then
    loop do
      let s ← get
      let reply := (s.value? "REPLY".toList).getD []
      match ← ask items 10000 (s.lastRound = 0 || reply = []) with
      | none =>
        setStatus 1
        return false
      | some t =>
        setLine line
        if ← assignOr 1 name t then
          body.forM (x.run tested)
          modify ({ · with lastRound := 1 })
          return true
        else return false

/-! ## Commands -/

/-- Run a command; the shell does not end at a failure that is `tested`. -/
def runCommand (x : Engine) (tested : Bool) (c : Command) : Run Unit := do
  match c with
  | .simple line assignments words rs => runSimple x tested line assignments words rs
  | .pipeline negated members =>
    match members with
    | [c] => x.run (tested || negated) c
    | members => runPipeline x (tested || negated) members
    if negated then modify fun s => { s with status := if s.status = 0 then 1 else 0 }
    else
      noticeSignals (runText x) trapLimit
      check x tested
  | .timed brief c => runTimed brief (x.run tested c)
  | .list first link second =>
    x.run true first
    let isOk := (← get).status = 0
    if isOk = (link = .ifOk) then x.run tested second
  | .background c shown => runBeside x c shown
  | .subshell body => runInCopy x tested body
  | .group body => body.forM (x.run tested)
  | .branch condition yes no =>
    condition.forM (x.run true)
    if (← get).status = 0 then yes.forM (x.run tested)
    else if no.isEmpty then setStatus 0
    else no.forM (x.run tested)
  | .loop whileOk condition body => runLoop x tested whileOk condition body
  | .each line name words body => runEach x tested line name words body
  | .select line name words body => runSelect x tested line name words body
  | .choice line word cases => runChoice x tested line word cases
  | .define name body =>
    if name.any ("$`'\"\\".toList.contains ·) then refuseName name
    else modify fun s =>
      let origin := s.inside <|> if s.hasOption 'c' then some "environment".toList else none
      let others := s.functions.filter (·.1 ≠ name)
      { s with functions := (name, { body, origin, base := s.base }) :: others, status := 0 }
  | .text t =>
    let s ← get
    runInside x s.inside
      { text := t, title := some "command substitution".toList, line := max s.line 1 }
  | .condition line t => runCondition x tested line t
  | .sum line expression => runSum x tested line expression
  | .count line start condition step body => runCounting x tested line start condition step body
  | .redirected c rs =>
    redirected x.inner rs (x.run tested c) redirectionFailed
    if (← get).isExtended && (c matches .subshell _) then check x tested

/-- Does a command note in which line it is? -/
def hasLine : Command → Bool
  | .simple .. | .condition .. | .sum .. | .count .. | .each .. | .select .. | .choice .. => true
  | _ => false

/-- Run a command after which the extended shell is in the same line again as before. -/
def keepingLine (c : Command) (m : Run Unit) : Run Unit := do
  let s ← get
  let line := s.line
  if s.isExtended && hasLine c then always m (modify ({ · with line })) else m

/-- Run a command; commands are nested to a certain depth only. -/
def run (launch : Launch) : (fuel : Nat) → (tested : Bool) → Command → Run Unit
  | 0, _, _ => overflow
  | fuel + 1, tested, c =>
    keepingLine c (runCommand { launch, run := run launch fuel } tested c)

end GoRepl.Machine.Shell
