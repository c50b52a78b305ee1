import GoRepl.TestBed.Shell.Calling

/-! # Test bed: simple commands

A simple command is expanded, shown if that is asked for, and called with other streams and
variables of its own. -/

namespace GoRepl.Machine.Shell

/-! ## Failures -/

/-- Deal with the failure of a command, unless it is tested. -/
def check (x : Engine) (tested : Bool) : Run Unit := do
  let s ← get
  if s.status ≠ 0 && !tested then
    runOccasion (runText x) "ERR"
    if (← get).hasOption 'e' then throw .exit

/-- Note how a command has ended that is a pipeline by itself, and deal with signals. -/
def finishCommand (x : Engine) (tested : Bool) : Run Unit := do
  modify fun s => { s with statuses := [s.status] }
  noticeSignals (runText x) trapLimit
  check x tested

/-! ## Words -/

/-- Does a word stand for a path that is open for its command only? -/
def opensStream (w : Word) : Bool := w.any (· matches .stream _ _)

def Assignment.opensStream : Assignment → Bool
  | .one _ _ _ value => Shell.opensStream value
  | .all _ _ values => values.any fun ((_, w) : Option (Word × Bool) × Word) => Shell.opensStream w

/-- The words of a simple command after their expansion. -/
structure Called where
  texts : List Text := []
  /-- The elements of lists that are given in some of the arguments, and whether they are added. -/
  lists : List (Text × Bool × Elements) := []
  /-- Are further words that look like assignments expanded like them? None, if that is not known
  yet. -/
  declares : Option Bool := none

/-- Does a command with a name only call another one? -/
def callsAnother (d : Dialect) (t : Text) : Bool :=
  t = "command".toList || (d = .extended && t = "builtin".toList) || t.head? = some '-'

/-- Add the texts of a word. -/
def Called.add (d : Dialect) (ts : List Text) (c : Called) : Called :=
  let declares := match c.declares with
    | some b => some b
    | none => (ts.find? (!callsAnother d ·)).map (Builtin.isDeclaring d)
  { c with texts := c.texts ++ ts, declares }

/-- An argument that looks like an assignment, as one text. -/
def assignmentText (h : Inner) (name : Text) (index : Option Word) (adds : Bool) (value : Word) :
    Run Text := do
  let index ← match index with
    | none => pure []
    | some w => do pure (['['] ++ (← expandText h w) ++ [']'])
  return name ++ index ++ (if adds then ['+', '='] else ['=']) ++ (← expandValue h value)

/-- Expand the words of a simple command. -/
def expandWords (h : Inner) (words : List Word) : Run Called :=
  words.foldlM (fun (c : Called) w => do
    let d := (← get).dialect
    if c.declares = some true then
      match w.getLast?, Reader.assignment? d w.dropLast with
      | some (.list values), some (.one name _ adds _) =>
        return { c with
          texts := c.texts ++ [name], lists := (name, adds, values) :: c.lists }
      | _, _ =>
        match Reader.assignment? d w with
        | some (.one name index adds value) =>
          return { c with texts := c.texts ++ [← assignmentText h name index adds value] }
        | _ => return c.add d (← expandWord h w)
    else return c.add d (← expandWord h w)) {}

/-! ## Variables for a command -/

/-- Something with variables that are exported only for its sake. -/
def lending (values : List (Text × Text)) (m : Run Unit) : Run Unit := do
  if values.isEmpty then m
  else
    let s ← get
    let old := values.map fun ((n, _) : Text × Text) => (n, s.bindings.get? n)
    for (n, t) in values do
      assign n t
      modify fun s => { s with
        bindings := s.bindings.put n { (s.bindings.get? n).getD {} with exported := true } }
    always m (modify fun s => { s with bindings := restored old s.bindings })

/-- The values of variables for the sake of a command. Those that are protected are left out by the
extended shell. -/
def lentValues (h : Inner) (assignments : List Assignment) : Run (List (Text × Text)) :=
  assignments.filterMapM fun a => do
    match a with
    | .one n none adds value =>
      let t ← expandValue h value
      let s ← get
      let old := if adds then (s.value? n).getD [] else []
      if s.isExtended && (s.bindings.get? n).any Variable.readonly then
        complain (s.readonlyMessage n)
        return none
      else return some (n, old ++ t)
    | .one n (some index) _ _ =>
      complain ("`".toList ++ n ++ ['['] ++ (← expandText h index) ++
        "]': not a valid identifier".toList)
      return none
    | .all .. => return none

/-! ## Commands without a name -/

/-- Carry out assignments that no command follows. -/
def assignOnly (x : Engine) (assignments : List Assignment) (rs : List Redirection) :
    Run Unit := do
  let s ← get
  let h := x.inner
  let errors := s.complaints
  let assignAll : Run (List Text) := assignments.mapM (carryOut h)
  let finish : Run Unit :=
    modify fun s => { s with status := if s.substituted then s.status else 0, lastWord := [] }
  if s.isExtended then
    for a in assignments do
      traceLine h errors (← carryOut h a)
    finish
    redirected h rs (return) redirectionFailed
  else
    redirected h rs (do
      let changes ← assignAll
      traceWords h errors changes
      finish) redirectionFailed

/-! ## Commands with a name -/

/-- Is the shell itself meant by a command without arguments? -/
def isBareExec (texts : List Text) : Bool :=
  texts.getLast? = some "exec".toList &&
    texts.dropLast.all fun t => t = "command".toList || t.head? = some '-'

/-- Change the streams of the shell itself. -/
def redirectShell (h : Inner) (isSpecial : Bool) (rs : List Redirection) : Run Unit := do
  if ← redirect h rs then setStatus 0
  else
    redirectionFailed
    if isSpecial && !(← get).isExtended then throw .fault

/-- Call a command of the plain shell. Its special commands change the variables for good. -/
def callPlain (x : Engine) (tested : Bool) (assignments : List Assignment) (name : Text)
    (args : List Text) (rs : List Redirection) : Run Unit := do
  let h := x.inner
  let errors := (← get).complaints
  let isSpecial := Builtin.isSpecial name
  let fuel := args.length + 2
  let calling : Calling := { tested, give := fun _ => none }
  if isBareExec (name :: args) then redirectShell h isSpecial rs
  else
    redirected h rs
      (if isSpecial then do
        let changes ← assignments.mapM (carryOut h)
        traceWords h errors (changes ++ name :: args)
        callCommand x fuel calling name args
      else do
        let values ← lentValues h assignments
        traceWords h errors
          (values.map (fun ((n, t) : Text × Text) => n ++ ['='] ++ t) ++ name :: args)
        lending values (callCommand x fuel calling name args))
      do
        redirectionFailed
        if isSpecial then throw .fault

/-- Call a command of the extended shell. -/
def callExtended (x : Engine) (tested : Bool) (assignments : List Assignment) (c : Called)
    (name : Text) (args : List Text) (rs : List Redirection) : Run Unit := do
  let h := x.inner
  let errors := (← get).complaints
  let values ← lentValues h assignments
  for (n, t) in values do
    traceLine h errors (n ++ ['='] ++ if t = [] then [] else asWord t)
  traceWords h errors (name :: args)
  if name = "export".toList || name = "readonly".toList then
    for arg in args do
      match Text.cutAt? '=' arg with
      | some (n, t) => traceLine h errors (n ++ ['='] ++ if t = [] then [] else asWord t)
      | none => pure ()
  if isBareExec (name :: args) then redirectShell h true rs
  else
    let give (t : Text) : Option (Run Unit) :=
      (c.lists.lookup t).map fun ((adds, values) : Bool × Elements) =>
        assignElements h true t adds values
    let calling : Calling := { tested, give }
    redirected h rs (lending values (callCommand x (args.length + 2) calling name args))
      redirectionFailed
  modify ({ · with lastWord := args.getLast?.getD name })

/-- How long a simple command takes. -/
def stepTime : Nat := 2

/-- Run a simple command. -/
def runSimple (x : Engine) (tested : Bool) (line : Nat) (assignments : List Assignment)
    (words : List Word) (rs : List Redirection) : Run Unit := do
  work (pass stepTime)
  setLine line
  modify ({ · with substituted := false })
  runOccasion (runText x) "DEBUG"
  let whole : Run Unit := do
    let c ← expandWords x.inner words
    match c.texts with
    | [] => assignOnly x assignments rs
    | name :: args =>
      if (← get).isExtended then callExtended x tested assignments c name args rs
      else callPlain x tested assignments name args rs
  if words.any opensStream || assignments.any Assignment.opensStream then closingPassing whole
  else whole
  finishCommand x tested

end GoRepl.Machine.Shell
