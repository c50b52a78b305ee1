import GoRepl.TestBed.Shell.Engine

/-! # Test bed: scripts

A script is read and run line by line: a text, a file that may grow while it is run, or the input,
which the commands of the script read, too. -/

namespace GoRepl.Machine.Shell

/-- Where the text of a script comes from. -/
inductive Feed where
  | fixed
  /-- A file, which is read on where it has grown. -/
  | file (id : NodeId)
  /-- A stream that the commands of the script read, too. -/
  | input (id : StreamId)

/-- How a script is run. -/
structure Script where
  text : Text
  feed : Feed := .fixed
  /-- The number of its first line. -/
  line : Nat := 1
  /-- What is told about it when it cannot be read. -/
  title : Option Text := none
  /-- Is it run in place of a command? -/
  isPart : Bool := false
  /-- Are its failures of no account for the shell? -/
  tested : Bool := false

/-- Say why a script cannot be read. -/
def refuseScript (script : Script) (whole : Text) (m : Misread) : Run Unit := do
  let s ← get
  match s.dialect with
  | .plain =>
    modify ({ · with line := m.line })
    fatal m.plainMessage
  | .extended =>
    let (line, message) := m.extendedMessage
    let shown := ((whole.splitOn '\n')[line - script.line]?).getD []
    let message := message ++ match m.problem with
      | .badCondition _ (some left) =>
        " near `".toList ++ Misread.near (shown ++ ['\n']) left ++ ['\'']
      | _ => []
    let start (line : Nat) : Text := s.inside.getD s.name ++ ": ".toList ++ (match script.title with
      | some t => t ++ ": ".toList
      | none => []) ++ "line ".toList ++ decimal line ++ ": ".toList
    for (line, message) in m.complaints ++ [(line, message)] do
      put 2 (start line ++ message ++ ['\n'])
    if m.showsLine then put 2 (start line ++ ['`'] ++ shown ++ ['\'', '\n'])
    setStatus (if m.goesOn then 1 else 2)
    if !script.isPart && !m.goesOn then throw .exit

/-- Warn of documents that have no end. -/
def warnOfDocuments (ds : List OpenDocument) : Run Unit := do
  let s ← get
  for d in ds do
    put 2 (s.inside.getD s.name ++ ": line ".toList ++ decimal d.last ++
      ": warning: here-document at line ".toList ++ decimal d.first ++
      " delimited by end-of-file (wanted `".toList ++ d.mark ++ "')\n".toList)

/-- What is left of a script while it is run. -/
structure Progress where
  source : Source
  /-- All of the text that was read up to now. -/
  whole : Text

/-- Text that has come to the end of a script. -/
def grown (script : Script) (r : Progress) : Run Text := do
  match script.feed with
  | .fixed | .input _ => return []
  | .file id => return (Narrow.ofBytes (fileBytes (← machine) id)).drop r.whole.length

/-- A script with what holds for the reading of the next line. -/
def prepared (s : Shell) (src : Source) : Source :=
  let replaces := !s.isExtended || s.hasSwitch "expand_aliases"
  { src with
    aliases := if replaces then s.aliases else [], grouped := s.hasSwitch "extglob" }

/-- Run commands that were read together. The extended shell goes on after those that it has given
up, unless it is a part of another one. -/
def runTogether (run : List Command → Run Unit) (cs : List Command) : Run Unit := do
  if !(← get).hasOption 'n' then
    match ← attempt (run cs) with
    | .ok () => return
    | .error .giveUp => if (← get).level ≠ 0 then throw .giveUp
    | .error j => throw j

/-- Run a script line by line. -/
def runLines (run : List Command → Run Unit) (script : Script) : (limit : Nat) → Progress → Run Unit
  | 0, _ => overflow
  | limit + 1, r => do
    let s ← get
    let before := r.source.rest
    let told (rest : Text) : Run Unit := do
      if s.hasOption 'v' then put 2 (before.take (before.length - rest.length))
    match (prepared s r.source).next? with
    | none =>
      told []
      let more ← grown script r
      if more ≠ [] then
        let whole := r.whole ++ more
        runLines run script limit
          { whole
            source := { r.source with
              rest := more, taken := 0, line := script.line + r.whole.count '\n' } }
    | some (.error m) =>
      told []
      warnOfDocuments m.openDocuments
      refuseScript script r.whole m
      if m.goesOn then
        let below := (r.whole.splitOn '\n').drop (m.line + 1 - script.line)
        let rest := List.intercalate ['\n'] below
        runLines run script limit
          { r with source := { r.source with rest, taken := 0, line := m.line + 1 } }
    | some (.ok (cs, src)) =>
      told src.rest
      warnOfDocuments src.openDocuments
      let src := { src with openDocuments := [] }
      if s.isExtended then
        let last := before.drop (before.length - src.rest.length - 1)
        modify ({ · with line := if last.head? = some '\n' then src.line - 1 else src.line })
      else modify ({ · with readLine := src.line })
      match script.feed with
      | .input id =>
        work (giveBack id src.rest)
        runTogether run cs
        let rest := (← work (drain id)).text
        runLines run script limit { r with source := { src with rest } }
      | _ =>
        runTogether run cs
        runLines run script limit { r with source := src }

/-- How many lines a script may have, with those that come to it. -/
def lineLimit : Nat := 1000000

/-- The text of a script as a shell reads it. The last line has an end for the extended one, except
where a backslash ends a text that is no file. -/
def readText (d : Dialect) (script : Script) : Text :=
  let t := script.text
  let goesOn := (script.feed matches .fixed) && Reader.goesOn t
  if d = .plain || t = [] || t.getLast? = some '\n' || goesOn then t else t ++ ['\n']

/-- Run a script. -/
def runScript (x : Engine) (script : Script) : Run Unit := do
  let dialect := (← get).dialect
  let source : Source := { rest := readText dialect script, line := script.line, dialect }
  runLines (fun cs => cs.forM (x.run script.tested)) script lineLimit ⟨source, script.text⟩

/-- Run a text that comes from a file or a command. -/
def runInside (x : Engine) (inside : Option Text) (script : Script) : Run Unit := do
  let s ← get
  modify fun s => { s with inside, nesting := s.nesting + 1, base := 0 }
  always (runScript x { script with isPart := true }) do
    modify fun now => { now with
      inside := s.inside, nesting := s.nesting, base := s.base, readLine := s.readLine }

/-- Run a text in place of a command. -/
def runText (x : Engine) (text : Text) : Run Unit := do
  let s ← get
  runInside x s.inside { text, line := if s.isExtended then max s.line 1 else 1 }

/-! ## Commands inside of words -/

/-- The file that commands consist of reading only, in the extended shell. -/
def readOnly? (s : Shell) (body : List Command) : Option Word :=
  match body with
  | [.simple _ [] [] [.mk (.number 0) .read target]] => if s.isExtended then some target else none
  | _ => none

/-- What is added to the lines of commands inside of a word. -/
def baseWithin (s : Shell) : Nat := if s.isExtended then s.line - 1 else s.base

/-- Run commands in a copy of the shell that writes to a buffer. -/
def intoBuffer (x : Engine) (body : List Command) : Run StreamId := do
  let buffer ← work (openStream (.buffer [] []))
  let s ← get
  let strict := !s.isExtended || s.hasSwitch "inherit_errexit"
  let child (c : Shell) : Shell := { c with
    nesting := c.nesting + 1, base := s.baseWithin, isCaptured := true, formerJobs := s.jobs
    options := if strict then c.options else c.options.filter (· ≠ 'e') }
  fork (← streamsWith 1 buffer) child false (ending (runText x) (body.forM (x.run false)))
  work (waitUntilReleased buffer)
  return buffer

/-- What commands print, without the ends of lines at its end. -/
def capture (x : Engine) (target : Option Text) (body : List Command) : Run Text := do
  let t ← match target with
    | some file =>
      match ← openTarget .read file with
      | .ok id =>
        let t ← work (drainAll id)
        work (release id)
        setStatus 0
        pure t
      | .error message =>
        complain message
        setStatus 1
        pure []
    | none => do
      let buffer ← intoBuffer x body
      work (drainAll buffer)
  modify ({ · with substituted := true })
  return Text.dropEndWhile (· == '\n') (t.filter (· != '\x00'))

/-- Begin a copy of the shell that runs beside it with certain streams: its number. -/
def beginCopy (x : Engine) (streams : List (Nat × StreamId)) (m : Run Unit) : Run Nat := do
  let child := copy (← get) 0
  work <| Machine.begin (streams.map Prod.snd) fun number => do
    let child : Shell := { child with streams, number }
    let whole : Run Unit := do
      ignoreKept
      ending (runText x) m
    let (_, child) ← (ExceptT.run whole).run child
    return (child.status % 256, child.streams.map Prod.snd)

/-- The path of a stream that is read from commands, or written to them. It is open for the current
command only. -/
def streamPath (x : Engine) (reads : Bool) (body : List Command) : Run Text := do
  let s ← get
  let n := s.freeBelow 64
  if reads then
    let buffer ← intoBuffer x body
    setStatus s.status
    connect n (some buffer)
  else
    let p ← work newPipe
    let writing ← work (openEnd p false true false)
    let reading ← work (openEnd p true false false)
    let streams := (0, reading) :: s.streams.filter (·.1 ≠ 0)
    let number ← beginCopy x streams do
      modify ({ · with base := s.baseWithin })
      body.forM (x.run false)
    work (release reading)
    modify ({ · with lastStarted := some number })
    connect n (some writing)
  modify fun s => { s with passing := n :: s.passing }
  return "/dev/fd/".toList ++ decimal n

/-- How the commands inside of words are run. -/
def Engine.inner (x : Engine) : Inner where
  output body := do
    let s ← get
    match readOnly? s body with
    | some target =>
      let nested : Inner := { output := capture x none, stream := streamPath x }
      capture x (some (← expandText nested target)) []
    | none => capture x none body
  stream := streamPath x

end GoRepl.Machine.Shell
