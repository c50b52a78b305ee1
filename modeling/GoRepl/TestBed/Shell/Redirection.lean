import GoRepl.TestBed.Shell.Assignment

/-! # Test bed: redirections

Which streams stand for which numbers while a command runs. Each number holds its stream open. -/

namespace GoRepl.Machine.Shell

/-! ## Streams -/

/-- Let a number stand for a stream, or for none; the stream has been opened or is held for that. -/
def connect (n : Nat) (id : Option StreamId) : Run Unit := do
  match (← get).streams.lookup n with
  | some old => work (release old)
  | none => pure ()
  modify fun s =>
    let others := s.streams.filter (·.1 ≠ n)
    { s with streams := match id with
      | some id => (n, id) :: others
      | none => others }

/-- Let a number stand for a stream that stands for others, too. -/
def share (n : Nat) (id : StreamId) : Run Unit := do
  work (hold id)
  connect n (some id)

/-- Do something after which some numbers stand for the same streams again as before. -/
def lendingStreams {α : Type} (ns : List Nat) (m : Run α) : Run α := do
  let s ← get
  let saved := ns.map fun n => (n, s.streams.lookup n)
  for (_, id) in saved do
    match id with
    | some id => work (hold id)
    | none => pure ()
  always m do
    for (n, id) in saved do
      connect n id

/-- Close the streams that were opened for a command only. -/
def closingPassing {α : Type} (m : Run α) : Run α := do
  let before := (← get).passing
  modify ({ · with passing := [] })
  always m do
    for n in (← get).passing do
      connect n none
    modify ({ · with passing := before })

/-- A number from `n` on that stands for no stream. -/
def freeNumber (s : Shell) (n : Nat) : Nat :=
  ((List.range (s.streams.length + 1)).map (n + ·)).find? (fun k => (s.streams.lookup k).isNone)
    |>.getD n

/-- The highest number below a limit that stands for no stream. -/
def freeBelow (s : Shell) (limit : Nat) : Nat :=
  ((List.range (s.streams.length + 1)).map (limit - 1 - ·)).find?
    (fun k => (s.streams.lookup k).isNone) |>.getD limit

/-! ## Opening files -/

/-- Why a file is not opened, in the words of a shell. -/
def openFailure (s : Shell) (creates : Bool) (target : Text) (fault : Fault) : Text :=
  match s.dialect with
  | .extended =>
    target ++ if creates && fault = .alreadyExists then ": cannot overwrite existing file".toList
      else ": ".toList ++ Call.reason fault
  | .plain =>
    let start := if creates then "cannot create " else "cannot open "
    let why := match fault with
      | .notFound | .notDirectory =>
        (if creates then "Directory nonexistent" else "No such file").toList
      | fault => Call.reason fault
    start.toList ++ target ++ ": ".toList ++ why

/-- How a redirection opens a file. -/
def accessFor (s : Shell) : RedirectionKind → Access
  | .read => .read
  | .append => .append
  | .readWrite => .both
  | .clobber => .write
  | _ => if s.hasOption 'C' then .create else .write

/-- Open a file as a redirection asks for it. -/
def openTarget (kind : RedirectionKind) (target : Text) : Run (Except Text StreamId) := do
  let s ← get
  match ← work ((s.call [] []).openFile (s.accessFor kind) target) with
  | .ok id => return .ok id
  | .error fault => return .error (s.openFailure (kind ≠ .read) target fault)

/-! ## Redirecting -/

/-- What is made of a parameter with a name, about as it was written; `word` writes words. -/
def writtenUse (word : Word → Text) (name : Text) : Use → Text
  | .value => name
  | .length => '#' :: name
  | .choose op orEmpty w => name ++ (if orEmpty then [':', op] else [op]) ++ word w
  | .trim atEnd longest w =>
    let sign := if atEnd then '%' else '#'
    name ++ (if longest then [sign, sign] else [sign]) ++ word w
  | .slice start none => name ++ [':'] ++ word start
  | .slice start (some length) => name ++ [':'] ++ word start ++ [':'] ++ word length
  | .replace place old new =>
    name ++ ['/'] ++ (if place = ' ' then [] else [place]) ++ word old ++ ['/'] ++ word new
  | .recase sign all w => name ++ (if all then [sign, sign] else [sign]) ++ word w
  | .indirect use => '!' :: writtenUse word name use
  | .names => '!' :: name ++ ['*']
  | .keys => '!' :: name
  | .form op => name ++ ['@', op]
  | .bad t => t

/-- The parts of a word about as they were written, quotes aside. -/
def writtenParts : (depth : Nat) → Word → Text
  | 0, _ => []
  | depth + 1, w => w.flatMap fun p => match p with
    | .text t _ => t
    | .param name .value _ => '$' :: name
    | .param name use _ => "$\x7b".toList ++ writtenUse (writtenParts depth) name use ++ ['\x7d']
    | .element name index use _ =>
      let name := name ++ ['['] ++ writtenParts depth index ++ [']']
      "$\x7b".toList ++ writtenUse (writtenParts depth) name use ++ ['\x7d']
    | .output _ _ => "$(...)".toList
    | .sum w _ => "$((".toList ++ writtenParts depth w ++ "))".toList
    | _ => []

/-- A part of a word about as it was written, quotes aside. -/
def writtenPart (p : Part) : Text := writtenParts 20 [p]

/-- Does a part of a word stand in quotes? -/
def isQuoted : Part → Bool
  | .text _ q | .param _ _ q | .element _ _ _ q | .output _ q | .sum _ q => q
  | _ => false

/-- A word about as it was written. -/
def written (w : Word) : Text := go false w
where
  go (inside : Bool) : Word → Text
    | [] => if inside then ['"'] else []
    | p :: ps =>
      let q := isQuoted p
      (if q = inside then [] else ['"']) ++ writtenPart p ++ go q ps

/-- The target of a redirection as one text, if it is one. -/
def targetText? (h : Inner) (w : Word) : Run (Option Text) := do
  if (← get).isExtended then
    match ← expandWord h w with
    | [t] => return some t
    | _ =>
      complain (written w ++ ": ambiguous redirect".toList)
      return none
  else return some (← expandText h w)

/-- Connect a number as a redirection asks for it. A failure is complained about. -/
def connectTo (h : Inner) (n : Nat) (kind : RedirectionKind) (target : Word) : Run Bool := do
  let failed (message : Text) : Run Bool := do
    complain message
    return false
  match kind with
  | .document =>
    let t ← expandText h target
    connect n (some (← work (openStream (.buffer [t] []))))
    return true
  | .duplicate =>
    match ← targetText? h target with
    | none => return false
    | some t =>
      let s ← get
      let moves := s.isExtended && t ≠ ['-'] && t.getLast? = some '-'
      let number := if moves then t.dropLast else t
      if t = ['-'] then
        connect n none
        return true
      else match if s.isExtended || number.length = 1 then natural? number else none with
        | some k =>
          match s.streams.lookup k with
          | some id =>
            share n id
            if moves && k ≠ n then connect k none
            return true
          | none => failed (t ++ ": Bad file descriptor".toList)
        | none =>
          if s.isExtended && n = 1 then
            match ← openTarget .write t with
            | .ok id =>
              connect 1 (some id)
              share 2 id
              return true
            | .error message => failed message
          else if s.isExtended then failed (t ++ ": ambiguous redirect".toList)
          else
            modify ({ · with line := s.readLine })
            refuse "Syntax error: Bad fd number".toList
  | kind =>
    match ← targetText? h target with
    | none => return false
    | some t =>
      match ← openTarget kind t with
      | .ok id =>
        connect n (some id)
        return true
      | .error message => failed message

/-- Connect streams as redirections ask for it, until one of them fails. -/
def redirect (h : Inner) : List Redirection → Run Bool
  | [] => return true
  | .mk outlet kind target :: rs => do
    let done ← match outlet with
      | .number n => connectTo h n kind target
      | .variable name => do
        let s ← get
        let closes : Bool := match target with
          | [.text ['-'] _] => kind = .duplicate
          | _ => false
        if closes then
          match (s.value? name).bind natural? with
          | some n =>
            connect n none
            pure true
          | none =>
            complain (name ++ ": Bad file descriptor".toList)
            pure false
        else
          let n := s.freeNumber 10
          let done ← connectTo h n kind target
          if done then assign name (decimal n)
          pure done
    if done then redirect h rs else return false

/-- The numbers that redirections are about, for a time. -/
def redirectedNumbers (rs : List Redirection) : List Nat :=
  rs.flatMap fun ((.mk outlet kind target) : Redirection) =>
    match outlet with
    | .number 1 =>
      -- Both streams may be meant.
      match kind, target with
      | .duplicate, [.text t _] => if t.all Text.isDigit then [1] else [1, 2]
      | .duplicate, _ => [1, 2]
      | _, _ => [1]
    | .number n => [n]
    | .variable _ => []

/-- Run something with other streams, or something else if they cannot be had. -/
def redirected (h : Inner) (rs : List Redirection) (m failed : Run Unit) : Run Unit :=
  if rs.isEmpty then m
  else closingPassing (lendingStreams (redirectedNumbers rs) do
    if ← redirect h rs then m else failed)

/-- The status of a command whose redirections fail. -/
def redirectionFailed : Run Unit := do
  setStatus (if (← get).isExtended then 1 else 2)

end GoRepl.Machine.Shell
