import GoRepl.TestBed.Command.Basic
import GoRepl.TestBed.Command.Lines
import GoRepl.TestBed.Command.Values

/-! # Test bed: commands that start others

Commands that set something up for another command, start it for each of some arguments, or end it
after some time. -/

namespace GoRepl.Machine.Starting

open Call (quoted reason)

/-- What a command does that may start others. -/
abbrev Starter := Launch → Call → Work Result

def failed (status : Nat) (w : Work Unit) : Work Result := do
  w
  return { status }

/-- Options at the start of arguments, given the letters that have a value, which may be the
argument that follows, and the rest. -/
def leadingOptions (valued : String) : List Text → List Text × List Text
  | ['-', '-'] :: args => ([], args)
  | ('-' :: '-' :: t) :: args =>
    let (options, rest) := leadingOptions valued args
    (('-' :: '-' :: t) :: options, rest)
  | ('-' :: c :: t) :: args =>
    let waits := match (c :: t).dropWhile (!valued.toList.contains ·) with
      | [_] => true
      | _ => false
    match waits, args with
    | true, value :: args =>
      let (options, rest) := leadingOptions valued args
      (('-' :: c :: t) :: value :: options, rest)
    | _, args =>
      let (options, rest) := leadingOptions valued args
      (('-' :: c :: t) :: options, rest)
  | args => ([], args)

/-- The status of a command that cannot be started. -/
def missingStatus (fault : Fault) : Nat := if fault = .notFound then 127 else 126

/-! ## Environments -/

/-- The words of a text that stands for several arguments: blanks separate them, and quotes and
backslashes work nearly as in a shell. -/
def splitWords (environment : List (Text × Text)) : (fuel : Nat) → (quote : Option Char) →
    (current : Option Text) → Text → List Text
  | 0, _, current, _ => current.toList
  | _, _, current, [] => current.toList
  | fuel + 1, quote, current, c :: t =>
    let add (shown t : Text) := splitWords environment fuel quote
      (some (current.getD [] ++ shown)) t
    match c, t with
    | '\\', d :: t =>
      if quote = some '\'' then
        if d = '\'' || d = '\\' then add [d] t else add ['\\', d] t
      else match d with
        | 'n' => add ['\n'] t
        | 't' => add ['\t'] t
        | 'r' => add ['\r'] t
        | 'f' => add ['\x0c'] t
        | 'v' => add ['\x0b'] t
        | 'c' => current.toList
        | '_' => if quote.isSome then add [' '] t
          else current.toList ++ splitWords environment fuel none none t
        | d => add [d] t
    | '$', '\x7b' :: t =>
      if quote = some '\'' then add ['$'] ('\x7b' :: t)
      else
        let name := t.takeWhile (· ≠ '\x7d')
        add ((environment.lookup name).getD []) (t.drop (name.length + 1))
    | c, t =>
      if some c = quote then splitWords environment fuel none current t
      else if quote.isSome then add [c] t
      else if c = '\'' || c = '"' then
        splitWords environment fuel (some c) (some (current.getD [])) t
      else if c = '#' && current.isNone then []
      else if Lines.isSpace c then current.toList ++ splitWords environment fuel none none t
      else add [c] t

/-- What `env` is asked for. -/
structure Surroundings where
  environment : List (Text × Text)
  place : Option Text := none
  zero : Bool := false
  told : Bool := false

/-- The environment in which a name has a value. -/
def withVariable (n v : Text) (e : List (Text × Text)) : List (Text × Text) :=
  if e.any (·.1 = n) then e.map fun (m, w) => if m = n then (m, v) else (m, w) else e ++ [(n, v)]

/-- Read the options of `env`. The fault is a complaint. -/
def surroundings : (fuel : Nat) → Surroundings → (unset : List Text) → List Text →
    Except Text (Surroundings × List Text × List Text)
  | 0, s, unset, args => .ok (s, unset, args)
  | _, s, unset, [] => .ok (s, unset, [])
  | fuel + 1, s, unset, arg :: args =>
    let needing (c : Char) (t : Text) (use : Text → List Text →
        Except Text (Surroundings × List Text × List Text)) :=
      match t, args with
      | [], v :: args => use v args
      | [], [] => .error ("option requires an argument -- '".toList ++ [c, '\''])
      | t, args => use t args
    let split (t : Text) (args : List Text) :=
      surroundings fuel s unset (splitWords s.environment (2 * t.length + 2) none none t ++ args)
    match arg with
    | ['-'] => surroundings fuel { s with environment := [] } unset args
    | ['-', '-'] => .ok (s, unset, args)
    | '-' :: '-' :: t =>
      let (name, value) := (Text.cutAt? '=' t).getD (t, [])
      match String.ofList name with
      | "ignore-environment" => surroundings fuel { s with environment := [] } unset args
      | "null" => surroundings fuel { s with zero := true } unset args
      | "debug" => surroundings fuel { s with told := true } unset args
      | "unset" => needing 'u' value fun v args => surroundings fuel s (unset ++ [v]) args
      | "chdir" => needing 'C' value fun v args =>
        surroundings fuel { s with place := some v } unset args
      | "split-string" => needing 'S' value split
      | _ => .error ("unrecognized option '--".toList ++ name ++ ['\''])
    | '-' :: c :: t =>
      let more := if t = [] then args else ('-' :: t) :: args
      match c with
      | 'i' => surroundings fuel { s with environment := [] } unset more
      | '0' => surroundings fuel { s with zero := true } unset more
      | 'v' => surroundings fuel { s with told := true } unset more
      | 'u' => needing c t fun v args => surroundings fuel s (unset ++ [v]) args
      | 'C' => needing c t fun v args => surroundings fuel { s with place := some v } unset args
      | 'S' => needing c t split
      | c => .error ("invalid option -- '".toList ++ [c, '\''])
    | _ => .ok (s, unset, arg :: args)

def env : Starter := fun launch c => do
  match surroundings (c.args.length + 100) { environment := c.environment } [] c.args with
  | .error message =>
    failed 125 do
      c.complain message
      if (message.any Lines.isSpace) && "invalid option -- ' '".toList = message then
        c.complain "use -[v]S to pass options in shebang lines".toList
      c.write 2 "Try 'env --help' for more information.\n".toList
  | .ok (s, unset, rest) =>
    match unset.find? fun n => n = [] || n.contains '=' with
    | some n =>
      failed 125 (c.complain ("cannot unset ".toList ++ quoted n ++ ": Invalid argument".toList))
    | none =>
    let kept := s.environment.filter fun (n, _) => !unset.contains n
    let given := (rest.takeWhile (·.contains '=')).filterMap fun t => Text.cutAt? '=' t
    let environment := given.foldl (fun e (n, v) => withVariable n v e) kept
    let m ← get
    let place : Except Fault Place := match s.place with
      | none => .ok c.place
      | some t => match m.disk.locate c.place (Call.path t) with
        | .ok spot =>
          if (m.disk.entries? spot.id).isNone then .error .notDirectory
          else if !m.disk.allows spot.id 1 then .error .permissionDenied
          else .ok spot.place
        | .error fault => .error fault
    let command := rest.dropWhile (·.contains '=')
    if s.zero && !command.isEmpty then
      failed 125 do
        c.complain "cannot specify --null (-0) with command".toList
        c.write 2 "Try 'env --help' for more information.\n".toList
    else match command, place with
    | [], _ =>
      if s.place.isSome then
        failed 125 do
          c.complain "must specify command with --chdir (-C)".toList
          c.write 2 "Try 'env --help' for more information.\n".toList
      else
        let ending := if s.zero then '\x00' else '\n'
        c.print (environment.flatMap fun (n, v) => n ++ ['='] ++ v ++ [ending])
        return { status := 0 }
    | _, .error fault =>
      failed 125 (c.complain ("cannot change directory to ".toList ++
        quoted (s.place.getD []) ++ ": ".toList ++ reason fault))
    | name :: args, .ok place =>
      match ← launch name { c with name, args, environment, place } with
      | .ok r => return r
      | .error fault =>
        failed (missingStatus fault) do
          c.complain (quoted name ++ ": ".toList ++ reason fault)
          if fault = .notFound && name.any Lines.isSpace then
            c.complain "use -[v]S to pass options in shebang lines".toList

/-! ## Arguments from the input -/

/-- Why no more arguments can be taken from an input. -/
inductive ArgumentFault where
  /-- A quote is not closed. -/
  | quote (c : Char)
  | longLine
  | longList
deriving DecidableEq

def ArgumentFault.message : ArgumentFault → Text
  | .quote c => "unmatched ".toList ++ (if c = '\'' then "single" else "double").toList ++
    " quote; by default quotes are special to xargs unless you use the -0 option".toList
  | .longLine => "argument line too long".toList
  | .longList => "argument list too long".toList

/-- What is had before there is a fault, if there is one. -/
abbrev Partly (α : Type) := List α × Option ArgumentFault

/-- The words of an input, each with whether it is the last one of its line, where a blank at the
end of a line joins it to the next one. -/
def inputWords : (quote : Option Char) → (current : Option Text) → Text → Partly (Text × Bool)
  | some q, _, [] => ([], some (.quote q))
  | none, current, [] => (current.toList.map (·, true), none)
  | some q, current, c :: t =>
    if c = '\n' then ([], some (.quote q))
    else if c = q then inputWords none current t
    else inputWords (some q) (some (current.getD [] ++ [c])) t
  | none, current, '\\' :: c :: t => inputWords none (some (current.getD [] ++ [c])) t
  | none, current, c :: t =>
    if c = '\'' || c = '"' then inputWords (some c) (some (current.getD [])) t
    else if Lines.isSpace c then
      let (rest, fault) := inputWords none none t
      match current with
      | some w => ((w, c = '\n') :: rest, fault)
      | none => (rest, fault)
    else inputWords none (some (current.getD [] ++ [c])) t

/-- A text with another one in place of each mark. -/
def fillIn (mark new : Text) : (fuel : Nat) → Text → Text
  | 0, t => t
  | _ + 1, [] => []
  | fuel + 1, c :: t =>
    match if mark = [] then none else Text.after? mark (c :: t) with
    | some rest => new ++ fillIn mark new fuel rest
    | none => c :: fillIn mark new fuel t

/-- Words in groups that end with the `n`-th end of a line. -/
def byLines (n : Nat) : (left : Nat) → (group : List Text) → List (Text × Bool) → List (List Text)
  | _, group, [] => if group.isEmpty then [] else [group]
  | left, group, (w, isLast) :: ws =>
    let group := group ++ [w]
    if isLast && left ≤ 1 then group :: byLines n n [] ws
    else byLines n (if isLast then left - 1 else left) group ws

/-- Words in groups that are not too long together. A group that is cut may be a fault. -/
def bySize (size base : Nat) (strict : Bool) : (used : Nat) → (group : List Text) → List Text →
    Partly (List Text)
  | _, group, [] => (if group.isEmpty then [] else [group.reverse], none)
  | used, group, w :: ws =>
    let longer := used + w.length + 1
    if longer ≤ size then bySize size base strict longer (w :: group) ws
    else if strict && !group.isEmpty then ([], some .longList)
    else if size < base + w.length + 1 then
      (if group.isEmpty then [] else [group.reverse], some .longLine)
    else
      let (groups, fault) := bySize size base strict (base + w.length + 1) [w] ws
      (group.reverse :: groups, fault)

/-- A line for `-I` without the quotes in it. -/
def unquotedLine (l : Text) : Except Char Text := do
  let l := l.dropWhile fun c => c = ' ' || c = '\t'
  go none l
where
  go : Option Char → Text → Except Char Text
    | some q, [] => throw q
    | none, [] => return []
    | some q, c :: t => do if c = q then go none t else return c :: (← go (some q) t)
    | none, '\\' :: c :: t => return c :: (← go none t)
    | none, c :: t => do
      if c = '\'' || c = '"' then go (some c) t else return c :: (← go none t)

/-- A word as it is shown before a command is run. -/
def shownWord (t : Text) : Text :=
  let isSafe (c : Char) : Bool := Shell.isNameChar c || "@%+=:,./-".toList.contains c
  if t ≠ [] && t.all isSafe then t
  else if t.contains '\'' && !t.any ("\"$`\\".toList.contains ·) then ['"'] ++ t ++ ['"']
  else ['\''] ++ t.flatMap (fun c => if c = '\'' then "'\\''".toList else [c]) ++ ['\'']

/-- How the words of an input are dealt out. -/
structure Dealing where
  /-- The text in whose place each line is put. -/
  mark : Option Text := none
  words : Option Nat := none
  lines : Option Nat := none
  /-- What is said about options that do not go together. -/
  warnings : List Text := []

/-- What is said about an option that has no effect because of another one. -/
def Dealing.without (old new : String) : Text :=
  "warning: options ".toList ++ old.toList ++ " and ".toList ++ new.toList ++
    " are mutually exclusive, ignoring previous ".toList ++ old.toList ++ " value".toList

/-- Take one more option into account. Of those that do not go together, the last one counts. -/
def Dealing.add (d : Dealing) : Char × Text → Dealing
  | ('n', t) =>
    let n := (natural? t).getD 1
    let d := if d.lines.isSome then
        { d with lines := none
                 warnings := d.warnings ++ [without "--max-lines" "--max-args/-n"] }
      else d
    if d.mark.isNone then { d with words := some n }
    else if n = 1 then d
    else { d with mark := none, words := some n
                  warnings := d.warnings ++ [without "--replace" "--max-args/-n"] }
  | ('L', t) => byLines "-L" t
  | ('l', t) => byLines "--max-lines/-l" (if t = [] then ['1'] else t)
  | ('I', t) => replacing t
  | ('i', t) => replacing (if t = [] then "\x7b\x7d".toList else t)
  | _ => d
where
  byLines (name : String) (t : Text) : Dealing :=
    let told := (if d.words.isSome then [without "--max-args" name] else []) ++
      if d.mark.isSome then [without "--replace" name] else []
    { mark := none, words := none, lines := some ((natural? t).getD 1)
      warnings := d.warnings ++ told }
  replacing (mark : Text) : Dealing :=
    let name := "--replace/-I/-i"
    let told := (if d.words.isSome then [without "--max-args" name] else []) ++
      if d.lines.isSome then [without "--max-lines" name] else []
    { mark := some mark, words := none, lines := none, warnings := d.warnings ++ told }

/-- The character between words that an option names. -/
def separator? (t : Text) : Option Char :=
  match t with
  | [c] => some c
  | '\\' :: t =>
    match escape? true true t with
    | some ([c], []) => some c
    | _ => none
  | _ => none

/-- The calls of a command for the words of an input. -/
def repeatedCalls (o : Options) (dealing : Dealing) (separator : Option Char) (command : List Text)
    (t : Text) : Partly (List Text) :=
  let cut (t : Text) : List (Text × Bool) := match separator with
    | some d =>
      let ts := t.splitOn d
      (if ts.getLast? = some [] then ts.dropLast else ts).map (·, true)
    | none => []
  match dealing.mark with
  | some mark =>
    let filled (l : Text) : List Text := command.map fun a => fillIn mark l (a.length + 1) a
    if separator.isSome then ((cut t).map fun (l, _) => filled l, none)
    else
      let ls := (linesOf t).filter fun l => l.any (!Lines.isSpace ·)
      let plain := ls.map unquotedLine
      let fault := plain.findSome? fun l => match l with
        | .error q => some (.quote q)
        | .ok _ => none
      ((plain.takeWhile Except.isOk).filterMap fun l => l.toOption.map filled, fault)
  | none =>
    let (words, open?) := if separator.isSome then (cut t, none) else inputWords none none t
    let (words, open?) := match o.value? 'E' with
      | some mark =>
        if separator.isSome || mark = [] || words.all (·.1 ≠ mark) then (words, open?)
        else (words.takeWhile (·.1 ≠ mark), none)
      | none => (words, open?)
    if words.isEmpty then (if o.has 'r' || open?.isSome then [] else [command], open?)
    else
      let base := (command.map fun a => a.length + 1).foldl (· + ·) 0
      let size := ((o.value? 's').bind natural?).getD 100000
      let groups := match dealing.words, dealing.lines with
        | some n, _ => pieces n (words.map Prod.fst)
        | none, some n => byLines n n [] words
        | none, none => [words.map Prod.fst]
      let strict := dealing.lines.isSome || (o.has 'x' && dealing.words.isSome)
      let sized := groups.map (bySize size base strict base [])
      let whole := sized.takeWhile fun (_, fault) => fault.isNone
      let last := (sized.drop whole.length).head?
      let calls := whole.flatMap Prod.fst ++ (last.map Prod.fst).getD []
      (calls.map (command ++ ·), (last.bind Prod.snd) <|> open?)

/-- A number that an option has, and the least one that it may have. -/
def numberFault (k : Char) (v : Text) : Option Text :=
  let least := if k = 'P' then 0 else 1
  let (negative, digits) := match v with
    | '-' :: t => (true, t)
    | t => (false, t)
  match natural? digits with
  | none => some ("invalid number \"".toList ++ v ++ "\" for -".toList ++ [k] ++ " option".toList)
  | some n =>
    if n < least || (negative && 0 < n) then
      some ("value ".toList ++ v ++ " for -".toList ++ [k] ++ " option should be >= ".toList ++
        decimal least)
    else none

def xargs : Starter := fun launch c => do
  let adjusted (t : Text) : Text := match t with
    | '-' :: 'l' :: n => "--max-lines=".toList ++ n
    | '-' :: 'i' :: mark => "--replace=".toList ++ mark
    | ['-', 'e'] => "-e".toList
    | '-' :: 'e' :: mark => '-' :: 'E' :: mark
    | t => t
  let (options, rest) := leadingOptions "nILPsdEa" (c.args.map adjusted)
  let (options, rest) := (options, c.args.drop (c.args.length - rest.length))
  let rules : OptionRules :=
    { flags := "0rtxpoeli", valued := "nILPsdEa", optional := "li",
      long := [("null", '0'), ("no-run-if-empty", 'r'), ("verbose", 't'), ("max-args", 'n'),
        ("max-lines", 'l'), ("replace", 'i'), ("delimiter", 'd'), ("arg-file", 'a'),
        ("max-procs", 'P'), ("max-chars", 's'), ("eof", 'E'), ("exit", 'x'),
        ("interactive", 'p'), ("open-tty", 'o')] }
  match Options.read rules options with
  | .error message => return { status := ← c.misuse message }
  | .ok o =>
    let invalid := o.given.findSome? fun ((k, v) : Char × Text) =>
      if "nLPs".toList.contains k || (k = 'l' && v ≠ []) then numberFault k v else none
    let separator := if o.has '0' then some '\x00' else (o.value? 'd').bind separator?
    match invalid, (o.value? 'd').filter (fun d => (separator? d).isNone) with
    | some message, _ => return { status := ← c.misuse message }
    | _, some d =>
      failed 1 (c.complain ("Invalid input delimiter specification ".toList ++ d ++
        (": the delimiter must be either a single character or an escape sequence starting " ++
          "with \\.").toList))
    | none, none =>
    let dealing := o.given.foldl Dealing.add {}
    for warning in dealing.warnings do c.complain warning
    let command := if rest.isEmpty then ["echo".toList] else rest
    let text ← match o.value? 'a' with
      | none => c.input
      | some file => match ← c.contents file with
        | .ok f => pure f.text
        | .error fault =>
          return ← failed 1 (c.complain ("Cannot open input file ".toList ++ quoted file ++
            ": ".toList ++ reason fault))
    let (calls, fault) := repeatedCalls o dealing separator command text
    let input ← openStream .null
    let streams := if o.has 'o' || (o.value? 'a').isSome then c.streams
      else (0, input) :: c.streams.filter (·.1 ≠ 0)
    let mut status := 0
    for (words, k) in calls.zipIdx do
      -- The last command still runs while there is a fault.
      if k + 1 = calls.length then
        if let some fault := fault then c.complain fault.message
      let name := words.headD []
      let shown := List.intercalate [' '] (words.map shownWord)
      if o.has 'p' then
        -- There is no terminal that could be asked.
        c.write 2 shown
        return ← failed 1 (c.complain
          "failed to open /dev/tty for reading: No such device or address".toList)
      if o.has 't' then c.write 2 (shown ++ ['\n'])
      match ← launch name { c with name, args := words.tail, streams } with
      | .error fault =>
        c.complain (name ++ ": ".toList ++ reason fault)
        return { status := missingStatus fault }
      | .ok r =>
        match r.signal with
        | some n =>
          c.complain (name ++ ": terminated by signal ".toList ++ decimal n)
          return { status := 125 }
        | none =>
          if r.status = 255 then
            c.complain (name ++ ": exited with status 255; aborting".toList)
            return { status := 124 }
          else if r.status ≠ 0 then status := 123
    match fault with
    | some fault =>
      if calls.isEmpty then c.complain fault.message
      return { status := 1 }
    | none => return { status }

/-! ## Limits of time -/

/-- The numbers of signals by their names. -/
def signals : List (String × Nat) :=
  [("EXIT", 0), ("HUP", 1), ("INT", 2), ("QUIT", 3), ("ILL", 4), ("TRAP", 5), ("ABRT", 6),
    ("BUS", 7), ("FPE", 8), ("KILL", 9), ("USR1", 10), ("SEGV", 11), ("USR2", 12), ("PIPE", 13),
    ("ALRM", 14), ("TERM", 15), ("STKFLT", 16), ("CHLD", 17), ("CONT", 18), ("STOP", 19),
    ("TSTP", 20), ("TTIN", 21), ("TTOU", 22), ("URG", 23), ("XCPU", 24), ("XFSZ", 25),
    ("VTALRM", 26), ("PROF", 27), ("WINCH", 28), ("POLL", 29), ("PWR", 30), ("SYS", 31)]

def signalName (number : Nat) : Text :=
  match signals.find? (·.2 = number) with
  | some (n, _) => n.toList
  | none => decimal number

/-- The number of a signal that is given by its name or number. -/
def signal? (t : Text) : Option Nat :=
  let t := t.map Char.toUpper
  let t := (Text.after? "SIG".toList t).getD t
  match natural? t with
  | some n => if n < 65 then some n else none
  | none => (signals.find? fun (n, _) => n.toList = t).map Prod.snd

/-- Wait for the end of a process, until a time at most. -/
def endedBefore (number : Nat) (deadline : Option Int) : Work Bool := do
  waitFor fun m => match (m.endOf? number), deadline with
    | some _, _ => some m.clock
    | none, deadline => deadline
  return ((← get).endOf? number).isSome

def timeout : Starter := fun launch c => do
  let (options, rest) := leadingOptions "ks" c.args
  let rules : OptionRules :=
    { flags := "vpf", valued := "ks"
      long := [("preserve-status", 'p'), ("foreground", 'f'), ("verbose", 'v'), ("signal", 's'),
        ("kill-after", 'k')] }
  match Options.read rules options with
  | .error message => return { status := ← c.misuse message 125 }
  | .ok o =>
    match rest with
    | [] | [_] =>
      failed 125 (c.write 2 ("Try '".toList ++ c.name ++
        " --help' for more information.\n".toList))
    | limit :: name :: args =>
      match Values.interval? limit, ((o.value? 's').map signal?).getD (some 15) with
      | none, _ =>
        return { status := ← c.misuse ("invalid time interval ".toList ++ quoted limit) 125 }
      | _, none =>
        let given := (o.value? 's').getD []
        return { status := ← c.misuse (quoted given ++ ": invalid signal".toList) 125 }
      | some limit, some signal =>
        let held := c.streams.map Prod.snd
        -- What cannot be started is known at once.
        let trial ← begin held fun number => do
          match ← launch name { c with name, args, number := some number } with
          | .ok r => return (r.number, held)
          | .error fault =>
            c.complain ("failed to run command ".toList ++ quoted name ++ ": ".toList ++
              reason fault)
            return (1000 + missingStatus fault, held)
        let start := (← get).clock
        let deadline := match limit with
          | none | some 0 => none
          | some n => some (start + n)
        let told (signal : Nat) : Work Unit := do
          if o.has 'v' then
            c.complain ("sending signal ".toList ++ signalName signal ++ " to command ".toList ++
              quoted name)
        let statusOf : Work Nat := do
          return (((← get).endOf? trial).map Ended.status).getD 0
        if ← endedBefore trial deadline then
          let status ← statusOf
          return { status := if 1000 ≤ status then status - 1000 else status }
        else
          told signal
          send trial signal
          let again := ((o.value? 'k').bind Values.interval?).bind id
          let killed ← if ← endedBefore trial (again.map fun n => (deadline.getD 0) + n) then
              pure false
            else do
              told 9
              send trial 9
              discard (endedBefore trial none)
              pure true
          let status ← statusOf
          if killed || signal = 9 then return { status := 137, signal := some 9 }
          else return { status := if o.has 'p' then status else 124 }

/-! ## Other ways to start a command -/

/-- Start the command that options stand before. -/
def following (valued : String) (status : Nat) (missing : Call → Work Nat) : Starter :=
  fun launch c => do
    match (leadingOptions valued c.args).2 with
    | [] => return { status := ← missing c }
    | name :: args =>
      match ← launch name { c with name, args } with
      | .ok r => return r
      | .error fault =>
        let start := if c.name = "setsid".toList || c.name = "nice".toList ||
            c.name = "nohup".toList then [] else "failed to run command ".toList
        let shown := if start = [] && c.name = "setsid".toList then name else quoted name
        let start := if c.name = "nohup".toList then "failed to run command ".toList
          else if c.name = "setsid".toList then "failed to execute ".toList else start
        failed (if status = 125 then missingStatus fault else status)
          (c.complain (start ++ shown ++ ": ".toList ++ reason fault))

def nice : Starter := fun launch c => do
  if c.args.isEmpty then
    c.print ['0', '\n']
    return { status := 0 }
  else
    let (options, _) := leadingOptions "n" c.args
    match Options.read { flags := "0123456789", valued := "n"
                         long := [("adjustment", 'n')] } options with
    | .error message => return { status := ← c.misuse message 125 }
    | .ok o =>
      let isNumber (t : Text) : Bool :=
        (natural? (if t.head? = some '-' || t.head? = some '+' then t.tail else t)).isSome
      match (o.value? 'n').filter (!isNumber ·) with
      | some t => failed 125 (c.complain ("invalid adjustment ".toList ++ quoted t))
      | none =>
        following "n" 125 (·.misuse "a command must be given with an adjustment".toList 125)
          launch c

def nohup : Starter :=
  following "" 125 fun c => c.misuse "missing operand".toList 125

def stdbuf : Starter := fun launch c => do
  let (options, rest) := leadingOptions "ioe" c.args
  if rest.isEmpty then return { status := ← c.misuse "missing operand".toList 125 }
  else if options.isEmpty then
    return { status := ← c.misuse "you must specify a buffering mode option".toList 125 }
  else following "ioe" 125 (fun _ => return 125) launch c

def setsid : Starter := following "" 127 fun c => c.misuse "no command specified".toList 1

/-- Send signals to processes. -/
def kill : Starter := fun _ c => do
  let (signal, targets) : Option Nat × List Text := match c.args with
    | ['-', 's'] :: t :: ts => (signal? t, ts)
    | ['-', '0'] :: ts => (some 0, ts)
    | ('-' :: t) :: ts => (signal? t, ts)
    | ts => (some 15, ts)
  match signal, targets.mapM natural? with
  | some signal, some (n :: ns) =>
    for n in n :: ns do
      if signal ≠ 0 then send n signal
    return { status := 0 }
  | _, _ => failed 1 (c.complain "failed to parse argument".toList)

def table : List (String × Starter) :=
  [("env", env), ("xargs", xargs), ("timeout", timeout), ("nice", nice), ("nohup", nohup),
    ("stdbuf", stdbuf), ("setsid", setsid), ("kill", kill)]

end GoRepl.Machine.Starting
