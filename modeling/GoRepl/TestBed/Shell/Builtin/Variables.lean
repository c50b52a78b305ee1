import GoRepl.TestBed.Shell.Builtin.Basic

/-! # Test bed: commands about variables and options

Commands of a shell by which variables are declared and taken away, and by which the shell itself is
set up. -/

namespace GoRepl.Machine.Shell.Builtin

/-- What gives a list its elements, if an argument with such a name stands before them. -/
abbrev ListGiver := Text → Option (Run Unit)

/-- An argument that may be an assignment: a name, perhaps with an index, and a value, which may be
added. -/
structure Argument where
  name : Text
  index : Option Text := none
  adds : Bool := false
  value : Option Text := none

def argument (extended : Bool) (t : Text) : Argument :=
  match Text.cutAt? '=' t with
  | none => { name := t }
  | some (before, value) =>
    let adds := extended && before.getLast? = some '+'
    let before := if adds then before.dropLast else before
    let (name, index) := if extended then nameAndIndex before else (before, none)
    { name, index, adds, value := some value }

/-- Keep the value that a variable has, so that it comes back at the end of a function. -/
def keepOld (name : Text) : Run Bool := do
  let s ← get
  match s.locals with
  | none => return false
  | some old =>
    if old.any (·.1 = name) then return false
    else
      set { s with locals := some ((name, s.bindings.get? name) :: old) }
      return true

/-- Change the rules for a variable. -/
def alterRules (name : Text) (f : Variable → Variable) : Run Unit :=
  modify fun s =>
    let name := s.targetName name
    { s with bindings := s.bindings.put name (f ((s.bindings.get? name).getD {})) }

/-! ## Exported and protected variables -/

/-- Print variables in the form in which they can be declared again. -/
def printDeclarations (name : Text) (isShown : Variable → Bool) : Run Unit := do
  let s ← get
  let names := Text.sorted s.bindings.keys
  let shown := names.filterMap fun n => ((s.bindings.get? n).filter isShown).map (n, ·)
  let ls := shown.map fun ((n, v) : Text × Variable) =>
    if s.isExtended then v.declaration n
    else name ++ [' '] ++ n ++ match v.text? with
      | some t => ['='] ++ inQuotes t
      | none => []
  answer name (ofLines ls)

/-- Say that a word cannot be the name of a variable. -/
def refuseName (name arg n : Text) : Run Unit :=
  refuseAs name (n ++ ": bad variable name".toList)
    ("`".toList ++ arg ++ "': not a valid identifier".toList)

/-- Export variables, or protect them from change; an argument may give a value too. -/
def declare (give : ListGiver) (change : Bool → Variable → Variable) (shown : Variable → Bool) :
    Builtin := fun name args => do
  let isExtended := (← get).isExtended
  withOptions (if isExtended then "pnfaA" else "p") "" name args fun o => do
    if o.operands.isEmpty || (o.has 'p' && !isExtended) then printDeclarations name shown
    else
      setStatus 0
      for arg in if o.has 'f' then [] else o.operands do
        let a := argument isExtended arg
        if !isName a.name then refuseName name arg a.name
        else
          if o.has 'a' then alterRules a.name fun v =>
            if v.value.isMany then v else { v with value := .list v.value.numbered }
          if o.has 'A' then alterRules a.name fun v =>
            if v.value.isTable then v else { v with value := .table [] }
          let done ← succeeds do
            match a.value, give arg with
            | some t, _ => assignAt 8 a.name a.index a.adds t
            | none, some elements => elements
            | none, none => pure ()
          if done then alterRules a.name (change (!o.has 'n'))

def exportVariables (give : ListGiver) : Builtin :=
  declare give (fun on v => { v with exported := on }) Variable.exported

def protectVariables (give : ListGiver) : Builtin :=
  declare give (fun _ v => { v with readonly := true }) Variable.readonly

/-! ## Declarations -/

/-- The letters of the options of a declaration, each given or taken back, and the arguments. -/
def declarationOptions : List Text → List (Bool × Char) × List Text
  | ['-', '-'] :: args => ([], args)
  | ('-' :: c :: t) :: args =>
    let (given, rest) := declarationOptions args
    ((c :: t).map (true, ·) ++ given, rest)
  | ('+' :: c :: t) :: args =>
    let (given, rest) := declarationOptions args
    ((c :: t).map (false, ·) ++ given, rest)
  | args => ([], args)

/-- The rules for a variable after an option of a declaration. -/
def withRule (v : Variable) (on : Bool) (c : Char) : Variable :=
  match c with
  | 'a' =>
    if v.value.isMany || !on then v
    else { v with value := .list v.value.numbered, isBare := v.value = .unset }
  | 'A' => if v.value.isTable || !on then v else { v with value := .table [], isBare := true }
  | 'i' => { v with integer := on }
  | 'x' => { v with exported := on }
  | 'n' => { v with reference := on }
  | 'u' | 'l' | 'c' =>
    { v with case? := if on then some c else if v.case? = some c then none else v.case? }
  | _ => v

/-- Print the declarations of some variables. -/
def printNamed (name : Text) (names : List Text) : Run Unit := do
  setStatus 0
  let now := (← machine).clock
  for n in names do
    let s ← get
    match s.bindings.get? n <|> s.bound? now n with
    | some v => output name (v.declaration n ++ ['\n'])
    | none => complainAs name (n ++ ": not found".toList) 1

/-- Print the names of functions that there are. -/
def printFunctionNames (name : Text) (names : List Text) : Run Unit := do
  let s ← get
  setStatus 0
  if names.isEmpty then
    output name (ofLines ((Text.sorted (s.functions.map Prod.fst)).map ("declare -f ".toList ++ ·)))
  else
    for n in names do
      if (s.functions.lookup n).isSome then output name (n ++ ['\n']) else setStatus 1

/-- Declare variables with the rules that letters stand for. In a function they are its own. -/
def declareVariables (give : ListGiver) : Builtin := fun name args => do
  let (given, operands) := declarationOptions args
  let has (c : Char) : Bool := given.any fun ((on, d) : Bool × Char) => on && c = d
  let wrong := given.find? fun ((_, c) : Bool × Char) => !"aAcfFgiIlnprtux".toList.contains c
  match wrong with
  | some (on, c) => unknownOption name [if on then '-' else '+', c]
  | none =>
  if has 'F' || has 'f' then printFunctionNames name operands
  else if has 'p' || operands.isEmpty then
    if operands.isEmpty then printDeclarations name fun v =>
      (!has 'x' || v.exported) && (!has 'r' || v.readonly) && (!has 'i' || v.integer) &&
        (!has 'A' || v.value.isTable) && (!has 'a' || (v.value matches .list _))
    else printNamed name operands
  else
    setStatus 0
    for arg in operands do
      let a := argument true arg
      let (bare, index) := if a.value.isSome then (a.name, a.index) else nameAndIndex a.name
      if !isName bare then
        complainAs name ("`".toList ++ arg ++ "': not a valid identifier".toList) 1
      else
        let s ← get
        let isProtected := (s.bindings.get? bare).any Variable.readonly
        let changes := a.value.isSome || (give arg).isSome ||
          given.any fun ((on, c) : Bool × Char) => on && c ≠ 'r' && c ≠ 'p' && c ≠ 'g'
        let isOwn := (s.locals.getD []).any (·.1 = bare)
        if isProtected && (if s.locals.isNone || has 'g' || isOwn then changes else true) then
          complainAs name (bare ++ ": readonly variable".toList) 1
        else
          if !has 'g' then
            if ← keepOld bare then
              modify fun s => { s with bindings := s.bindings.put bare {} }
          let rule (v : Variable) : Variable :=
            given.foldl (fun v ((on, c) : Bool × Char) => withRule v on c) v
          if has 'n' || given.any (fun ((on, c) : Bool × Char) => !on && c = 'n') then
            modify fun s => { s with
              bindings := s.bindings.put bare (rule ((s.bindings.get? bare).getD {})) }
            match a.value with
            | some t =>
              modify fun s => { s with
                bindings := s.bindings.put bare
                  { (s.bindings.get? bare).getD {} with value := .text t } }
            | none => pure ()
          else
            alterRules bare rule
            if index.isSome && a.value.isNone then
              alterRules bare fun v => { v with value := .list v.value.numbered }
            let _ ← succeeds do
              match a.value, give arg with
              | some t, _ =>
                match index with
                | some i => assignTo (bare ++ ['['] ++ i ++ [']']) t
                | none => assignAt 8 bare none a.adds t
              | none, some elements => elements
              | none, none => pure ()
          if has 'r' then alterRules bare ({ · with readonly := true })

/-- Make variables of a function's own. -/
def localVariables (give : ListGiver) : Builtin := fun name args => do
  let s ← get
  if s.locals.isNone then
    if s.isExtended then complainAs name "can only be used in a function".toList 1
    else fatalAs name "not in a function".toList
  else if s.isExtended then
    if args.isEmpty then
      let names := Text.sorted ((s.locals.getD []).map Prod.fst)
      printNamed name names
    else declareVariables give name args
  else
    for arg in args do
      let a := argument false arg
      if !isName a.name then fatalAs name (a.name ++ ": bad variable name".toList)
      discard (keepOld a.name)
      match a.value with
      | some value => assign a.name value
      | none => pure ()
    setStatus 0

/-- Take an element away. -/
def unsetElement (name n index : Text) : Run Unit := do
  let s ← get
  let name' := s.targetName n
  let v := (s.bindings.get? name').getD {}
  let put (value : Value) : Run Unit :=
    modify fun s => { s with bindings := s.bindings.put name' { v with value } }
  if v.readonly then complainAs name (n ++ ": cannot unset: readonly variable".toList) 1
  else match v.value with
    | .table es => put (.table (es.filter (·.1 ≠ index)))
    | .list es =>
      if index = ['@'] || index = ['*'] then put (.list [])
      else
        let i ← calculateText [] index
        match v.value.number? i with
        | some i => put (.list (es.filter (·.1 ≠ i)))
        | none => complainAs name (['['] ++ index ++ "]: bad array subscript".toList) 1
    | .text _ =>
      if (← calculateText [] index) = 0 then put .unset
      else complainAs name (n ++ ": not an array variable".toList) 1
    | .unset => return

def unset : Builtin := fun name args => do
  let s ← get
  withOptions (if s.isExtended then "fvn" else "fv") "" name args fun o => do
    setStatus 0
    let now := (← machine).clock
    for n in o.operands do
      let s ← get
      let (bare, index) := if s.isExtended then nameAndIndex n else (n, none)
      let target := if o.has 'n' then bare else s.targetName bare
      if o.has 'f' then set { s with functions := s.functions.filter (·.1 ≠ n) }
      else match index with
        | some i => unsetElement name bare i
        | none =>
          match s.bindings.get? target with
          | some v =>
            if v.readonly then
              refuseAs name (n ++ ": is read only".toList)
                (n ++ ": cannot unset: readonly variable".toList)
            else set { s with bindings := s.bindings.erase target }
          | none =>
            if !s.isExtended && !isName n then fatalAs name (n ++ ": bad variable name".toList)
            -- A variable that the shell knows without a value of its own loses its meaning.
            if (s.bound? now target).isSome then
              set { s with bindings := s.bindings.put target {} }
            else if s.isExtended && !o.has 'v' then
              set { s with functions := s.functions.filter (·.1 ≠ n) }

/-- Tell a limit of the machine, of which few are narrow, or accept another one. -/
def ulimit : Builtin := fun name args => do
  let letters := if (← get).isExtended then "SHabcdefiklmnpqrstuvxPRT" else "HSatfdscmlpnvwr"
  withOptions letters "" name args fun o => do
    let shown (letters : List Char) : Text := match letters.find? fun c => c ≠ 'S' && c ≠ 'H' with
      | some 'c' | some 'e' | some 'r' => ['0']
      | some 's' | some 'l' => "8192".toList
      | some 'n' => "1048576".toList
      | some 'p' => ['8']
      | _ => "unlimited".toList
    match o.operands with
    | [] => if o.has 'a' then setStatus 0 else answer name (shown (o.given.map Prod.fst) ++ ['\n'])
    | t :: _ =>
      if ["unlimited", "hard", "soft"].any (·.toList = t) || (natural? t).isSome then setStatus 0
      else refuseAs name "bad number".toList (t ++ ": invalid number".toList)

/-- Tell where the function that runs was called. -/
def caller : Builtin := fun name args => do
  let s ← get
  let values (n : String) : List Text := match s.knownValue? 0 n.toList with
    | some (.list es) => es.map Prod.snd
    | _ => []
  let (lines, files, names) := (values "BASH_LINENO", values "BASH_SOURCE", values "FUNCNAME")
  let at? (ts : List Text) (n : Nat) : Text := (ts[n]?).getD "NULL".toList
  match args with
  | [] =>
    if lines.isEmpty || files.isEmpty then setStatus 1
    else answer name (at? lines 0 ++ [' '] ++ at? files 1 ++ ['\n'])
  | t :: _ =>
    match natural? t with
    | none =>
      complainAs name (t ++ ": invalid number".toList) 1
      showUsage name
    | some n =>
      match lines[n]?, names[n + 1]?, files[n + 1]? with
      | some line, some function, some file =>
        answer name (line ++ [' '] ++ function ++ [' '] ++ file ++ ['\n'])
      | _, _, _ => setStatus 1

/-! ## Options -/

/-- The letters of the options of a shell. -/
def optionChars (d : Dialect) : List Char :=
  match d with
  | .plain => "efIimnsxvVECabup".toList
  | .extended => "abefhkmnptuvxBCEHPT".toList

/-- The longer names of the options of a shell, in the order in which they are listed. -/
def optionNames (d : Dialect) : List Text :=
  match d with
  | .plain => ["errexit", "noglob", "ignoreeof", "interactive", "monitor", "noexec", "stdin",
      "xtrace", "verbose", "vi", "emacs", "noclobber", "allexport", "notify", "nounset",
      "privileged", "nolog", "debug"].map String.toList
  | .extended => longOptions.map (·.1.toList)

def switch (on : Bool) (c : Char) : Run Unit :=
  modify fun s =>
    let others := s.options.filter (· ≠ c)
    { s with options := if on then c :: others else others }

/-- The sign for the option with a longer name. -/
def optionChar? (d : Dialect) (name : Text) : Option Char :=
  if !(optionNames d).contains name then none
  else match longOptions.find? (·.1.toList = name) with
    | some (_, c) => some c
    | none => match String.ofList name with
      | "stdin" => some 's'
      | "interactive" => some 'i'
      | _ => some '.'

/-- Tell which options are set, for people or in the form of commands. -/
def printOptions (name : Text) (asCommands : Bool) : Run Unit := do
  let s ← get
  let isOn (n : Text) : Bool := s.hasLongOption n || (n = "stdin".toList && s.hasOption 's')
  let ls := (optionNames s.dialect).map fun n =>
    if asCommands then (if isOn n then "set -o " else "set +o ").toList ++ n
    else
      let state := (if isOn n then "on" else "off").toList
      match s.dialect with
      | .plain => n ++ List.replicate (16 - n.length) ' ' ++ state
      | .extended => n ++ List.replicate (15 - n.length) ' ' ++ ['\t'] ++ state
  let title := if s.isExtended || asCommands then [] else ["Current option settings".toList]
  answer name (ofLines (title ++ ls))

/-- Set or unset options, and give what is left of the arguments if they end the options. None
stands for a fault. -/
def takeOptions (name : Text) : (waiting : Option Bool) → List Text →
    Run (Option (Option (List Text)))
  | some on, [] => do
    printOptions name !on
    return some none
  | none, [] => return some none
  | some on, arg :: args => do
    let s ← get
    match optionChar? s.dialect arg with
    | some c =>
      switch on c
      takeOptions name none args
    | none =>
      if s.isExtended then
        complainAs name (arg ++ ": invalid option name".toList) 2
        return none
      else
        let sign := if on then '-' else '+'
        fatalAs name ("Illegal option ".toList ++ [sign] ++ "o ".toList ++ arg)
  | none, arg :: args => do
    match arg with
    | ['-', '-'] => return some (some args)
    | ['-'] =>
      switch false 'x'
      switch false 'v'
      return some (if args.isEmpty then none else some args)
    | '-' :: cs => letters true cs args
    | '+' :: cs => letters false cs args
    | _ => return some (some (arg :: args))
where
  letters (on : Bool) (cs : List Char) (args : List Text) :
      Run (Option (Option (List Text))) := do
    let s ← get
    match cs.find? fun c => c ≠ 'o' && !(optionChars s.dialect).contains c with
    | some c =>
      let option : Text := [if on then '-' else '+', c]
      if s.isExtended then
        Shell.complainAs name (option ++ ": invalid option".toList)
        showUsage name
        return none
      else fatalAs name ("Illegal option ".toList ++ option)
    | none =>
      for c in cs do
        if c ≠ 'o' then switch on c
      takeOptions name (if cs.contains 'o' then some on else none) args

/-- All variables with their values. -/
def printVariables (name : Text) : Run Unit := do
  let s ← get
  let ls := (Text.sorted s.bindings.keys).filterMap fun n =>
    match s.dialect, ((s.bindings.get? n).map Variable.value).getD .unset with
    | .plain, value => value.text?.map fun t => n ++ ['='] ++ inQuotes t
    | .extended, .text t => some (n ++ ['='] ++ if t = [] then [] else asWord' t)
    | .extended, value => value.shown?.map fun t => n ++ ['='] ++ t
  answer name (ofLines ls)
where
  asWord' (t : Text) : Text := if t.any isUnprintable then inEscapes t else asWord t

def setOptions : Builtin := fun name args => do
  if args.isEmpty then printVariables name
  else
    setStatus 0
    match ← takeOptions name none args with
    | some (some args) => modify ({ · with args })
    | _ => return

/-- The further options of the extended shell, and whether they are set from the start. -/
def switchNames : List (String × Bool) :=
  [("autocd", false), ("assoc_expand_once", false), ("cdable_vars", false), ("cdspell", false),
    ("checkhash", false), ("checkjobs", false), ("checkwinsize", true), ("cmdhist", true),
    ("compat31", false), ("compat32", false), ("compat40", false), ("compat41", false),
    ("compat42", false), ("compat43", false), ("compat44", false), ("complete_fullquote", true),
    ("direxpand", false), ("dirspell", false), ("dotglob", false), ("execfail", false),
    ("expand_aliases", false), ("extdebug", false), ("extglob", false), ("extquote", true),
    ("failglob", false), ("force_fignore", true), ("globasciiranges", true),
    ("globskipdots", true), ("globstar", false), ("gnu_errfmt", false), ("histappend", false),
    ("histreedit", false), ("histverify", false), ("hostcomplete", true), ("huponexit", false),
    ("inherit_errexit", false), ("interactive_comments", true), ("lastpipe", false),
    ("lithist", false), ("localvar_inherit", false), ("localvar_unset", false),
    ("login_shell", false), ("mailwarn", false), ("no_empty_cmd_completion", false),
    ("nocaseglob", false), ("nocasematch", false), ("noexpand_translation", false),
    ("nullglob", false), ("patsub_replacement", true), ("progcomp", true),
    ("progcomp_alias", false), ("promptvars", true), ("restricted_shell", false),
    ("shift_verbose", false), ("sourcepath", true), ("varredir_close", false),
    ("xpg_echo", false)]

def initialSwitches : List Text := (switchNames.filter Prod.snd).map (·.1.toList)

def shopt : Builtin := fun name args => do
  withOptions "pqsuo" "" name args fun o => do
    let s ← get
    let names := if o.has 'o' then optionNames s.dialect else switchNames.map (·.1.toList)
    let isOn (s : Shell) (n : Text) : Bool :=
      if o.has 'o' then s.hasLongOption n else s.switches.contains n
    let shown (n : Text) : Text :=
      let on := isOn s n
      if o.has 'p' then
        (if o.has 'o' then if on then "set -o " else "set +o "
          else if on then "shopt -s " else "shopt -u ").toList ++ n
      else n ++ List.replicate (15 - n.length) ' ' ++ ['\t'] ++ (if on then "on" else "off").toList
    setStatus 0
    if o.operands.isEmpty then
      let kept := names.filter fun n =>
        (!o.has 's' || isOn s n) && (!o.has 'u' || !isOn s n)
      if !o.has 'q' then output name (ofLines (kept.map shown))
    else
      for n in o.operands do
        if !names.contains n then
          complainAs name (n ++ (if o.has 'o' then ": invalid option name"
            else ": invalid shell option name").toList) 1
        else if o.has 's' || o.has 'u' then
          if o.has 'o' then
            match optionChar? s.dialect n with
            | some c => switch (o.has 's') c
            | none => pure ()
          else modify fun s =>
            let others := s.switches.filter (· ≠ n)
            { s with switches := if o.has 's' then n :: others else others }
        else
          if !isOn s n then setStatus 1
          if !o.has 'q' then output name (shown n ++ ['\n'])

/-! ## Arguments -/

def shift : Builtin := fun name args => do
  let s ← get
  match args with
  | [] => go s name 1
  | t :: _ =>
    match natural? t, s.isExtended with
    | some n, _ => go s name n
    | none, false => fatalAs name ("Illegal number: ".toList ++ t)
    | none, true =>
      let isNegative := t.head? = some '-' && (natural? t.tail).isSome
      complainAs name (t ++ (if isNegative then ": shift count out of range"
        else ": numeric argument required").toList) 1
where
  go (s : Shell) (name : Text) (n : Nat) : Run Unit := do
    if s.args.length < n then
      if s.isExtended then setStatus 1 else fatalAs name "can't shift that many".toList
    else
      set { s with args := s.args.drop n }
      setStatus 0

/-- Take the next option from the arguments. The place inside of an argument with several letters
is kept. -/
def getopts : Builtin := fun name args => do
  match args with
  | known :: n :: given =>
    let s ← get
    let given := if given.isEmpty then s.args else given
    let index := ((s.value? "OPTIND".toList).bind natural?).getD 1
    let spot := if s.optionSpot.1 = index then s.optionSpot.2 else 0
    let arg := (given[index - 1]?).getD []
    let isOver := spot = 0 && (arg.head? ≠ some '-' || arg = ['-'] || arg = ['-', '-'])
    if isOver then
      finishOptions n (if arg = ['-', '-'] then index + 1 else index)
    else
      let spot := max spot 1
      let c := (arg[spot]?).getD ' '
      let isLast := arg.length ≤ spot + 1
      let silent := known.head? = some ':'
      let place (index spot : Nat) : Run Unit := do
        assign "OPTIND".toList (decimal index)
        modify ({ · with optionSpot := (index, spot) })
      let after := if isLast then (index + 1, 0) else (index, spot + 1)
      match known.dropWhile (· ≠ c) with
      | _ :: rest =>
        if c = ':' then unknown n silent c (place after.1 after.2)
        else if rest.head? = some ':' then
          let value? := if isLast then given[index]? else some (arg.drop (spot + 1))
          place (if isLast then index + 2 else index + 1) 0
          match value? with
          | some value =>
            assign "OPTARG".toList value
            finish n c 0
          | none =>
            assign "OPTIND".toList (decimal (index + 1))
            if silent then
              assign "OPTARG".toList [c]
              finish n ':' 0
            else
              warn ("No arg for -" ++ String.ofList [c] ++ " option")
                ("option requires an argument -- " ++ String.ofList [c])
              forget "OPTARG"
              finish n '?' 0
        else
          place after.1 after.2
          forget "OPTARG"
          finish n c 0
      | [] => unknown n silent c (place after.1 after.2)
  | _ =>
    if (← get).isExtended then showUsage name
    else complainAs name "Usage: getopts optstring var [arg...]".toList 2
where
  finish (n : Text) (c : Char) (status : Nat) : Run Unit := do
    if ← assignOr 2 n [c] then setStatus status
  forget (n : String) : Run Unit :=
    modify fun s => { s with bindings := s.bindings.erase n.toList }
  finishOptions (n : Text) (index : Nat) : Run Unit := do
    assign "OPTIND".toList (decimal index)
    forget "OPTARG"
    finish n '?' 1
  warn (plain extended : String) : Run Unit := do
    let s ← get
    match s.dialect with
    | .plain => put 2 (plain.toList ++ ['\n'])
    | .extended =>
      if s.value? "OPTERR".toList ≠ some ['0'] then
        put 2 (s.name ++ ": ".toList ++ extended.toList ++ ['\n'])
  unknown (n : Text) (silent : Bool) (c : Char) (goOn : Run Unit) : Run Unit := do
    goOn
    if silent then assign "OPTARG".toList [c]
    else
      let letter := String.ofList [c]
      warn ("Illegal option -" ++ letter) ("illegal option -- " ++ letter)
      forget "OPTARG"
    finish n '?' 0

/-! ## Expressions and other names -/

/-- Evaluate expressions. The last one decides the status. -/
def letValues : Builtin := fun name args => do
  if args.isEmpty then complainAs name "expression expected".toList 1
  else
    let done ← succeeds do
      let last ← args.foldlM (fun _ t => calculateText "let: ".toList t) 0
      setStatus (if last = 0 then 1 else 0)
    if !done then setStatus 1

/-- Give names to texts, or tell which there are. -/
def aliasNames : Builtin := fun name args => do
  let s ← get
  let shown (a : Text × Text) : Text :=
    if s.isExtended then "alias ".toList ++ a.1 ++ ['='] ++ inSingleQuotes a.2 ++ ['\n']
    else a.1 ++ ['='] ++ inQuotes a.2 ++ ['\n']
  let args := if s.isExtended then args.filter (· ≠ ['-', 'p']) else args
  setStatus 0
  if args.isEmpty then
    let names := Text.sorted (s.aliases.map Prod.fst)
    let names := if s.isExtended then names else s.aliases.map Prod.fst
    output name (names.flatMap fun n => shown (n, (s.aliases.lookup n).getD []))
  else
    for arg in args do
      let s ← get
      match Text.cutAt? '=' arg with
      | some (n, t) => set { s with aliases := (n, t) :: s.aliases.filter (·.1 ≠ n) }
      | none =>
        match s.aliases.lookup arg with
        | some t => output name (shown (arg, t))
        | none =>
          if s.isExtended then complainAs name (arg ++ ": not found".toList) 1
          else
            put 2 (name ++ ": ".toList ++ arg ++ " not found\n".toList)
            setStatus 1

def unaliasNames : Builtin := fun name args => do
  setStatus 0
  if args.head? = some ['-', 'a'] then modify ({ · with aliases := [] })
  else if args.isEmpty && (← get).isExtended then showUsage name
  else
    for n in args do
      let s ← get
      if (s.aliases.lookup n).isSome then set { s with aliases := s.aliases.filter (·.1 ≠ n) }
      else if s.isExtended then complainAs name (n ++ ": not found".toList) 1
      else
        put 2 (name ++ ": ".toList ++ n ++ " not found\n".toList)
        setStatus 1

end GoRepl.Machine.Shell.Builtin
