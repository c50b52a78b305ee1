import GoRepl.TestBed.Command.Records.State

/-! # Test bed: running programs on records

The actions of a program: the values of its expressions, and what its statements do. -/

namespace GoRepl.Machine.Records

/-! ## Texts -/

/-- A text with others in place of matches; `most` of them at most, and how many there were. What
stands before the text is given backwards. -/
def substitute (r : Regex) (new : Text) : (fuel most : Nat) → (before : Text) → Text → Text × Nat
  | 0, _, _, t => (t, 0)
  | _, 0, _, t => (t, 0)
  | fuel + 1, most + 1, before, t =>
    match Regex.find? r before t with
    | none => (t, 0)
    | some m =>
      let filled := fill m.matched new
      let before := m.after.before
      if m.matched = [] then
        match m.after.rest with
        | [] => (m.before ++ filled, 1)
        | c :: rest =>
          let (rest, n) := substitute r new fuel most (c :: before) rest
          (m.before ++ filled ++ c :: rest, n + 1)
      else
        -- Right behind a match there is no empty one.
        match m.after.rest with
        | [] => (m.before ++ filled, 1)
        | rest =>
          let emptyHere := (Regex.matchAt? r ⟨before, rest, [], none⟩).any fun m => m.matched = []
          if emptyHere then
            match rest with
            | c :: rest =>
              let (rest, n) := substitute r new fuel most (c :: before) rest
              (m.before ++ filled ++ c :: rest, n + 1)
            | [] => (m.before ++ filled, 1)
          else
            let (rest, n) := substitute r new fuel most before rest
            (m.before ++ filled ++ rest, n + 1)
where
  /-- The match stands in place of an ampersand that has no backslash before it. -/
  fill (matched : Text) : Text → Text
    | '\\' :: '&' :: t => '&' :: fill matched t
    | '\\' :: '\\' :: t => '\\' :: fill matched t
    | '&' :: t => matched ++ fill matched t
    | c :: t => c :: fill matched t
    | [] => []

/-- A piece of a text, by the numbers of its characters. -/
def piece (t : Text) (start : Float) (length : Option Float) : Text :=
  let round (x : Float) : Int := Value.whole ((x + 0.5).floor)
  let first := round start
  let last : Int := match length with
    | some n => if n.isNaN then first else round (start + n)
    | none => t.length + 1
  let from' := (max first 1).toNat
  (t.drop (from' - 1)).take (last.toNat - from')

/-! ## Expressions and statements -/

def arithmetic (op : Char) (x y : Float) : Float :=
  match op with
  | '+' => x + y
  | '-' => x - y
  | '*' => x * y
  | '/' => x / y
  | '%' => if y == 0 then 0 / 0 else remainder x y
  | _ => x.pow y
where
  remainder (x y : Float) : Float :=
    let q := (x / y).abs.floor
    let r := x.abs - q * y.abs
    if x < 0 then -r else r

/-- A fault while a program is run, told with the place in the input. -/
def faultWhile {α : Type} (message : Text) : Act α := do
  let s ← get
  let number (n : String) : Text := (bound? s n).toText fun _ => []
  fault ("run time error: ".toList ++ message ++ "\n\tFILENAME=\"".toList ++
    variableText s "FILENAME" ++ "\" FNR=".toList ++ number "FNR" ++ " NR=".toList ++ number "NR")

/-- The number of a field. -/
def fieldNumber (v : Value) : Act Nat := do
  let x := v.toNumber
  if x < 0 then faultWhile ("negative field index $".toList ++ Value.shownAs { kind := 'g' } x)
  else return (Value.whole x).toNat

/-- A text that a format makes of values, or the fault of the format. -/
def filledIn (name : String) (vs : List Value) : Act Text := do
  let s ← get
  let format := textOf s (vs.headD .unset)
  let (t, problem) := formatted (shownBy s "CONVFMT") (format.length + 1) 0 format vs.tail
  let failure (message : Text) : Act Text := do
    if name = "printf" then modify fun s => { s with printed := t :: s.printed }
    faultWhile (message ++ name.toList ++ "(\"".toList ++ format ++ "\")".toList)
  match problem with
  | none => return t
  | some .missing => failure "not enough arguments passed to ".toList
  | some (.improper n) =>
    failure ("improper conversion(number ".toList ++ decimal n ++ ") in ".toList)

mutual

def eval (g : Setting) (p : Program) : (fuel : Nat) → Expr → Act Value
  | 0, _ => endless g
  | fuel + 1, e => do
    match e with
    | .number x => return .number x
    | .text t => return .text t
    | .regex _ r => return .ofBool (r.occursIn (← get).record)
    | .field n =>
      let n ← fieldNumber (← eval g p fuel n)
      let s ← get
      if n = 0 then return .outside s.record
      else match s.fields[n - 1]? with
        | some t => return .outside t
        | none => return .unset
    | .variable n => getVariable n
    | .element n index =>
      let k ← key g p fuel index
      withTable n fun t =>
        let (v, t) := t.seek k true
        (v.getD .unset, t)
    | .assign target op value =>
      let v ← eval g p fuel value
      let v ← if op = '=' then pure v
        else do
          let old ← eval g p fuel target
          pure (.number (arithmetic op old.toNumber v.toNumber))
      store g p fuel target v
      return v
    | .bump target up after =>
      let old := (← eval g p fuel target).toNumber
      let new := if up then old + 1 else old - 1
      store g p fuel target (.number new)
      return .number (if after then new else old)
    | .unary op e =>
      let v ← eval g p fuel e
      match op with
      | '!' => return .ofBool !v.isTrue
      | '-' => return .number (0 - v.toNumber)
      | _ => return .number v.toNumber
    | .binary op a b =>
      let x ← eval g p fuel a
      match op with
      | ['&', '&'] =>
        if !x.isTrue then return .ofBool false
        else return .ofBool (← eval g p fuel b).isTrue
      | ['|', '|'] =>
        if x.isTrue then return .ofBool true
        else return .ofBool (← eval g p fuel b).isTrue
      | _ =>
        let y ← eval g p fuel b
        let order (_ : Unit) : Act Ordering := do
          let s ← get
          return Value.compare (shownBy s "CONVFMT") x y
        match op with
        | ['<'] => return .ofBool ((← order ()) = .lt)
        | ['<', '='] => return .ofBool ((← order ()) ≠ .gt)
        | ['=', '='] => return .ofBool ((← order ()) = .eq)
        | ['!', '='] => return .ofBool ((← order ()) ≠ .eq)
        | ['>'] => return .ofBool ((← order ()) = .gt)
        | ['>', '='] => return .ofBool ((← order ()) ≠ .lt)
        | _ => return .number (arithmetic (op.headD '^') x.toNumber y.toNumber)
    | .joined a b =>
      let x ← text g p fuel a
      return .text (x ++ (← text g p fuel b))
    | .isMatch negated a b =>
      let x ← text g p fuel a
      let r ← pattern g p fuel b
      return .ofBool (r.occursIn x != negated)
    | .isIn index n =>
      let k ← key g p fuel index
      withTable n fun t =>
        let (v, t) := t.seek k false
        (.ofBool v.isSome, t)
    | .choice condition yes no =>
      if (← eval g p fuel condition).isTrue then eval g p fuel yes else eval g p fuel no
    | .several [e] => eval g p fuel e
    | .several es => return .text (← key g p fuel es).toText
    | .next target none =>
      match ← nextRecord? g with
      | none => return .number 0
      | some t =>
        match target with
        | none => setRecord t
        | some target => store g p fuel target (.outside t)
        return .number 1
    | .next target (some (isCommand, source)) =>
      let name ← text g p fuel source
      match ← takeFrom g isCommand name with
      | none => return .number (-1)
      | some none => return .number 0
      | some (some t) =>
        match target with
        | none => setRecord t
        | some target => store g p fuel target (.outside t)
        return .number 1
    | .call n args => call g p fuel n args

/-- The text of an expression's value. -/
def text (g : Setting) (p : Program) : (fuel : Nat) → Expr → Act Text
  | 0, _ => endless g
  | fuel + 1, e => do
    let v ← eval g p fuel e
    return textOf (← get) v

/-- What an index stands for. -/
def key (g : Setting) (p : Program) : (fuel : Nat) → List Expr → Act Key
  | 0, _ => endless g
  | fuel + 1, es => do
    match es with
    | [e] =>
      let v ← eval g p fuel e
      return Key.ofValue (shownBy (← get) "CONVFMT") v
    | es =>
      let ts ← es.mapM (text g p fuel)
      return .text (List.intercalate (variableText (← get) "SUBSEP") ts)

/-- The regular expression that an operand stands for. -/
def pattern (g : Setting) (p : Program) : (fuel : Nat) → Expr → Act Regex
  | 0, _ => endless g
  | fuel + 1, e => do
    match e with
    | .regex _ r => return r
    | e =>
      let t ← text g p fuel e
      match regexOf t with
      | .error message => faultWhile message
      | .ok r => return r

def store (g : Setting) (p : Program) : (fuel : Nat) → (target : Expr) → Value → Act Unit
  | 0, _, _ => endless g
  | fuel + 1, target, v => do
    match target with
    | .variable n => setVariable n v
    | .element n index =>
      let k ← key g p fuel index
      withTable n fun t => ((), t.put k v)
    | .field n =>
      let n ← fieldNumber (← eval g p fuel n)
      let s ← get
      let t := textOf s v
      if n = 0 then setRecord t
      else
        let missing := List.replicate (n - s.fields.size) []
        setFields ((s.fields ++ missing.toArray).setIfInBounds (n - 1) t)
    | .several [e] => store g p fuel e v
    | _ => fault "syntax error".toList

/-- Call a function. -/
def call (g : Setting) (p : Program) : (fuel : Nat) → Text → List Expr → Act Value
  | 0, _, _ => endless g
  | fuel + 1, name, args => do
    let textAt (k : Nat) : Act Text := do
      match args[k]? with
      | some e => text g p fuel e
      | none => return []
    let numberAt (k : Nat) : Act Float := do
      match args[k]? with
      | some e => return (← eval g p fuel e).toNumber
      | none => return 0
    match String.ofList name with
    | "length" =>
      match args with
      | [] => return .ofNat (← get).record.length
      | [.variable n] =>
        let s ← get
        let id := match s.slots.bind (·.lookup n) with
          | some (.table id) | some (.pending id) => id
          | some (.value _) => []
          | none => n
        match s.tables.get? id with
        | some t => return .ofNat t.size
        | none => return .ofNat (← textAt 0).length
      | _ => return .ofNat (← textAt 0).length
    | "substr" =>
      let t ← textAt 0
      let start ← numberAt 1
      let length ← numberAt 2
      return .text (piece t start (if args.length < 3 then none else some length))
    | "index" =>
      let t ← textAt 0
      let sought ← textAt 1
      let found := (List.range (t.length + 1)).find? fun k => sought.isPrefixOf (t.drop k)
      return .ofNat ((found.map (· + 1)).getD 0)
    | "split" =>
      let t ← textAt 0
      match args with
      | _ :: .variable n :: rest =>
        let parts ← match rest with
          | [] => do pure (separated t (variableText (← get) "FS"))
          | .regex _ r :: _ => pure (cutAll r (t.length + 1) t)
          | e :: _ => do pure (separated t (← text g p fuel e))
        let parts := if t = [] then [] else parts
        withTable n fun _ => ((), .ofList (parts.map .outside))
        return .ofNat parts.length
      | _ => fault "syntax error".toList
    | "sub" | "gsub" =>
      match args with
      | r :: new :: rest =>
        let r ← pattern g p fuel r
        let new ← text g p fuel new
        let target := rest.headD (.field (.number 0))
        let t ← text g p fuel target
        let most := if name = "sub".toList then 1 else t.length + 2
        let (t, n) := substitute r new (t.length + 3) most [] t
        if 0 < n then store g p fuel target (.text t)
        return .ofNat n
      | _ => fault "syntax error".toList
    | "match" =>
      let t ← textAt 0
      let r ← pattern g p fuel ((args[1]?).getD (.text []))
      let (start, length) : Float × Float := match Regex.find? r [] t with
        | some m => (Float.ofNat (m.before.length + 1), Float.ofNat m.matched.length)
        | none => (0, -1)
      setVariable "RSTART".toList (.number start)
      setVariable "RLENGTH".toList (.number length)
      return .number start
    | "sprintf" => return .text (← filledIn "sprintf" (← args.mapM (eval g p fuel)))
    | "tolower" => return .text ((← textAt 0).map Char.toLower)
    | "toupper" => return .text ((← textAt 0).map Char.toUpper)
    | "int" =>
      let x ← numberAt 0
      return .number (if x < 0 then x.ceil else x.floor)
    | "sqrt" => return .number (← numberAt 0).sqrt
    | "exp" => return .number (← numberAt 0).exp
    | "log" => return .number (← numberAt 0).log
    | "sin" => return .number (← numberAt 0).sin
    | "cos" => return .number (← numberAt 0).cos
    | "atan2" =>
      let y ← numberAt 0
      return .number (Float.atan2 y (← numberAt 1))
    | "rand" =>
      let (n, generator) := (← get).generator.next
      modify ({ · with generator })
      return .number (n.toFloat / 2147483647)
    | "srand" =>
      let seed ← match args with
        | [] => do pure (Float.ofInt ((← work get).clock / 1000000))
        | _ => numberAt 0
      let old := (← get).generator.seed
      modify ({ · with generator := .ofSeed seed })
      return .number old
    | "close" => return .number (Float.ofInt (← close g (← textAt 0)))
    | "fflush" =>
      flush g
      return .number 0
    | "system" =>
      let t ← textAt 0
      flush g
      return .ofNat (statusOf (← work (g.launch "/bin/sh".toList (shellCall g.call "sh" t))))
    | _ =>
      match p.functions.lookup name with
      | none => fault ("function ".toList ++ name ++ " never defined".toList)
      | some (params, body) =>
        let slots ← params.zipIdx.mapM fun (n, k) => do
          match args[k]? with
          | none => return (n, Slot.value .unset)
          | some (.variable x) => return (n, ← slotFor x)
          | some e => return (n, .value (← eval g p fuel e))
        let before := (← get).slots
        modify ({ · with slots := some slots })
        let result ← tryCatch (do
            exec g p fuel body
            return Value.unset) fun
          | .give v => return v
          | j => throw j
        modify ({ · with slots := before })
        return result

def exec (g : Setting) (p : Program) : (fuel : Nat) → Stmt → Act Unit
  | 0, _ => endless g
  | fuel + 1, s => do
    let isTrue (e : Expr) : Act Bool := do return (← eval g p fuel e).isTrue
    match s with
    | .expr e => discard (eval g p fuel e)
    | .print args isFormatted target =>
      let vs ← args.mapM (eval g p fuel)
      let s ← get
      let t ← if isFormatted then filledIn "printf" vs
        else pure <|
          (if vs.isEmpty then s.record
          else List.intercalate (variableText s "OFS")
            (vs.map fun v => v.toText (shownBy s "OFMT"))) ++ variableText s "ORS"
      match target with
      | none => modify fun s => { s with printed := t :: s.printed }
      | some (way, e) => write g way (← text g p fuel e) t
    | .block body => body.forM (exec g p fuel)
    | .branch condition yes no =>
      if ← isTrue condition then exec g p fuel yes else exec g p fuel no
    | .loop condition body => rounds g p fuel condition body none
    | .doLoop body condition =>
      if ← round g p fuel body then rounds g p fuel condition body none
    | .count start condition step body =>
      exec g p fuel start
      rounds g p fuel (condition.getD (.number 1)) body (some step)
    | .each x l body =>
      let keys ← withTable l Table.keys
      discard (keys.foldlM (fun going k => do
        if going then
          setVariable x (.text k)
          round g p fuel body
        else return false) true)
    | .leaveLoop => throw .leaveLoop
    | .nextRound => throw .nextRound
    | .nextRecord => throw .nextRecord
    | .nextFile =>
      modify ({ · with input := none })
      throw .nextRecord
    | .exit status =>
      match status with
      | some e =>
        let n := Value.whole (← eval g p fuel e).toNumber
        modify ({ · with status := (n % 256).toNat })
      | none => pure ()
      throw .exit
    | .delete n [] => withTable n fun _ => ((), {})
    | .delete n index =>
      let k ← key g p fuel index
      withTable n fun t => ((), t.erase k)
    | .give value =>
      match value with
      | some e => throw (.give (← eval g p fuel e))
      | none => throw (.give .unset)

/-- One round of a loop: does the loop go on? -/
def round (g : Setting) (p : Program) : (fuel : Nat) → Stmt → Act Bool
  | 0, _ => endless g
  | fuel + 1, body =>
    tryCatch (do
      exec g p fuel body
      return true) fun
      | .leaveLoop => return false
      | .nextRound => return true
      | j => throw j

/-- The rounds of a loop. One that takes too many of them has no end. -/
def rounds (g : Setting) (p : Program) : (fuel : Nat) → Expr → Stmt → Option Stmt → Act Unit
  | 0, _, _, _ => endless g
  | fuel + 1, condition, body, step => do
    if (← eval g p fuel condition).isTrue then
      if ← round g p fuel body then
        match step with
        | some step => exec g p fuel step
        | none => pure ()
        rounds g p fuel condition body step

end

/-! ## Programs -/

/-- How deep what a program does may be nested. -/
def depthLimit : Nat := 2000000

/-- Take the actions of the rules that a record matches. -/
def applyRules (g : Setting) (p : Program) : Act Unit :=
  tryCatch (p.rules.zipIdx.forM fun (r, k) => do
    let act : Act Unit := match r.body with
      | some body => exec g p depthLimit body
      | none => exec g p depthLimit (.print [] false none)
    let holds (e : Expr) : Act Bool := do return (← eval g p depthLimit e).isTrue
    match r.pattern with
    | .always => act
    | .where_ e => if ← holds e then act
    | .between first last =>
      let isInside := (← get).inside.contains k
      if isInside || (← holds first) then
        if ← holds last then modify fun s => { s with inside := s.inside.filter (· ≠ k) }
        else if !isInside then modify fun s => { s with inside := k :: s.inside }
        act
    | _ => return) fun
  | .nextRecord => return
  | j => throw j

/-- Read all records. -/
def readAll (g : Setting) (p : Program) : (fuel : Nat) → Act Unit
  | 0 => endless g
  | fuel + 1 => do
    match ← nextRecord? g with
    | none => return
    | some t =>
      setRecord t
      applyRules g p
      readAll g p fuel

/-- Run a program from its beginning to its end. -/
def whole (g : Setting) (p : Program) : Act Unit := do
  let stage (isStage : Pattern → Bool) : Act Unit :=
    p.rules.forM fun r => if isStage r.pattern then
        match r.body with
        | some body => exec g p depthLimit body
        | none => return
      else return
  let isMain := p.rules.any fun r => !(r.pattern matches .start)
  tryCatch (do
    stage (· matches .start)
    if isMain then readAll g p depthLimit) fun
    | .exit => return
    | j => throw j
  tryCatch (stage (· matches .finish)) fun
    | .exit => return
    | j => throw j

/-- Write all that is left, and wait for the commands that read it. -/
def finish (g : Setting) : Act Unit := do
  flush g
  let s ← get
  set { s with writers := [] }
  for w in s.writers do
    discard (closeWriter w)

/-- The state in which a program starts, with what options gave to variables. -/
def startState (c : Call) (given : List (Char × Text)) (others : List Text) : State :=
  let list (vs : List (Key × Value)) : Table := vs.foldl (fun t (k, v) => t.put k v) {}
  let arguments := (c.name :: others).zipIdx.map fun (t, k) => (Key.number k, Value.outside t)
  let environment := c.environment.map fun (n, v) => (Key.text n, Value.outside v)
  let standard : List (String × Value) :=
    [("FS", .text [' ']), ("OFS", .text [' ']), ("ORS", .text ['\n']), ("RS", .text ['\n']),
      ("SUBSEP", .text ['\x1c']), ("NR", .number 0), ("FNR", .number 0),
      ("CONVFMT", .text "%.6g".toList), ("OFMT", .text "%.6g".toList),
      ("ARGC", .ofNat arguments.length)]
  let bindings : Named Value :=
    standard.foldl (fun vars (n, v) => vars.insert n.toList v) ∅
  let bindings := given.foldl (fun vars ((l, t) : Char × Text) => match l, assigned? t with
    | 'F', _ => vars.insert "FS".toList (.text (unescapedText (t.length + 1) t))
    | 'v', some (n, v) => vars.insert n v
    | _, _ => vars) bindings
  { bindings
    tables := ((∅ : Named Table).insert "ENVIRON".toList (list environment)).insert
      "ARGV".toList (list arguments) }

/-- How many of the arguments are options. -/
def optionCount : List Text → Nat
  | [] => 0
  | t :: ts =>
    if t = ['-', '-'] then 1
    else if t.head? ≠ some '-' || t = ['-'] then 0
    else if t.length = 2 && "Fvf".toList.contains (t.getLastD ' ') then
      2 + match ts with
        | [] => 0
        | _ :: ts => optionCount ts
    else 1 + optionCount ts

/-- The arguments: the program's text, separators and variables that are set, and the operands. -/
def awk (launch : Launch) (c : Call) : Work Nat := do
  let cut := optionCount c.args
  match Options.read { flags := "", valued := "FvfW" } (c.args.take cut) with
  | .error message => c.fail message 2
  | .ok o =>
    let rest := c.args.drop cut
    let files := o.given.filterMap fun ((l, t) : Char × Text) => if l = 'f' then some t else none
    let mut source : Text := []
    for file in files do
      match ← c.contents file with
      | .ok f => source := source ++ f.text ++ ['\n']
      | .error fault =>
        return ← c.fail ("couldn't open file ".toList ++ file ++ " (".toList ++
          Call.reason fault ++ [')']) 2
    let isGiven := !files.isEmpty
    match if isGiven then some source else rest.head? with
    | none =>
      c.write 2 "Usage: mawk [Options] [Program] [file ...]\n".toList
      return 2
    | some t =>
      match read t with
      | .error ms =>
        for m in ms do
          let start : Text := match m.line with
            | some n => "line ".toList ++ decimal n
            | none => ['1']
          c.complain (start ++ ": ".toList ++ m.message)
        return 2
      | .ok p =>
        let g : Setting := ⟨c, launch⟩
        let s := startState c o.given (if isGiven then rest else rest.tail)
        let (r, s) ← (ExceptT.run (tryCatch (whole g p) fun
          | .fault message => do
            work (c.complain message)
            finish g
            modify ({ · with status := 2 })
          | j => throw j)) s
        match r with
        | .error _ => return s.status
        | .ok () =>
          let (_, s) ← (ExceptT.run (finish g)) s
          return s.status

end GoRepl.Machine.Records
