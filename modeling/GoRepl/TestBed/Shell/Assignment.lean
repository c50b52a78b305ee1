import GoRepl.TestBed.Shell.Expansion

/-! # Test bed: assignments

New values for variables, their elements and whole lists. -/

namespace GoRepl.Machine.Shell

/-- The elements that are given to a list, each perhaps with its index, to whose value it may be
added. -/
abbrev Elements := List (Option (Word × Bool) × Word)

/-- An element after its expansion. -/
structure Given where
  index : Option Text
  adds : Bool
  text : Text

/-- The index of an element: a text in a table, and else a number. -/
def indexText (h : Inner) (isTable : Bool) (index : Word) : Run Text := do
  if isTable then expandText h index
  else return Expression.shown (← calculate h [] index)

/-- A word without its parameters about as it was written. -/
def writtenText (w : Word) : Text :=
  w.flatMap fun p => match p with
    | .text t true => ['"'] ++ t ++ ['"']
    | .text t false => t
    | .param name .value _ => '$' :: name
    | _ => []

/-- Expand the elements that are given to the list `name`. In a table those without an index stand
in pairs or not at all. -/
def expandElements (h : Inner) (name : Text) (isTable isDeclared : Bool) (values : Elements) :
    Run (List Given) := do
  let paired := values.head?.all fun e => e.1.isNone
  values.flatMapM fun ((index, w) : Option (Word × Bool) × Word) => do
    match index with
    | some (index, adds) =>
      let i ← indexText h isTable index
      let t ← expandValue h w
      if isTable && paired then
        return [⟨none, false, ['['] ++ i ++ [']'] ++ (if adds then ['+', '='] else ['=']) ++ t⟩]
      else if i = [] then
        complain ("[]=".toList ++ writtenText w ++ ": bad array subscript".toList)
        return []
      else return [⟨some i, adds, t⟩]
    | none =>
      if isTable && !paired then
        let t := writtenText w
        complain (name ++ ": ".toList ++ (if isDeclared then inSingleQuotes t else t) ++
          ": must use subscript when assigning associative array".toList)
        return []
      else return (← expandWord h w).map (⟨none, false, ·⟩)

/-- Texts in pairs. -/
def pairs : List Text → List (Text × Text)
  | k :: t :: ts => (k, t) :: pairs ts
  | [k] => [(k, [])]
  | [] => []

/-- Put elements into a list, one after another. -/
def putElements (v : Variable) (given : List Given) : Run Value := do
  let sum := calculateText []
  let (value, _) ← given.foldlM (fun ((value, next) : Value × Nat) g => do
    let n : Nat := match g.index with
      | some i => (natural? i).getD 0
      | none => next
    let t ← madeFor sum v ((value.element? (decimal n)).getD []) g.adds g.text
    return (value.putNumber n t, n + 1)) (v.value, v.value.size)
  return match value with
    | .list es => .list es
    | value => .list value.numbered

/-- Put elements into a table. Those without indices stand in pairs. -/
def putEntries (v : Variable) (given : List Given) : Run Value := do
  let sum := calculateText []
  let given := if given.any (·.index.isSome) then given
    else (pairs (given.map Given.text)).map fun ((k, t) : Text × Text) => ⟨some k, false, t⟩
  let entries := match v.value with
    | .table es => es
    | _ => []
  let entries ← given.foldlM (fun (es : List (Text × Text)) g => do
    let key := g.index.getD g.text
    let t ← madeFor sum v ((es.lookup key).getD []) g.adds g.text
    return Value.putEntry key t es) entries
  return .table entries

/-- Give a list its elements, or further ones. -/
def assignElements (h : Inner) (isDeclared : Bool) (name : Text) (adds : Bool)
    (values : Elements) : Run Unit := do
  let s ← get
  let v := (s.bindings.get? (s.targetName name)).getD {}
  let given ← expandElements h name v.value.isTable isDeclared values
  alterVariable name fun v => do
    if v.value.isTable then
      let v := if adds then v else { v with value := .table [] }
      return { v with value := ← putEntries v given }
    else
      let v := if adds then v else { v with value := .list [] }
      return { v with value := ← putElements v given }

/-- Carry out an assignment, and tell it in the form in which it is traced. -/
def carryOut (h : Inner) : Assignment → Run Text
  | .one name none adds value => do
    let t ← expandValue h value
    assignAt 8 name none adds t
    let s ← get
    return name ++ sign adds ++ shown s t
  | .one name (some []) _ _ => refuse (name ++ "[]: bad array subscript".toList)
  | .one name (some index) adds value => do
    let now := (← machine).clock
    let s ← get
    let isTable := (s.bound? now name).any fun v => v.value.isTable
    let i ← indexText h isTable index
    let t ← expandValue h value
    assignAt 8 name (some i) adds t
    return name ++ ['['] ++ i ++ [']'] ++ sign adds ++ shown s t
  | .all name adds values => do
    assignElements h false name adds values
    return name ++ sign adds ++ "()".toList
where
  sign (adds : Bool) : Text := if adds then ['+', '='] else ['=']
  shown (s : Shell) (t : Text) : Text := if s.isExtended && t ≠ [] then asWord t else t

end GoRepl.Machine.Shell
