import GoRepl.TestBed.Shell.Brace
import GoRepl.TestBed.Shell.Meaning

/-! # Test bed: expansion

What words stand for when a command runs: the values of parameters, of arithmetic expressions and of
what commands print, split into fields. How commands are run for that is left open. -/

namespace GoRepl.Machine.Shell

/-- How the commands inside of words are run: what they print, and the path of a stream that is read
from them or written to them. -/
structure Inner where
  output : List Command → Run Text
  stream : (reads : Bool) → List Command → Run Text

/-- In which way parts of words are expanded. -/
structure Manner where
  /-- Does a word fall into fields? -/
  splits : Bool := false
  separators : Text := []
  /-- Does a part stand inside of another one, so that its text is split, too? -/
  isInside : Bool := false

/-- A way to add a part of a word to fields. -/
abbrev Expander := Manner → Fields → Part → Run Fields

/-! ## Tildes -/

/-- The directory that a tilde with what follows it stands for. -/
def homeOf? (s : Shell) (user : Text) : Option Text :=
  match String.ofList user with
  | "" => s.value? "HOME".toList
  | "root" => some "/root".toList
  | "+" => if s.isExtended then s.value? "PWD".toList else none
  | "-" => if s.isExtended then s.value? "OLDPWD".toList else none
  | _ => none

/-- The parts of a word after a tilde at its beginning has become a directory. -/
def homeParts (s : Shell) : Word → Word
  | .text ('~' :: t) false :: ps =>
    let user := t.takeWhile (· ≠ '/')
    let rest := t.drop user.length
    match if rest = [] && !ps.isEmpty then none else s.homeOf? user with
    | some home => .text home true :: .text rest false :: ps
    | none => .text ('~' :: t) false :: ps
  | w => w

/-- The words between the colons of a word, outside of quotes. -/
def betweenColons : Word → List Word
  | [] => [[]]
  | p :: ps =>
    let rest := betweenColons ps
    match p with
    | .text t false =>
      let pieces : List Word := (t.splitOn ':').map fun t => Reader.withText t []
      pieces.dropLast ++ (pieces.getLast?.getD [] ++ rest.headD []) :: rest.tail
    | p => (p :: rest.headD []) :: rest.tail

/-- The parts of a value after the tildes in it, at its beginning and after colons, have become
directories. -/
def homesIn (s : Shell) (w : Word) : Word :=
  if w.any (fun p => p matches .text ('~' :: _) false | .text (_ :: _) false) then
    List.intercalate [.text [':'] false] ((betweenColons w).map s.homeParts)
  else w

/-! ## Parts of words -/

/-- A word as one text, which is not split. -/
def textBy (expand : Expander) (w : Word) : Run Text := do
  return ((← (homeParts (← get) w).foldlM (expand {}) {}).text)

/-- A word as a pattern for a whole text. -/
def glyphsBy (expand : Expander) (w : Word) : Run (List Glyph) := do
  return ((← (homeParts (← get) w).foldlM (expand {}) {}).toList).flatten

/-- The value of an arithmetic expression that stands in a word; `start` begins what is said about
its faults. -/
def numberBy (expand : Expander) (start : Text) (w : Word) : Run Int := do
  let t ← textBy expand w
  calculateText start t

/-- Does the index of an element stand for all of them, and which sign is it then? -/
def allSign? (index : Word) : Option Char :=
  match index with
  | [.text ['@'] _] => some '@'
  | [.text ['*'] _] => some '*'
  | _ => none

/-- What an element with an index stands for. -/
def elementBy (expand : Expander) (name : Text) (index : Word) : Run Meaning := do
  let now := (← machine).clock
  match allSign? index with
  | some sign => return (← get).elementsOf now name (sign = '*')
  | none =>
    let s ← get
    match (s.bound? now name).map Variable.value with
    | some (.table es) =>
      let key ← textBy expand index
      return { texts := (es.lookup key).toList, keys := [key], index := some key }
    | v =>
      let t ← textBy expand index
      let n ← calculateText [] t
      let v := v.getD .unset
      match v.number? n with
      | some n =>
        return { texts := (v.numbered.lookup n).toList, keys := [decimal n], index := some t }
      | none =>
        if v ≠ .unset then complain (name ++ ": bad array subscript".toList)
        return { texts := [], index := some t }

/-- What a parameter stands for whose name, perhaps with an index, is a text. -/
def pointedBy (expand : Expander) (t : Text) : Run Meaning := do
  match Text.cutAt? '[' t with
  | some (name, rest) => elementBy expand name [.text rest.dropLast false]
  | none =>
    let now := (← machine).clock
    return (← get).meaningOf now t

/-- Add the texts that a parameter stands for to fields. -/
def spread (s : Shell) (manner : Manner) (quoted : Bool) (f : Fields) (m : Meaning) : Fields :=
  let add (f : Fields) (t : Text) : Fields :=
    if quoted then f.add true t
    else if manner.splits then f.addSplit manner.separators t
    else f.add false t
  match m.all with
  | none => add f ((m.texts.head?).getD [])
  | some isJoined =>
    let isText := !manner.splits && (isJoined || !s.isExtended)
    if isText || (isJoined && quoted) then
      add f (List.intercalate s.joint m.texts)
    else
      (m.texts.foldl (fun ((f, first) : Fields × Bool) t =>
        (add (if first then f else f.endField) t, false)) (f, true)).1

/-- A pattern in place of a word; without one it stands for any character. -/
def patternBy (expand : Expander) (w : Word) : Run Glob.Pattern := do
  let gs ← glyphsBy expand w
  return Glob.ofGlyphs (← get).textForm gs

/-- What is put in the place of a match, in which a sign may stand for what was matched. -/
def replacement (gs : List Glyph) (matched : Text) : Text :=
  match gs with
  | ⟨'\\', false⟩ :: ⟨'&', false⟩ :: gs => '&' :: replacement gs matched
  | ⟨'&', false⟩ :: gs => matched ++ replacement gs matched
  | g :: gs => g.char :: replacement gs matched
  | [] => []

/-- The declaration of a parameter, for the form `A`. -/
def declared (name : Text) (m : Meaning) (v : Option Variable) : Text :=
  match v with
  | none => []
  | some v =>
    let isPlain := v.letters = [] && !v.value.isMany
    match m.all with
    | some _ => if isPlain then plain else v.declaration name
    | none =>
      if isPlain then plain
      else "declare -".toList ++ v.letters ++ [' '] ++ plain
where
  plain : Text := name ++ ['='] ++ requoted ((m.texts.head?).getD [])

/-- What a parameter is in another form. -/
def formed (op : Char) (name : Text) (now : Int) (m : Meaning) (s : Shell) : Option Meaning :=
  let v := s.bound? now name
  match op with
  | 'a' =>
    let letters := (v.map Variable.letters).getD []
    if m.texts.isEmpty then some { m with texts := if v.isSome then [letters] else [] }
    else some (m.map fun _ => letters)
  | 'A' => some (.ofText (declared name m v))
  | 'K' | 'k' =>
    match m.all with
    | none => some (m.map requoted)
    | some _ =>
      let pairs := m.keys.zip m.texts
      if op = 'k' then some { m with texts := pairs.flatMap fun ((k, t) : Text × Text) => [k, t] }
      else
        let isTable := v.any fun v => v.value.isTable
        let shown := pairs.map fun ((k, t) : Text × Text) =>
          shownIndex k ++ [' '] ++ inDoubleQuotes t
        let t := List.intercalate [' '] shown
        some (.ofText (if isTable then t ++ [' '] else t))
  | op => (m.texts.mapM (inForm? op)).map fun texts => { m with texts }

/-- The fault of a parameter that has to be set and is not. -/
def demandSet (name : Text) (m : Meaning) : Run Unit := do
  let s ← get
  if s.hasOption 'u' && m.texts.isEmpty && m.all.isNone then
    fatal (s.unsetMessage (name ++ match m.index with
      | some t => ['['] ++ t ++ [']']
      | none => []))

/-- Give a value to a parameter that has none. -/
def supply (name : Text) (index : Option Text) (t : Text) : Run Unit := do
  if isName name then assignAt 8 name index false t
  else
    let s ← get
    refuse (if s.isExtended then '$' :: name ++ ": cannot assign in this way".toList
      else name ++ ": bad variable name".toList)

/-- Add to fields what is made of a parameter. -/
def useBy (expand : Expander) (use' : Text → Meaning → Use → Run Fields) (manner : Manner)
    (quoted : Bool) (f : Fields) (name : Text) (m : Meaning) (use : Use) : Run Fields := do
  let s ← get
  let spread (m : Meaning) : Fields := spread s manner quoted f m
  let one (t : Text) : Fields := spread (.ofText t)
  let current := m.text? s.joint
  match use with
  | .bad t =>
    refuse (match s.dialect with
      | .plain => "Bad substitution".toList
      | .extended => t ++ ": bad substitution".toList)
  | .length =>
    demandSet name m
    return one (decimal (if m.all.isSome then m.texts.length else (current.getD []).length))
  | .value =>
    demandSet name m
    return spread m
  | .choose op orEmpty word =>
    let isSet := match current with
      | some t => !orEmpty || t ≠ []
      | none => false
    let given : Run Fields :=
      (homeParts s word).foldlM (expand { manner with isInside := true }) f
    if op = '+' then if isSet then given else return spread .nothing
    else if isSet then return spread m
    else if op = '-' then given
    else
      let t ← textBy expand word
      if op = '=' then
        let index := if m.all.isNone && m.keys.head? ≠ some ['0'] then m.keys.head? else none
        supply name index t
        let now := (← machine).clock
        let s ← get
        let value := if index.isSome then t else (s.param? now name).getD t
        return one value
      else fatal (name ++ ": ".toList ++ if word.isEmpty then s.missingMessage orEmpty else t)
  | .trim atEnd longest pattern =>
    demandSet name m
    let p ← patternBy expand pattern
    return spread (m.map (Glob.trim atEnd longest p))
  | .slice start length =>
    demandSet name m
    if m.all.isNone && current.isNone then return spread .nothing
    let index : Option Text := match m.all with
      | some isJoined => if isName name then some [if isJoined then '*' else '@'] else none
      | none => m.index
    let about := name ++ (match index with
      | some i => ['['] ++ i ++ [']']
      | none => []) ++ [':', ' ']
    let start ← numberBy expand about start
    let size := (current.getD []).length
    if m.all.isNone && (size < start || size + start < 0) then return one []
    let length ← match length with
      | none => pure none
      | some w => do pure (some (← numberBy expand about w))
    match m.all with
    | none =>
      match Meaning.piece? start length (current.getD []) with
      | some t => return one t
      | none => tooShort length
    | some _ =>
      if length.any (· < 0) then tooShort length
      else
        -- The parameters of the script are counted from its name on.
        let isArgs := name = ['@'] || name = ['*']
        let m := if isArgs && start = 0 then
            { m with texts := s.name :: m.texts, keys := ['0'] :: m.keys }
          else m
        return spread (m.elementsFrom start length)
  | .replace place pattern new =>
    demandSet name m
    let p ← patternBy expand pattern
    let gs ← glyphsBy expand new
    return spread (m.map (Glob.replace place p (replacement gs)))
  | .recase case all pattern =>
    demandSet name m
    let p ← patternBy expand (if pattern.isEmpty then [.text ['?'] false] else pattern)
    return spread (m.map (recased case all p))
  | .indirect use =>
    match current with
    | some t =>
      let m ← pointedBy expand t
      use' t m use
    | none =>
      if use matches .choose .. then use' name m use
      else refuse (name ++ ": invalid indirect expansion".toList)
  | .names =>
    return spread { texts := s.namesFrom name, all := some !quoted }
  | .keys => return spread { m with texts := m.keys }
  | .form op =>
    let isList := (s.bindings.get? (s.targetName name)).any fun v => v.value.isMany
    if m.texts.isEmpty && m.all.isNone && op = 'A' && isList then
      let v := (s.bindings.get? (s.targetName name)).getD {}
      return one ("declare -".toList ++ v.letters ++ [' '] ++ name)
    if m.texts.isEmpty && m.all.isNone && op ≠ 'a' then
      demandSet name m
      return spread .nothing
    match formed op name (← machine).clock m s with
    | some m => return spread m
    | none => fatal ("$\x7b".toList ++ name ++ ['@', op] ++ "\x7d: bad substitution".toList)
where
  tooShort (length : Option Int) : Run Fields :=
    refuse (Expression.shown (length.getD 0) ++ ": substring expression < 0".toList)

/-- Add a part of a word to fields. -/
def partBy (h : Inner) (expand : Expander) : Expander := fun manner f p => do
  let value (quoted : Bool) (t : Text) : Fields :=
    if quoted then f.add true t
    else if manner.splits then f.addSplit manner.separators t
    else f.add false t
  let use' (quoted : Bool) (name : Text) (m : Meaning) (use : Use) : Run Fields :=
    used 4 manner quoted f name m use
  match p with
  | .text t quoted =>
    return if quoted then f.add true t
      else if manner.isInside && manner.splits then f.addSplit manner.separators t
      else f.add false t
  | .output body quoted => return value quoted (← h.output body)
  | .sum expression quoted =>
    let t ← textBy expand expression
    let s ← get
    if s.isExtended && Reader.hasText "RANDOM".toList t then drawNumber
    return value quoted (Expression.shown (← calculateText [] t))
  | .param name use quoted =>
    if name = "RANDOM".toList then drawNumber
    let now := (← machine).clock
    let s ← get
    use' quoted name (s.meaningOf now name) use
  | .element name index use quoted =>
    let m ← elementBy expand name index
    use' quoted name m use
  | .stream reads body => return f.add true (← h.stream reads body)
  | .list _ => return f
where
  /-- What a parameter is used for may lead to another one. -/
  used : (fuel : Nat) → Manner → Bool → Fields → Text → Meaning → Use → Run Fields
    | 0, _, _, _, _, _, _ => overflow
    | fuel + 1, manner, quoted, f, name, m, use =>
      useBy expand (used fuel manner quoted f) manner quoted f name m use

/-- How deep parts of words may be nested. -/
def partDepth : Nat := 100000

/-- Add a part of a word to fields. -/
def expandPart (h : Inner) : (fuel : Nat) → Expander
  | 0, _, _, _ => overflow
  | fuel + 1, manner, f, p => partBy h (expandPart h fuel) manner f p

def expander (h : Inner) : Expander := expandPart h partDepth

/-! ## Words -/

/-- A word as one text, which is not split. -/
def expandText (h : Inner) (w : Word) : Run Text := textBy (expander h) w

/-- A word as a pattern for a whole text. -/
def expandPattern (h : Inner) (w : Word) : Run (List Glyph) := glyphsBy (expander h) w

/-- The value in an assignment as one text. -/
def expandValue (h : Inner) (w : Word) : Run Text := do
  let w := (← get).homesIn w
  return ((← w.foldlM (expander h {}) {}).text)

/-- The value of an arithmetic expression; `start` begins what is said about its faults. -/
def calculate (h : Inner) (start : Text) (w : Word) : Run Int := do
  let t ← expandText h w
  if (← get).isExtended && Reader.hasText "RANDOM".toList t then drawNumber
  calculateText start t

/-- The texts that a word stands for. -/
def expandWord (h : Inner) (w : Word) : Run (List Text) := do
  let s ← get
  (if s.isExtended then Brace.words w else [w]).flatMapM fun w => do
    let s ← get
    let manner : Manner := { splits := true, separators := s.fieldSeparators }
    let fields ← (homeParts s w).foldlM (expander h manner) {}
    let s ← get
    let d := (← machine).disk
    fields.toList.flatMapM fun gs => do
      match s.finished? d gs with
      | some ts => return ts
      | none => refuse ("no match: ".toList ++ gs.map Glyph.char)

end GoRepl.Machine.Shell
