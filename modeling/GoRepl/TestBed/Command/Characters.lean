import GoRepl.TestBed.Command.Lines

/-! # Test bed: commands on characters

Other characters in place of those of a set. -/

namespace GoRepl.Machine.Characters

open Call (quoted)

/-- The characters between two of them. -/
def span (a b : Char) : List Char :=
  (List.range (b.toNat + 1 - a.toNat)).map fun n => Char.ofNat (a.toNat + n)

/-! ## Descriptions of sets -/

/-- A piece of the description of a set. -/
inductive Piece where
  | char (c : Char)
  | range (a b : Char)
  /-- A character that stands a number of times, or as often as it has to if that is zero. -/
  | repeated (c : Char) (n : Nat)
  | named (name : Text)
  | equal (c : Char)
deriving DecidableEq

/-- The characters of a description without their escapes, each with whether it was escaped, and
what is to be said about them. -/
def unescaped : (fuel : Nat) → Text → List Glyph × List String
  | 0, _ => ([], [])
  | _, [] => ([], [])
  | _, ['\\'] =>
    ([⟨'\\', false⟩], ["an unescaped backslash at end of string is not portable"])
  | fuel + 1, '\\' :: t =>
    let ds := (t.take 3).takeWhile (Shell.Expression.digit? 8 · |>.isSome)
    let value := Shell.Expression.ofDigits 8 ds
    let more (c : Char) (t : Text) (said : List String) : List Glyph × List String :=
      let (gs, more) := unescaped fuel t
      (⟨c, true⟩ :: gs, said ++ more)
    if ds = [] then
      match escape? false false t with
      | some (d, t) => more (d.headD '\\') t []
      | none => more (t.headD '\\') t.tail []
    else if 255 < value then
      let two := String.ofList (ds.take 2)
      more (Char.ofNat (Shell.Expression.ofDigits 8 (ds.take 2))) (t.drop 2)
        ["the ambiguous octal escape \\" ++ String.ofList ds ++
          " is being\n\tinterpreted as the 2-byte sequence \\0" ++ two ++
          ", " ++ String.ofList (ds.drop 2)]
    else more (Char.ofNat value) (t.drop ds.length) []
  | fuel + 1, c :: t =>
    let (gs, said) := unescaped fuel t
    (⟨c, false⟩ :: gs, said)

/-- The inside of a construct in brackets that ends in a mark, and what follows it. -/
def upTo? (mark : Char) : List Glyph → Option (Text × List Glyph)
  | ⟨m, false⟩ :: ⟨']', false⟩ :: t =>
    if m = mark then some ([], t)
    else (upTo? mark (⟨']', false⟩ :: t)).map fun (name, t) => (m :: name, t)
  | g :: t => (upTo? mark t).map fun (name, t) => (g.char :: name, t)
  | [] => none

/-- A character with a number of times in brackets, of which the first one has been read. -/
def repeated? : List Glyph → Option (Except Text (Piece × List Glyph))
  | c :: ⟨'*', false⟩ :: t =>
    let inside := t.takeWhile fun g => !g.literal && g.char ≠ ']'
    let number := inside.map Glyph.char
    match t.drop inside.length with
    | ⟨']', false⟩ :: rest =>
      if number.all Text.isDigit then
        let n := Shell.Expression.ofDigits (if number.head? = some '0' then 8 else 10) number
        some (.ok (.repeated c.char n, rest))
      else
        some (.error ("invalid repeat count ".toList ++ quoted number ++
          " in [c*n] construct".toList))
    | _ => none
  | _ => none

/-- A character as it is shown. -/
def shown (c : Char) : Text :=
  if ' ' ≤ c && c ≤ '~' then [c] else '\\' :: padStart 3 '0' (Nat.toDigits 8 c.toNat)

/-- A construct in brackets, of which the first one has been read. -/
def bracketed? (t : List Glyph) : Option (Except Text (Piece × List Glyph)) :=
  match t with
  | ⟨':', false⟩ :: t' =>
    match upTo? ':' t' with
    | some ([], _) => some (.error "missing character class name '[::]'".toList)
    | some (name, rest) =>
      if (CharSet.namedRanges name).isEmpty then
        repeated? t <|>
          some (.error ("invalid character class ".toList ++ quoted name))
      else some (.ok (.named name, rest))
    | none => repeated? t
  | ⟨'=', false⟩ :: t' =>
    match upTo? '=' t' with
    | some ([], _) => some (.error "missing equivalence class character '[==]'".toList)
    | some ([c], rest) => some (.ok (.equal c, rest))
    | some (name, _) =>
      repeated? t <|>
        some (.error
          (name ++ ": equivalence class operand must be a single character".toList))
    | none => repeated? t
  | t => repeated? t

/-- The pieces of a description, or a message about what is wrong with it. Constructs have at least
three characters. -/
def pieces : (fuel : Nat) → List Glyph → Except Text (List Piece)
  | fuel + 1, a :: b :: c :: t => do
    match if a = ⟨'[', false⟩ then bracketed? (b :: c :: t) else none with
    | some result =>
      let (p, rest) ← result
      return p :: (← pieces fuel rest)
    | none =>
      if b = ⟨'-', false⟩ then
        if c.char < a.char then
          throw ("range-endpoints of '".toList ++ shown a.char ++ ['-'] ++ shown c.char ++
            "' are in reverse collating sequence order".toList)
        else return .range a.char c.char :: (← pieces fuel t)
      else return .char a.char :: (← pieces fuel (b :: c :: t))
  | _, gs => return gs.map fun g => .char g.char

/-- A character of a set. -/
structure Element where
  char : Char
  /-- Is it the first one of its piece? -/
  starts : Bool
  /-- Does it belong to the upper or the lower case letters? -/
  case : Option Bool := none

/-- The characters of a piece, in order; the number is for those that fill up. -/
def Piece.chars (fill : Nat) : Piece → List Char
  | .char c | .equal c => [c]
  | .range a b => span a b
  | .repeated c n => List.replicate (if n = 0 then fill else n) c
  | .named name =>
    ((CharSet.namedRanges name).flatMap fun (a, b) => span a b).mergeSort fun a b =>
      decide (a.toNat ≤ b.toNat)

def Piece.isFilling : Piece → Bool
  | .repeated _ 0 => true
  | _ => false

def Piece.isNamed : Piece → Bool
  | .named _ => true
  | _ => false

/-- The case of the letters that a piece names. -/
def Piece.case? : Piece → Option Bool
  | .named name =>
    if name = "upper".toList then some true else if name = "lower".toList then some false else none
  | _ => none

/-- All characters of a set, in order; `size` is how many there have to be. -/
def elements (size : Nat) (ps : List Piece) : List Element :=
  let fixed := (ps.map fun p => (p.chars 0).length).foldl (· + ·) 0
  ps.flatMap fun p => match p.chars (size - fixed) with
    | [] => []
    | c :: cs => ⟨c, true, p.case?⟩ :: cs.map fun c => ⟨c, false, p.case?⟩

/-- The characters of two sets that belong together. Letters of one case belong to those of the
other. -/
def pairs : (fuel : Nat) → List Element → List Element → Except Text (List (Char × Char))
  | fuel + 1, a :: as, b :: bs => do
    match b.case with
    | none => return (a.char, b.char) :: (← pairs fuel as bs)
    | some isUpper =>
      if b.starts && !(a.starts && a.case.isSome) then
        throw "misaligned [:upper:] and/or [:lower:] construct".toList
      let both := (span 'a' 'z').map fun c =>
        if isUpper then (c, c.toUpper) else (c.toUpper, c)
      let new := if a.case = some (!isUpper) then both else [(a.char, b.char)]
      return new ++ (← pairs fuel (as.dropWhile (!·.starts)) (bs.dropWhile (!·.starts)))
  | _, _, _ => return []

/-- All bytes that are not in a set. -/
def complement (cs : List Char) : List Char :=
  ((List.range 256).map Char.ofNat).filter (!cs.contains ·)

/-- Which character takes the place of which, or a message if the sets do not allow it. -/
def mapping (complemented truncated : Bool) (ps qs : List Piece) :
    Except Text (List (Char × Char)) := do
  let given := elements 0 ps
  let old : List Element := if complemented then
      (complement (given.map Element.char)).map fun c => ⟨c, true, none⟩
    else given
  if qs.countP Piece.isFilling > 1 then
    throw "only one [c*] repeat construct may appear in string2".toList
  if qs.any (· matches .equal _) then
    throw "[=c=] expressions may not appear in string2 when translating".toList
  if qs.any fun q => q.isNamed && q.case?.isNone then
    throw ("when translating, the only character classes that may appear in\n" ++
      "string2 are 'upper' and 'lower'").toList
  let new := elements old.length qs
  let fuel := old.length + 1
  if !complemented then let _ ← pairs fuel old new
  let short := new.length < old.length && !truncated
  if short && new.isEmpty then
    throw "when not truncating set1, string2 must be non-empty".toList
  if short && qs.getLast?.any Piece.isNamed then
    throw ("when translating with string1 longer than string2,\n" ++
      "the latter string must not end with a character class").toList
  let new := if short then
      new ++ List.replicate (old.length - new.length)
        ⟨(new.getLast?.map Element.char).getD ' ', true, none⟩
    else new
  if complemented && ps.any Piece.isNamed &&
      !(new.length = old.length && new.all fun e => some e.char = new.head?.map Element.char) then
    throw ("when translating with complemented character classes,\n" ++
      "string2 must map all characters in the domain to one").toList
  if complemented then return (old.zip new).map fun (a, b) => (a.char, b.char)
  else pairs fuel old new

/-- A text in which a character that follows itself is left out. -/
def squeezed (p : Char → Bool) (t : Text) : Text :=
  (t.foldl (fun done c => if done.head? = some c && p c then done else c :: done) []).reverse

def tr (c : Call) : Work Nat :=
  c.withOptions { flags := "AcCdst", ordered := true
                  long := [("delete", 'd'), ("squeeze-repeats", 's'),
                    ("complement", 'c'), ("truncate-set1", 't')] } 1 fun o => do
    let wants := if o.has 'd' then (if o.has 's' then 2 else 1) else if o.has 's' then 1 else 2
    let most := if o.has 'd' && !o.has 's' then 1 else 2
    let tryHelp : Work Unit :=
      c.write 2 ("Try '".toList ++ c.name ++ " --help' for more information.\n".toList)
    match o.operands with
    | [] => c.misuse "missing operand".toList
    | first :: rest =>
      if o.operands.length < wants then
        c.complain ("missing operand after ".toList ++ quoted first)
        c.write 2 (if o.has 'd' then
            "Two strings must be given when both deleting and squeezing repeats.\n".toList
          else "Two strings must be given when translating.\n".toList)
        tryHelp
        return 1
      else match o.operands[most]? with
        | some extra =>
          c.complain ("extra operand ".toList ++ quoted extra)
          if o.has 'd' && o.operands.length = 2 then
            c.write 2
              "Only one string may be given when deleting without squeezing repeats.\n".toList
          tryHelp
          return 1
        | none => withSets o first rest
where
  /-- Read a description. -/
  described (t : Text) : Work (Except Text (List Piece)) := do
    let (gs, said) := unescaped (t.length + 1) t
    for message in said do c.complain ("warning: ".toList ++ message.toList)
    return pieces (gs.length + 1) gs
  withSets (o : Options) (first : Text) (rest : List Text) : Work Nat := do
    match ← described first with
    | .error message => c.fail message
    | .ok ps =>
      match ← described (rest.headD []) with
      | .error message => c.fail message
      | .ok qs =>
        if ps.any Piece.isFilling then
          return ← c.fail "the [c*] repeat construct may not appear in string1".toList
        let complemented := o.has 'c' || o.has 'C'
        let given := (elements 0 ps).map Element.char
        let old := if complemented then complement given else given
        if o.has 'd' || rest = [] then
          if qs.any Piece.isFilling then
            return ← c.fail
              "the [c*] construct may appear in string2 only when translating".toList
          let new := (elements 0 qs).map Element.char
          c.filter [] fun t =>
            let t := if o.has 'd' then t.filter (!old.contains ·) else t
            if o.has 's' then squeezed (if o.has 'd' then new.contains else old.contains) t else t
        else match mapping complemented (o.has 't') ps qs with
          | .error message => c.fail message
          | .ok table =>
            let table := table.reverse
            let change (ch : Char) : Char := ((table.find? (·.1 = ch)).map Prod.snd).getD ch
            let new := (elements old.length qs).map Element.char
            c.filter [] fun t =>
              let t := t.map change
              if o.has 's' then squeezed new.contains t else t

end GoRepl.Machine.Characters
