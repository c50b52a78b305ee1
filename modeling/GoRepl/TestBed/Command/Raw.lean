import GoRepl.TestBed.Command.Basic
import GoRepl.TestBed.Command.Format
import GoRepl.TestBed.Regex

/-! # Test bed: commands on bytes

Commands that show bytes as numbers, copy pieces of files, and write bytes in printable
characters. -/

namespace GoRepl.Machine.Raw

/-! ## Dumps -/

/-- How the bytes of a dump are shown: the kind of number, and how many bytes make one. -/
structure Shape where
  kind : Char := 'o'
  size : Nat := 2
  /-- Are the bytes to be shown as characters at the end of each line? -/
  trailed : Bool := false

/-- The width of a number. -/
def Shape.width (s : Shape) : Nat :=
  let column (widths : List Nat) : Nat := (widths[s.size]?).getD 20
  match s.kind with
  | 'c' | 'a' => 3
  | 'x' => 2 * s.size
  | 'o' => column [0, 3, 6, 8, 11, 14, 16, 19, 22]
  | 'u' => column [0, 3, 5, 8, 10, 13, 15, 17, 20]
  | _ => column [1, 4, 6, 8, 11, 13, 16, 18, 20]

/-- A byte as a character. -/
def shownChar (b : Nat) : Text :=
  match b with
  | 0 => "\\0".toList
  | 7 => "\\a".toList
  | 8 => "\\b".toList
  | 9 => "\\t".toList
  | 10 => "\\n".toList
  | 11 => "\\v".toList
  | 12 => "\\f".toList
  | 13 => "\\r".toList
  | b => if 32 ≤ b && b < 127 then [Char.ofNat b] else padStart 3 '0' (Nat.toDigits 8 b)

/-- The names of the characters that cannot be seen. -/
def charNames : List String :=
  ["nul", "soh", "stx", "etx", "eot", "enq", "ack", "bel", "bs", "ht", "nl", "vt", "ff", "cr", "so",
    "si", "dle", "dc1", "dc2", "dc3", "dc4", "nak", "syn", "etb", "can", "em", "sub", "esc", "fs",
    "gs", "rs", "us", "sp"]

/-- A byte by the name of a character. -/
def namedChar (b : Nat) : Text :=
  let b := b % 128
  if b = 127 then "del".toList
  else match charNames[b]? with
    | some name => name.toList
    | none => [Char.ofNat b]

def Shape.show (s : Shape) (isBig : Bool) (bs : List Nat) : Text :=
  let bs := bs ++ List.replicate (s.size - bs.length) 0
  let n := (if isBig then bs else bs.reverse).foldl (fun n b => n * 256 + b) 0
  match s.kind with
  | 'c' => shownChar n
  | 'a' => namedChar n
  | 'x' => padStart s.width '0' (Nat.toDigits 16 n)
  | 'o' => padStart s.width '0' (Nat.toDigits 8 n)
  | 'd' =>
    let half := Nat.pow 2 (8 * s.size - 1)
    if n < half then decimal n else '-' :: decimal (2 * half - n)
  | _ => decimal n

/-- The shapes that a text asks for, as after `-t`. -/
def shapes? : (fuel : Nat) → Text → Option (List Shape)
  | 0, _ | _, [] => some []
  | fuel + 1, kind :: t =>
    let withSize (size : Nat) (t : Text) : Option (List Shape) :=
      let trailed := t.head? = some 'z'
      (shapes? fuel (if trailed then t.tail else t)).map (⟨kind, size, trailed⟩ :: ·)
    if kind = 'c' || kind = 'a' then withSize 1 t
    else if !"doux".toList.contains kind then none
    else match t with
      | 'C' :: t => withSize 1 t
      | 'S' :: t => withSize 2 t
      | 'I' :: t => withSize 4 t
      | 'L' :: t => withSize 8 t
      | t =>
        let ds := t.takeWhile Text.isDigit
        match natural? ds with
        | none => withSize 4 t
        | some n => if [1, 2, 4, 8].contains n then withSize n (t.drop ds.length) else none

/-- The shape that a letter stands for. -/
def shapeOf? : Char → Option Shape
  | 'a' => some ⟨'a', 1, false⟩
  | 'b' => some ⟨'o', 1, false⟩
  | 'c' => some ⟨'c', 1, false⟩
  | 'd' => some ⟨'u', 2, false⟩
  | 'i' => some ⟨'d', 4, false⟩
  | 'l' => some ⟨'d', 8, false⟩
  | 'o' => some ⟨'o', 2, false⟩
  | 's' => some ⟨'d', 2, false⟩
  | 'x' => some ⟨'x', 2, false⟩
  | _ => none

/-- A count that may have a letter for a unit after it. -/
def count? (t : Text) : Option Nat :=
  let (ds, isHex) := match t with
    | '0' :: 'x' :: ds => (ds.takeWhile Regex.isHex, true)
    | t => (t.takeWhile Text.isDigit, false)
  let unit : Option Nat := match String.ofList (t.drop (ds.length + if isHex then 2 else 0)) with
    | "" | "c" => some 1
    | "w" => some 2
    | "b" => some 512
    | "k" | "K" | "KiB" => some 1024
    | "kB" | "KB" => some 1000
    | "M" | "MiB" => some (1024 * 1024)
    | "MB" => some 1000000
    | "G" | "GiB" => some (1024 * 1024 * 1024)
    | _ => none
  match if isHex then some (Regex.hexNumber ds) else natural? ds, unit with
  | some n, some u => some (n * u)
  | _, _ => none

/-- The place of a byte at the start of a line. -/
def address (radix : Char) (n : Nat) : Text :=
  match radix with
  | 'n' => []
  | 'd' => padStart 7 '0' (decimal n)
  | 'x' => padStart 6 '0' (Nat.toDigits 16 n)
  | _ => padStart 7 '0' (Nat.toDigits 8 n)

/-- How a dump is laid out. -/
structure Dump where
  shapes : List Shape
  radix : Char := 'o'
  all : Bool := false
  size : Nat := 16
  isBig : Bool := false

namespace Dump

/-- The bytes of a line in one of the shapes. The columns of all shapes take up the same room. -/
def row (d : Dump) (s : Shape) (line : List Nat) : Text :=
  let fields := max 1 (d.size / s.size)
  let room := (d.shapes.map fun s => (s.width + 1) * (d.size / s.size)).foldl max 0
  let pad := room - s.width * fields
  let shown := (pieces s.size line).zipIdx.flatMap fun (bs, k) =>
    let i := fields - k
    let width := pad * i / fields - pad * (i - 1) / fields + s.width
    padStart width ' ' (s.show d.isBig bs)
  if s.trailed then
    let missing := fields - (pieces s.size line).length
    let gap := List.replicate (missing * (s.width + pad / fields)) ' '
    let seen := line.map fun b => if 32 ≤ b && b < 127 then Char.ofNat b else '.'
    shown ++ gap ++ "  >".toList ++ seen ++ ['<']
  else shown

/-- The rows of a line of which the first one has the address before it. -/
def rows (d : Dump) (position : Nat) (line : List Nat) : List Text :=
  d.shapes.zipIdx.map fun (s, k) =>
    let start := address d.radix position
    (if k = 0 then start else start.map fun _ => ' ') ++ d.row s line

/-- The lines of a dump; lines like the one before them are passed over, which is shown once. -/
def lines (d : Dump) : (fuel position : Nat) → (before : Option (List Nat)) → (passed : Bool) →
    List Nat → List Text
  | 0, _, _, _, _ => []
  | fuel + 1, position, before, passed, bs =>
    if bs = [] then if d.radix = 'n' then [] else [address d.radix position]
    else
      let line := bs.take d.size
      let next := position + line.length
      if !d.all && before = some line && line.length = d.size then
        let rest := lines d fuel next before true (bs.drop d.size)
        if passed then rest else ['*'] :: rest
      else d.rows position line ++ lines d fuel next (some line) false (bs.drop d.size)

end Dump

def od (c : Call) : Work Nat :=
  let c := { c with args := c.args.map fun t => if t = ['-', 'w'] then "-w32".toList else t }
  c.withOptions
    { flags := "abcdoxsvil", valued := "AtNjwE"
      long := [("address-radix", 'A'), ("format", 't'), ("read-bytes", 'N'), ("skip-bytes", 'j'),
        ("width", 'w'), ("output-duplicates", 'v'), ("endian", 'E')] } 1 fun o => do
    let numbers : List (Char × Text) := o.given.filter fun (k, _) => k = 'j' || k = 'N' || k = 'w'
    if let some (k, t) := numbers.find? fun (_, t) => (count? t).isNone then
      return ← c.fail ("invalid -".toList ++ [k] ++ " argument ".toList ++ Call.quoted t)
    let isBase (t : Text) : Bool := ["d", "o", "x", "n"].any (·.toList = t.take 1)
    if let some t := (o.value? 'A').filter (!isBase ·) then
      return ← c.fail ("invalid output address radix ".toList ++ Call.quoted t ++
        "; it must be one character from [doxn]".toList)
    let (f, ok) ← c.gather o.operands
    let skipped := ((o.value? 'j').bind count?).getD 0
    let limit := (o.value? 'N').bind count?
    if f.isEndless && limit.isNone then spin
    let whole := match limit with
      | some n => f.take (skipped + n)
      | none => f.text
    let d := (← get).disk
    let isMissing (t : Text) : Bool :=
      t ≠ ['-'] && !(d.findBy true c.place (Call.path t)).toBool
    -- Nothing is shown if none of the files is there.
    if o.operands ≠ [] && o.operands.all isMissing then return 1
    if whole.length < skipped then
      c.complain "cannot skip past end of combined input".toList
      return 1
    let bs := whole.drop skipped
    let given : List (Option (List Shape) × Text) := o.given.map fun ((ch, t) : Char × Text) =>
      if ch = 't' then (shapes? (t.length + 1) t, t) else (some (shapeOf? ch).toList, t)
    let invalid := given.find? fun (g : Option (List Shape) × Text) => g.1.isNone
    match invalid with
    | some (_, t) =>
      let known (ch : Char) : Bool := "acdfouxzCSILFDHBL".toList.contains ch || Text.isDigit ch
      match t.find? (!known ·) with
      | some ch =>
        c.fail ("invalid character '".toList ++ [ch] ++ "' in type string ".toList ++ Call.quoted t)
      | none => c.fail ("invalid type string ".toList ++ Call.quoted t)
    | none =>
      let asked := (given.filterMap Prod.fst).flatten
      let d : Dump :=
        { shapes := if asked.isEmpty then [⟨'o', 2, false⟩] else asked
          radix := ((o.value? 'A').bind List.head?).getD 'o', all := o.has 'v'
          size := max 1 (((o.value? 'w').bind natural?).getD 16)
          isBig := o.value? 'E' = some "big".toList }
      c.print (ofLines (d.lines (bs.length + 2) skipped none false (bs.map Char.toNat)))
      return if ok then 0 else 1

/-! ## Copies -/

/-- What a copy makes of the bytes. -/
def converted (how : List Text) (t : Text) : Text :=
  let has (name : String) : Bool := how.contains name.toList
  let t := if has "ucase" then t.map Char.toUpper
    else if has "lcase" then t.map Char.toLower else t
  if has "swab" then (pieces 2 t).flatMap List.reverse else t

/-- The words that the operands of a copy may have. -/
def copyWords : List (String × String × List String) :=
  [("conv", "conversion", ["ascii", "ebcdic", "ibm", "block", "unblock", "lcase", "ucase", "sparse",
      "swab", "sync", "excl", "nocreat", "notrunc", "noerror", "fdatasync", "fsync"]),
   ("iflag", "input flag", ["append", "binary", "direct", "directory", "dsync", "noatime",
      "nocache", "noctty", "nofollow", "nolinks", "nonblock", "sync", "text", "fullblock",
      "count_bytes", "skip_bytes", "seek_bytes"]),
   ("oflag", "output flag", ["append", "binary", "direct", "directory", "dsync", "noatime",
      "nocache", "noctty", "nofollow", "nolinks", "nonblock", "sync", "text", "fullblock",
      "count_bytes", "skip_bytes", "seek_bytes"]),
   ("status", "status level", ["none", "noxfer", "progress"])]

/-- The complaint about a word that an operand does not have. -/
def words? (value? : String → Option Text) : Option Text :=
  copyWords.findSome? fun (name, what, words) =>
    (value? name).bind fun t =>
      let given := if name = "status" then [t] else t.splitOn ','
      (given.find? fun w => !words.any (·.toList = w)).map fun w =>
        "invalid ".toList ++ what.toList ++ ": ".toList ++ Call.quoted w

/-- The complaint about conversions that cannot be combined. -/
def conflict? (conversions : Text) : Option Text :=
  let words := conversions.splitOn ','
  let pairs := [("lcase", "ucase"), ("block", "unblock"), ("excl", "nocreat")]
  (pairs.find? fun (a, b) => words.contains a.toList && words.contains b.toList).map fun (a, b) =>
    "cannot combine ".toList ++ a.toList ++ " and ".toList ++ b.toList

def dd (c : Call) : Work Nat := do
  let known := ["if", "of", "bs", "ibs", "obs", "cbs", "count", "skip", "seek", "conv", "status",
    "iflag", "oflag"]
  let operands := c.args.map fun arg => (arg, Text.cutAt? '=' arg)
  match operands.find? fun (_, p) => p.all fun (n, _) => !known.any (·.toList = n) with
  | some ('-' :: '-' :: t, _) =>
    c.misuse ("unrecognized option '--".toList ++ t ++ ['\''])
  | some ('-' :: letter :: _, _) => c.misuse ("invalid option -- '".toList ++ [letter, '\''])
  | some (arg, _) => c.misuse ("unrecognized operand ".toList ++ Call.quoted arg)
  | none =>
    let value? (n : String) : Option Text :=
      (operands.filterMap Prod.snd).reverse.lookup n.toList
    let sizes := ["bs", "ibs", "obs", "cbs"].filterMap value?
    let numbers := ["count", "skip", "seek"].filterMap value?
    let wrong := (numbers.find? fun t => (count? t).isNone) <|>
      (sizes.find? fun t => (count? t).all (· = 0))
    match wrong with
    | some t => c.fail ("invalid number: ".toList ++ Call.quoted t)
    | none =>
    if let some message := words? value? then return ← c.misuse message
    if let some message := conflict? ((value? "conv").getD []) then return ← c.fail message
    let number (n : String) (standard : Nat) : Nat := ((value? n).bind count?).getD standard
    let size := max 1 (number "bs" (number "ibs" 512))
    let outSize := max 1 (number "bs" (number "obs" 512))
    let how := ((value? "conv").getD []).splitOn ','
    let flags (n : String) : List Text := ((value? n).getD []).splitOn ','
    let unit (n flag : String) (size : Nat) : Nat :=
      if (flags n).contains flag.toList then 1 else size
    let skipped := number "skip" 0 * unit "iflag" "skip_bytes" size
    let limit := ((value? "count").bind count?).map (· * unit "iflag" "count_bytes" size)
    let failure (file : Text) (fault : Fault) : Work Nat :=
      c.fail ("failed to open ".toList ++ Call.quotedName file ++ ": ".toList ++ Call.reason fault)
    let source : Except (Text × Fault) (Option StreamId) ← match value? "if" with
      | none => pure (.ok (c.stream? 0))
      | some file => do
        match ← c.openFile .read file with
        | .ok id => pure (.ok (some id))
        | .error fault => pure (.error (file, fault))
    match source with
    | .error (file, fault) => failure file fault
    | .ok source =>
    let keeps := how.contains "notrunc".toList
    let appends := (flags "oflag").contains "append".toList
    let start := number "seek" 0 * unit "oflag" "seek_bytes" outSize
    let target : Except (Text × Fault) (Option StreamId) ← match value? "of" with
      | none => pure (.ok (c.stream? 1))
      | some file => do
        match ← c.openFile (if appends then .append else .both) file with
        | .ok id => pure (.ok (some id))
        | .error fault => pure (.error (file, fault))
    match target with
    | .error (file, fault) => failure file fault
    | .ok target =>
    match value? "of", target with
    | some _, some id =>
      match ← stream id with
      | .file node _ false =>
        if !keeps then
          modify fun m => { m with
            disk := m.disk.setContents node ((fileBytes m node).take start) }
        setStream id (.file node start false)
      | _ => pure ()
    | _, _ => pure ()
    let t ← match source, limit with
      | none, _ => pure []
      | some id, none => do pure ((← drainAll id).drop skipped)
      | some id, some n => do
        let enough := skipped + n
        let (t, _) ← takeBy (fun t => if enough ≤ t.length then some enough else none) id
        pure (t.drop skipped)
    if (value? "if").isSome then source.forM release
    let t := converted how t
    let result ← match target with
      | some id => put id t
      | none => pure (.ok ())
    if (value? "of").isSome then target.forM release
    match result with
    | .error fault =>
      let name := (value? "of").getD "standard output".toList
      c.fail ("error writing ".toList ++ Call.quotedName name ++ ": ".toList ++ Call.reason fault)
    | .ok () =>
      let records (size : Nat) : Text := decimal (t.length / size) ++ ['+'] ++
        decimal (if t.length % size = 0 then 0 else 1) ++ " records ".toList
      let both := records size ++ "in\n".toList ++ records outSize ++ "out\n".toList
      let bytes := if t.length = 1 then " byte copied, " else " bytes copied, "
      let summary := decimal t.length ++ bytes.toList ++ "0.0001 s, 10 MB/s\n".toList
      let shown := match (value? "status").map String.ofList with
        | some "none" => []
        | some "noxfer" => both
        | _ => both ++ summary
      c.write 2 shown
      return 0

/-! ## Printable bytes -/

def base64Digits : Text :=
  "ABCDEFGHIJKLMNOPQRSTUVWXYZabcdefghijklmnopqrstuvwxyz0123456789+/".toList

def digit (n : Nat) : Char := (base64Digits[n % 64]?).getD '='

/-- Four printable characters for every three bytes. -/
def encoded : List Nat → Text
  | a :: b :: c :: bs =>
    digit (a / 4) :: digit (a * 16 + b / 16) :: digit (b * 4 + c / 64) :: digit c :: encoded bs
  | [a, b] => [digit (a / 4), digit (a * 16 + b / 16), digit (b * 4), '=']
  | [a] => [digit (a / 4), digit (a * 16), '=', '=']
  | [] => []

/-- The bytes that up to four printable characters stand for, and whether all of those have a
meaning. -/
def decodedGroup (t : Text) : Text × Bool :=
  let values := (t.takeWhile base64Digits.contains).map fun c => base64Digits.findIdx (· == c)
  let bytes := match values with
    | x :: y :: z :: w :: _ => [x * 4 + y / 16, y * 16 + z / 4, z * 64 + w]
    | [x, y, z] => [x * 4 + y / 16, y * 16 + z / 4]
    | [x, y] => [x * 4 + y / 16]
    | _ => []
  let isWhole := t.length = 4 && 2 ≤ values.length && (t.drop values.length).all (· = '=')
  (bytes.map fun n => Char.ofNat (n % 256), isWhole)

/-- The bytes of printable characters up to the first of those that have no meaning, and whether all
have one. -/
def decoded : Text → Text × Bool
  | a :: b :: c :: d :: t =>
    match decodedGroup [a, b, c, d] with
    | (bytes, false) => (bytes, false)
    | (bytes, true) =>
      let (rest, ok) := decoded t
      (bytes ++ rest, ok)
  | [] => ([], true)
  | t => decodedGroup t

def base32Digits : Text := "ABCDEFGHIJKLMNOPQRSTUVWXYZ234567".toList

/-- The digits of a number, the last one standing for the lowest bits. -/
def digitsOf (size count n : Nat) : List Nat :=
  (List.range count).reverse.map fun k => n.shiftRight (size * k) % Nat.pow 2 size

/-- Eight printable characters for every five bytes. -/
def encodedBy32 (bs : List Nat) : Text :=
  (pieces 5 bs).flatMap fun five =>
    let n := (five ++ List.replicate (5 - five.length) 0).foldl (fun n b => n * 256 + b) 0
    let used := (five.length * 8 + 4) / 5
    (digitsOf 5 8 n).zipIdx.map fun (d, k) =>
      if k < used then (base32Digits[d]?).getD '=' else '='

def decodedBy32 (t : Text) : Text × Bool :=
  (pieces 8 t).foldl (fun (done, ok) eight =>
    let digits := (eight.takeWhile (· ≠ '=')).filterMap fun ch =>
      base32Digits.findIdx? (· == ch)
    let n := (digits ++ List.replicate (8 - digits.length) 0).foldl (fun n d => n * 32 + d) 0
    let bytes := (digitsOf 8 5 n).take (digits.length * 5 / 8)
    let isWhole := eight.length = 8 &&
      digits.length = (eight.takeWhile (· ≠ '=')).length
    if ok && isWhole then (done ++ bytes.map Char.ofNat, true) else (done, false)) ([], true)

def wrapped (n : Nat) (t : Text) : Text :=
  if n = 0 then t else ofLines (pieces n t)

/-- Write bytes in printable characters, or read them. -/
def recoded (encode : List Nat → Text) (decode : Text → Text × Bool)
    (isDigit : Char → Bool) (c : Call) : Work Nat :=
  c.withOptions { flags := "di", valued := "w"
                  long := [("decode", 'd'), ("wrap", 'w'), ("ignore-garbage", 'i')] } 1 fun o => do
    match o.operands with
    | _ :: extra :: _ => c.misuse ("extra operand ".toList ++ Call.quoted extra)
    | files =>
      let (t, ok) ← c.gatherAll files
      if !ok then return 1
      else if o.has 'd' then
        let kept := if o.has 'i' then t.filter fun ch => isDigit ch || ch = '='
          else t.filter (· != '\n')
        let (shown, valid) := decode kept
        c.print shown
        if valid then return 0 else c.fail "invalid input".toList
      else match (o.value? 'w').map fun t => (natural? t, t) with
        | some (none, t) => c.fail ("invalid wrap size: ".toList ++ Call.quoted t)
        | width =>
          c.print (wrapped ((width.bind Prod.fst).getD 76) (encode (t.map Char.toNat)))
          return 0

def base64 : Call → Work Nat := recoded encoded decoded base64Digits.contains

def base32 : Call → Work Nat := recoded encodedBy32 decodedBy32 base32Digits.contains

end GoRepl.Machine.Raw
