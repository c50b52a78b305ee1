import GoRepl.Text.Basic

/-! # Values of a settings file

The scalar values of the TOML format, each with its reader. A reader takes the value from the start
of a text and gives it with what follows. Values whose contents no setting uses carry none. -/

namespace GoRepl.Toml

inductive Value where
  | text (t : Text)
  | integer (n : Int)
  | boolean
  | float
  | moment
  | list (items : List Value)
  | table

/-- A character that may stand in a comment, and with few exceptions in a string. -/
def isPlain (c : Char) : Bool := c == '\t' || (0x20 ≤ c.toNat && c.toNat != 0x7F)

def isSpace (c : Char) : Bool := c == ' ' || c == '\t'

def skipSpace (t : Text) : Text := t.dropWhile isSpace

/-- A line end: a line feed, with or without a carriage return before it. -/
def newline? : Text → Option Text
  | '\n' :: t => some t
  | '\r' :: '\n' :: t => some t
  | _ => none

/-- What follows a given beginning. -/
def expect (start : String) (t : Text) : Option Text := Text.after? start.toList t

/-! ## Digits -/

def digitValue? (base : Nat) (c : Char) : Option Nat :=
  let value :=
    if Text.isDigit c then c.toNat - '0'.toNat
    else if 'a' ≤ c && c ≤ 'f' then c.toNat - 'a'.toNat + 10
    else if 'A' ≤ c && c ≤ 'F' then c.toNat - 'A'.toNat + 10
    else base
  if value < base then some value else none

def isDigitOf (base : Nat) (c : Char) : Bool := (digitValue? base c).isSome

def ofDigits (base : Nat) (t : Text) : Nat :=
  t.foldl (fun n c => n * base + (digitValue? base c).getD 0) 0

/-- Digits in which single underscores may stand between two of them. The underscores are dropped;
one that no digit follows is an error. -/
def digits? (base : Nat) : (afterDigit : Bool) → Text → Option (Text × Text)
  | false, c :: t => if isDigitOf base c then (digits? base true t).map fun (ds, r) => (c :: ds, r)
      else none
  | true, c :: t =>
    if isDigitOf base c then (digits? base true t).map fun (ds, r) => (c :: ds, r)
    else if c == '_' then digits? base false t
    else some ([], c :: t)
  | false, [] => none
  | true, [] => some ([], [])

/-- Exactly `n` decimal digits, as a number. -/
def fixedDigits? (n : Nat) (t : Text) : Option (Nat × Text) :=
  let ds := t.take n
  if ds.length = n && ds.all Text.isDigit then some (ofDigits 10 ds, t.drop n) else none

/-! ## Numbers -/

/-- The optional sign of a number: is it negative, and what follows. -/
def sign : Text → Bool × Text
  | '-' :: t => (true, t)
  | '+' :: t => (false, t)
  | t => (false, t)

/-- The digits of a decimal number before its point; there is no leading zero but a single one. -/
def whole? : Text → Option (Text × Text)
  | '0' :: t => some (['0'], t)
  | t => digits? 10 false t

def isInt64 (n : Int) : Bool := -Nat.pow 2 63 ≤ n && n < Nat.pow 2 63

def integerOf (n : Int) (rest : Text) : Option (Value × Text) :=
  if isInt64 n then some (.integer n, rest) else none

/-- An integer of 64 bits, decimal or after one of `0x`, `0o` and `0b`. -/
def integer? (t : Text) : Option (Value × Text) :=
  match t with
  | '0' :: 'x' :: t => (digits? 16 false t).bind fun (ds, r) => integerOf (ofDigits 16 ds) r
  | '0' :: 'o' :: t => (digits? 8 false t).bind fun (ds, r) => integerOf (ofDigits 8 ds) r
  | '0' :: 'b' :: t => (digits? 2 false t).bind fun (ds, r) => integerOf (ofDigits 2 ds) r
  | _ =>
    let (negative, t) := sign t
    (whole? t).bind fun (ds, r) =>
      integerOf (if negative then -(ofDigits 10 ds) else ofDigits 10 ds) r

/-- Does `digits · 10 ^ exponent` round to infinity in double precision? It does from half a unit
above the greatest finite number on. -/
def overflows (digits : Text) (exponent : Int) : Bool :=
  let digits := digits.dropWhile (· == '0')
  let magnitude : Int := digits.length + exponent
  if digits.isEmpty || magnitude < 309 then false
  else if magnitude > 309 then true
  else
    let bound := Nat.pow 2 1024 - Nat.pow 2 970
    match exponent with
    | .ofNat e => bound ≤ ofDigits 10 digits * Nat.pow 10 e
    | .negSucc e => bound * Nat.pow 10 (e + 1) ≤ ofDigits 10 digits

/-- The exponent of a float. -/
def exponent? : Text → Option (Int × Text)
  | c :: t =>
    if c == 'e' || c == 'E' then
      let (negative, t) := sign t
      (digits? 10 false t).map fun (ds, r) =>
        (if negative then -(ofDigits 10 ds : Int) else ofDigits 10 ds, r)
    else none
  | [] => none

/-- A float: digits with a fraction, an exponent or both, or one of the words `inf` and `nan`.
A positive one must be finite as written. -/
def float? (t : Text) : Option (Value × Text) :=
  let (negative, t) := sign t
  match expect "inf" t <|> expect "nan" t with
  | some rest => some (.float, rest)
  | none => do
    let (ds, t) ← whole? t
    match t with
    | '.' :: t =>
      let (fs, t) ← digits? 10 false t
      let (e, rest) := (exponent? t).getD (0, t)
      if !negative && overflows (ds ++ fs) (e - fs.length) then none else some (.float, rest)
    | t =>
      let (e, rest) ← exponent? t
      if !negative && overflows ds e then none else some (.float, rest)

/-! ## Dates and times -/

def daysIn (year month : Nat) : Nat :=
  if month = 2 then
    if year % 4 = 0 && (year % 100 ≠ 0 || year % 400 = 0) then 29 else 28
  else if month = 4 || month = 6 || month = 9 || month = 11 then 30
  else 31

def date? (t : Text) : Option Text := do
  let (year, t) ← fixedDigits? 4 t
  let (month, t) ← fixedDigits? 2 (← expect "-" t)
  let (day, t) ← fixedDigits? 2 (← expect "-" t)
  if 1 ≤ month && month ≤ 12 && 1 ≤ day && day ≤ daysIn year month then some t else none

/-- Hours and minutes. -/
def clock? (t : Text) : Option Text := do
  let (hour, t) ← fixedDigits? 2 t
  let (minute, t) ← fixedDigits? 2 (← expect ":" t)
  if hour < 24 && minute < 60 then some t else none

def time? (t : Text) : Option Text := do
  let (second, t) ← fixedDigits? 2 (← expect ":" (← clock? t))
  if 60 < second then none
  else match t with
    | '.' :: t =>
      if (t.takeWhile Text.isDigit).isEmpty then none else some (t.dropWhile Text.isDigit)
    | t => some t

def offset? : Text → Option Text
  | 'Z' :: t | 'z' :: t => some t
  | '+' :: t | '-' :: t => clock? t
  | _ => none

/-- What follows the time of day and its offset, after a date; there need be neither. -/
def timeOfDate (t : Text) : Text :=
  match t with
  | c :: u =>
    if c == 'T' || c == 't' || c == ' ' then
      match time? u with
      | some u => (offset? u).getD u
      | none => t
    else t
  | [] => t

/-- A date, a date with a time, or a time. -/
def moment? (t : Text) : Option (Value × Text) :=
  match date? t with
  | some rest => some (.moment, timeOfDate rest)
  | none => (time? t).map fun rest => (.moment, rest)

/-! ## Strings -/

/-- The character that an escape sequence of `n` hexadecimal digits stands for. -/
def scalar? (n : Nat) (t : Text) : Option (Char × Text) :=
  let ds := t.take n
  let code := ofDigits 16 ds
  if ds.length = n && ds.all (isDigitOf 16) && Nat.isValidChar code then
    some (Char.ofNat code, t.drop n)
  else none

/-- The character that an escape sequence stands for; the text begins after the backslash. -/
def escape? : Text → Option (Char × Text)
  | 'b' :: t => some ('\x08', t)
  | 't' :: t => some ('\t', t)
  | 'n' :: t => some ('\n', t)
  | 'f' :: t => some ('\x0c', t)
  | 'r' :: t => some ('\r', t)
  | '"' :: t => some ('"', t)
  | '\\' :: t => some ('\\', t)
  | 'u' :: t => scalar? 4 t
  | 'U' :: t => scalar? 8 t
  | _ => none

theorem length_scalar?_rest_le {n : Nat} {t rest : Text} {c : Char}
    (h : scalar? n t = some (c, rest)) : rest.length ≤ t.length := by
  simp only [scalar?] at h
  split at h
  · obtain ⟨-, rfl⟩ := Prod.mk.inj (Option.some.inj h)
    simp
  · simp at h

theorem length_escape?_rest_lt {t rest : Text} {c : Char} (h : escape? t = some (c, rest)) :
    rest.length < t.length := by
  unfold escape? at h
  split at h
  any_goals
    obtain ⟨-, rfl⟩ := Prod.mk.inj (Option.some.inj h)
    simp
  · exact Nat.lt_succ_of_le (length_scalar?_rest_le h)
  · exact Nat.lt_succ_of_le (length_scalar?_rest_le h)
  · simp at h

/-- The rest of a string in double quotes, on one line; `done` holds what was read, latest
first. -/
def basic? (done : Text) (t : Text) : Option (Text × Text) :=
  match t with
  | [] => none
  | '"' :: rest => some (done.reverse, rest)
  | '\\' :: t =>
    match h : escape? t with
    | some (c, rest) =>
      have : rest.length < t.length := length_escape?_rest_lt h
      basic? (c :: done) rest
    | none => none
  | c :: t => if isPlain c then basic? (c :: done) t else none
termination_by t.length
decreasing_by all_goals (try simp only [List.length_cons]); omega

/-- The rest of a string in single quotes, on one line. -/
def literal? (t : Text) : Option (Text × Text) :=
  match t.dropWhile fun c => isPlain c && c != '\'' with
  | '\'' :: rest => some (t.takeWhile fun c => isPlain c && c != '\'', rest)
  | _ => none

/-- Where three quotes close a string over several lines, up to two more may stand before them and
belong to it: the quotes to keep and what follows the string. -/
def closing? (q : Char) (t : Text) : Option (Text × Text) :=
  let n := (t.takeWhile (· == q)).length
  if n < 3 then none else some (List.replicate (min (n - 3) 2) q, t.drop (3 + min (n - 3) 2))

theorem length_newline?_rest_lt {t rest : Text} (h : newline? t = some rest) :
    rest.length < t.length := by
  unfold newline? at h
  split at h
  · cases h
    exact Nat.lt_succ_self _
  · cases h
    exact Nat.lt_succ_of_lt (Nat.lt_succ_self _)
  · cases h

/-- What follows the spaces and line ends at the start of a text. -/
def skipLines (t : Text) : Text :=
  match h : newline? (skipSpace t) with
  | some rest =>
    have : rest.length < t.length :=
      Nat.lt_of_lt_of_le (length_newline?_rest_lt h) (Text.length_dropWhile_le isSpace t)
    skipLines rest
  | none => skipSpace t
termination_by t.length

theorem length_skipLines_le (t : Text) : (skipLines t).length ≤ t.length := by
  fun_induction skipLines t with
  | case1 t rest h h' ih => omega
  | case2 t h => exact Text.length_dropWhile_le isSpace t

/-- A backslash at the end of a line swallows the blanks and line ends up to the next text. The
text begins after the backslash. -/
def lineJoin? (t : Text) : Option Text := (newline? (skipSpace t)).map skipLines

theorem length_lineJoin?_rest_lt {t rest : Text} (h : lineJoin? t = some rest) :
    rest.length < t.length := by
  obtain ⟨u, hu, rfl⟩ := Option.map_eq_some_iff.mp h
  have h1 := length_newline?_rest_lt hu
  have h2 := Text.length_dropWhile_le isSpace t
  have h3 := length_skipLines_le u
  simp only [skipSpace] at h1
  omega

/-- The rest of a string over several lines, with or without escape sequences. Each line end is
read as a line feed. -/
def multiline? (q : Char) (escapes : Bool) (done : Text) (t : Text) : Option (Text × Text) :=
  match closing? q t with
  | some (quotes, rest) => some (done.reverse ++ quotes, rest)
  | none =>
    match t with
    | [] => none
    | '\n' :: t => multiline? q escapes ('\n' :: done) t
    | '\r' :: '\n' :: t => multiline? q escapes ('\n' :: done) t
    | '\\' :: t =>
      if escapes then
        match h : escape? t with
        | some (c, rest) =>
          have : rest.length < t.length := length_escape?_rest_lt h
          multiline? q escapes (c :: done) rest
        | none =>
          match h : lineJoin? t with
          | some rest =>
            have : rest.length < t.length := length_lineJoin?_rest_lt h
            multiline? q escapes done rest
          | none => none
      else multiline? q escapes ('\\' :: done) t
    | c :: t => if isPlain c then multiline? q escapes (c :: done) t else none
termination_by t.length
decreasing_by all_goals (try simp only [List.length_cons]); omega

/-- A line end right after the opening quotes does not belong to the string. -/
def skipNewline (t : Text) : Text := (newline? t).getD t

/-- A string in any of its four forms. -/
def string? (t : Text) : Option (Text × Text) :=
  match t with
  | '"' :: '"' :: '"' :: t => multiline? '"' true [] (skipNewline t)
  | '\'' :: '\'' :: '\'' :: t => multiline? '\'' false [] (skipNewline t)
  | '"' :: t => basic? [] t
  | '\'' :: t => literal? t
  | _ => none

/-- Any value but an array or a table. -/
def atom? (t : Text) : Option (Value × Text) :=
  match t with
  | '"' :: _ | '\'' :: _ => (string? t).map fun (s, rest) => (.text s, rest)
  | 't' :: _ => (expect "true" t).map fun rest => (.boolean, rest)
  | 'f' :: _ => (expect "false" t).map fun rest => (.boolean, rest)
  | _ => moment? t <|> float? t <|> integer? t

end GoRepl.Toml
