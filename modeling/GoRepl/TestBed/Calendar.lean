import GoRepl.TestBed.Command.Format

/-! # Test bed: the calendar

Points in time as days and hours, in the calendar that is in use everywhere, at the zero meridian;
how they are written, and how they are read. -/

namespace GoRepl.Machine.Calendar

/-- A point in time. Months and days are counted from one. -/
structure Moment where
  year : Int
  month : Nat
  day : Nat
  hour : Nat := 0
  minute : Nat := 0
  second : Nat := 0
  micro : Nat := 0
deriving DecidableEq, Repr

/-- The days from the start of 1970 to a day. Years begin in March, so that a leap day is the last
day of its year. -/
def daysTo (year : Int) (month day : Nat) : Int :=
  let y := if month ≤ 2 then year - 1 else year
  let era := y.fdiv 400
  let yearOfEra := (y - era * 400).toNat
  let dayOfYear := (153 * ((month + 9) % 12) + 2) / 5 + day - 1
  let dayOfEra := yearOfEra * 365 + yearOfEra / 4 - yearOfEra / 100 + dayOfYear
  era * 146097 + dayOfEra - 719468

/-- Year, month and day of a number of days from the start of 1970. -/
def dateOf (days : Int) : Int × Nat × Nat :=
  let z := days + 719468
  let era := z.fdiv 146097
  let dayOfEra := (z - era * 146097).toNat
  let yearOfEra := (dayOfEra - dayOfEra / 1460 + dayOfEra / 36524 - dayOfEra / 146096) / 365
  let dayOfYear := dayOfEra - (365 * yearOfEra + yearOfEra / 4 - yearOfEra / 100)
  let m := (5 * dayOfYear + 2) / 153
  let day := dayOfYear - (153 * m + 2) / 5 + 1
  let month := if m < 10 then m + 3 else m - 9
  let year := (yearOfEra : Int) + era * 400
  (if month ≤ 2 then year + 1 else year, month, day)

/-- The moment of a number of microseconds from the start of 1970. -/
def ofMicros (t : Int) : Moment :=
  let seconds := t.fdiv 1000000
  let days := seconds.fdiv 86400
  let rest := (seconds - days * 86400).toNat
  let (year, month, day) := dateOf days
  ⟨year, month, day, rest / 3600, rest / 60 % 60, rest % 60, (t - seconds * 1000000).toNat⟩

def toMicros (m : Moment) : Int :=
  (daysTo m.year m.month m.day * 86400 + m.hour * 3600 + m.minute * 60 + m.second) * 1000000 +
    m.micro

/-- The day of the week, from Sunday on. -/
def weekday (m : Moment) : Nat := ((daysTo m.year m.month m.day + 4) % 7).toNat

/-- The day of the year, counted from zero. -/
def yearDay (m : Moment) : Nat := (daysTo m.year m.month m.day - daysTo m.year 1 1).toNat

def weekdays : List String :=
  ["Sunday", "Monday", "Tuesday", "Wednesday", "Thursday", "Friday", "Saturday"]

def months : List String :=
  ["January", "February", "March", "April", "May", "June", "July", "August", "September",
    "October", "November", "December"]

/-! ## Writing -/

/-- Year and week, where the first week is the one with the first Thursday. -/
def week (m : Moment) : Int × Nat :=
  let thursday := daysTo m.year m.month m.day + 3 - (((weekday m + 6) % 7 : Nat) : Int)
  let (year, _, _) := dateOf thursday
  (year, ((thursday - daysTo year 1 1) / 7).toNat + 1)

/-- A number with a width, a sign that fills it up, or as the flag of a directive has it. -/
def number (flag : Option Char) (width : Nat) (fill : Char) (given : Option Nat) (n : Int) : Text :=
  let width := given.getD width
  let digits := decimal n.natAbs
  let sign : Text := if n < 0 then ['-'] else []
  match flag with
  | some '-' => sign ++ digits
  | some '_' => padStart width ' ' (sign ++ digits)
  | some '0' => sign ++ padStart (width - sign.length) '0' digits
  | _ => if fill = '0' then sign ++ padStart (width - sign.length) '0' digits
    else padStart width fill (sign ++ digits)

/-- What a directive stands for, unless it is one that is put together from others. -/
def field? (m : Moment) (flag : Option Char) (given : Option Nat) (c : Char) : Option Text :=
  let n (width : Nat) (fill : Char) (n : Int) : Option Text :=
    some (number flag width fill given n)
  let word (t : Text) : Option Text :=
    let t := if flag = some '^' then t.map Char.toUpper else t
    some (padStart (given.getD 0) (if flag = some '0' then '0' else ' ') t)
  let named (ts : List String) (k : Nat) : Text := ((ts[k]?).getD "").toList
  match c with
  | 'Y' => n 4 '0' m.year
  | 'C' => n 2 '0' (m.year.fdiv 100)
  | 'y' => n 2 '0' (m.year.fmod 100)
  | 'm' => n 2 '0' m.month
  | 'd' => n 2 '0' m.day
  | 'e' => n 2 ' ' m.day
  | 'H' => n 2 '0' m.hour
  | 'k' => n 2 ' ' m.hour
  | 'I' => n 2 '0' ((m.hour + 11) % 12 + 1 : Nat)
  | 'l' => n 2 ' ' ((m.hour + 11) % 12 + 1 : Nat)
  | 'M' => n 2 '0' m.minute
  | 'S' => n 2 '0' m.second
  | 'N' =>
    let nanos := padStart 9 '0' (decimal (m.micro * 1000))
    some (if flag = some '-' then Text.dropEndWhile (· = '0') nanos
      else nanos.take (given.getD 9))
  | 's' => n 1 '0' ((toMicros m).fdiv 1000000)
  | 'j' => n 3 '0' (yearDay m + 1 : Nat)
  | 'u' => n 1 '0' ((weekday m + 6) % 7 + 1 : Nat)
  | 'w' => n 1 '0' (weekday m)
  | 'U' => n 2 '0' ((yearDay m + 7 - weekday m) / 7 : Nat)
  | 'W' => n 2 '0' ((yearDay m + 7 - (weekday m + 6) % 7) / 7 : Nat)
  | 'V' => n 2 '0' (week m).2
  | 'G' => n 4 '0' (week m).1
  | 'g' => n 2 '0' ((week m).1.fmod 100)
  | 'q' => n 1 '0' ((m.month - 1) / 3 + 1 : Nat)
  | 'A' => word (named weekdays (weekday m))
  | 'a' => word ((named weekdays (weekday m)).take 3)
  | 'B' => word (named months (m.month - 1))
  | 'b' | 'h' => word ((named months (m.month - 1)).take 3)
  | 'p' => word (if flag = some '#' then (if m.hour < 12 then "am" else "pm").toList
      else (if m.hour < 12 then "AM" else "PM").toList)
  | 'P' => word (if m.hour < 12 then "am" else "pm").toList
  | 'Z' => word "UTC".toList
  | 'z' => some "+0000".toList
  | 'n' => some ['\n']
  | 't' => some ['\t']
  | '%' => some ['%']
  | _ => none

/-- The directives that a directive is put together from. -/
def composed? : Char → Option String
  | 'F' => some "%Y-%m-%d"
  | 'T' => some "%H:%M:%S"
  | 'R' => some "%H:%M"
  | 'D' => some "%m/%d/%y"
  | 'x' => some "%m/%d/%y"
  | 'X' => some "%H:%M:%S"
  | 'r' => some "%I:%M:%S %p"
  | 'c' => some "%a %b %e %H:%M:%S %Y"
  | _ => none

/-- A text with directives for a moment. -/
def shown (m : Moment) : (fuel : Nat) → Text → Text
  | 0, _ => []
  | _, [] => []
  | fuel + 1, '%' :: t =>
    let flag := t.head?.filter ("-_0^#".toList.contains ·)
    let rest := if flag.isSome then t.tail else t
    let ds := rest.takeWhile Text.isDigit
    let given := if ds = [] then none else some (Shell.Expression.ofDigits 10 ds)
    match rest.drop ds.length with
    | [] => '%' :: t
    | ':' :: 'z' :: after => "+00:00".toList ++ shown m fuel after
    | c :: after =>
      match composed? c, field? m flag given c with
      | some t, _ => shown m fuel t.toList ++ shown m fuel after
      | none, some t => t ++ shown m fuel after
      | none, none => '%' :: c :: shown m fuel after
  | fuel + 1, c :: t => c :: shown m fuel t

def write (m : Moment) (format : Text) : Text := shown m (2 * format.length + 40) format

/-! ## Reading -/

/-- What has been read of a date: the moment, and what is to be added in months and in
microseconds. -/
structure Draft where
  moment : Moment
  dated : Bool := false
  timed : Bool := false
  months : Int := 0
  micros : Int := 0
  weekday : Option (Nat × Int) := none

/-- The words of a text; a run of letters, of digits with what belongs to a number, or a sign. -/
def tokens : (fuel : Nat) → Text → List Text
  | 0, _ => []
  | _, [] => []
  | fuel + 1, c :: t =>
    if c == ' ' || c == '\t' || c == ',' then tokens fuel t
    else if c.isAlpha then
      let w := (c :: t).takeWhile fun c => c.isAlpha || c == '.'
      (w.map Char.toLower) :: tokens fuel ((c :: t).drop w.length)
    else if Text.isDigit c then
      let w := (c :: t).takeWhile fun c => Text.isDigit c || "-:./".toList.contains c
      let w := Text.dropEndWhile (!Text.isDigit ·) w
      w :: tokens fuel ((c :: t).drop w.length)
    else [c] :: tokens fuel t

def nat? (t : Text) : Option Nat :=
  if t ≠ [] && t.all Text.isDigit then some (Shell.Expression.ofDigits 10 t) else none

/-- The number of a month or weekday by at least three letters of its name. -/
def named? (names : List String) (t : Text) : Option Nat :=
  if t.length < 3 then none
  else (names.zipIdx.find? fun (n, _) => t.isPrefixOf (n.toList.map Char.toLower)).map Prod.snd

/-- A unit in months, or in microseconds. -/
def unit? (t : Text) : Option (Int × Int) :=
  let t := if t.getLast? = some 's' && t.length > 3 then t.dropLast else t
  match String.ofList t with
  | "sec" | "second" => some (0, 1000000)
  | "min" | "minute" => some (0, 60000000)
  | "hour" => some (0, 3600000000)
  | "day" => some (0, 86400000000)
  | "week" => some (0, 604800000000)
  | "fortnight" => some (0, 1209600000000)
  | "month" => some (1, 0)
  | "year" => some (12, 0)
  | _ => none

/-- Hours, minutes and seconds. -/
def clock? (t : Text) : Option (Nat × Nat × Nat × Nat) :=
  match t.splitOn ':' with
  | [h, m] => do return (← nat? h, ← nat? m, 0, 0)
  | [h, m, s] =>
    match s.splitOn '.' with
    | [s] => do return (← nat? h, ← nat? m, ← nat? s, 0)
    | [s, f] => do
      return (← nat? h, ← nat? m, ← nat? s, ← nat? ((f ++ List.replicate 6 '0').take 6))
    | _ => none
  | _ => none

/-- Year, month and day, with dashes or slashes between them. -/
def date? (t : Text) : Option (Int × Nat × Nat) :=
  match t.splitOn '-', t.splitOn '/', nat? t with
  | [y, m, d], _, _ => do return ((← nat? y : Nat), ← nat? m, ← nat? d)
  | _, [m, d, y], _ => do
    if y.length ≤ 2 || m.length = 4 then return ((← nat? m : Nat), ← nat? d, ← nat? y)
    else return ((← nat? y : Nat), ← nat? m, ← nat? d)
  | _, _, some n =>
    if t.length = 8 then some ((n / 10000 : Nat), n / 100 % 100, n % 100) else none
  | _, _, _ => none

def monthLength (year : Int) (month : Nat) : Nat :=
  let next := if month = 12 then daysTo (year + 1) 1 1 else daysTo year (month + 1) 1
  (next - daysTo year month 1).toNat

def isDate (y : Int) (m d : Nat) : Bool :=
  1 ≤ m && m ≤ 12 && 1 ≤ d && decide (d ≤ monthLength y m)

/-- Read words one after another. -/
def readTokens : (fuel : Nat) → Draft → List Text → Option Draft
  | 0, _, _ => none
  | _, d, [] => some d
  | fuel + 1, d, w :: ws =>
    let at' (d : Draft) (c : Nat × Nat × Nat × Nat) : Draft :=
      { d with timed := true, moment := { d.moment with
        hour := c.1, minute := c.2.1, second := c.2.2.1, micro := c.2.2.2 } }
    let on (y : Int) (m day : Nat) (ws : List Text) : Option Draft :=
      if isDate y m day then
        readTokens fuel { d with dated := true, moment := { d.moment with
          year := y, month := m, day } } ws
      else none
    let add (n : Int) (u : Int × Int) (ws : List Text) : Option Draft :=
      let n := if ws.head? = some "ago".toList then -n else n
      let ws := if ws.head? = some "ago".toList then ws.tail else ws
      readTokens fuel { d with months := d.months + n * u.1, micros := d.micros + n * u.2 } ws
    match String.ofList w, ws with
    | "now", ws => readTokens fuel d ws
    | "today", ws => readTokens fuel d ws
    | "midnight", ws => readTokens fuel (at' d (0, 0, 0, 0)) ws
    | "noon", ws => readTokens fuel (at' d (12, 0, 0, 0)) ws
    | "tomorrow", ws => add 1 (0, 86400000000) ws
    | "yesterday", ws => add (-1) (0, 86400000000) ws
    | "utc", ws | "gmt", ws | "z", ws => readTokens fuel d ws
    | "t", ws => readTokens fuel d ws
    | "+", n :: u :: ws =>
      match nat? n, unit? u, n.splitOn ':' with
      | some n, some u, _ => add n u ws
      | some n, none, _ => zone fuel d (-1) n (u :: ws)
      | none, _, [h, m] => zone fuel d (-1)
          ((nat? h).getD 0 * 100 + (nat? m).getD 0) (u :: ws)
      | _, _, _ => none
    | "+", [n] => zone fuel d (-1) (zoneNumber n) []
    | "-", n :: u :: ws =>
      match nat? n, unit? u with
      | some n, some u => add (-n) u ws
      | some n, none => zone fuel d 1 n (u :: ws)
      | _, _ => none
    | "-", [n] => zone fuel d 1 (zoneNumber n) []
    | "next", u :: ws => relative (add · · ws) fuel d 1 u ws
    | "last", u :: ws => relative (add · · ws) fuel d (-1) u ws
    | "this", u :: ws => relative (add · · ws) fuel d 0 u ws
    | _, ws =>
      match clock? w with
      | some c =>
        if c.1 < 25 && c.2.1 < 60 && c.2.2.1 < 61 then
          match ws with
          | m :: rest =>
            let isMorning := m = "am".toList || m = "a.m.".toList
            let isEvening := m = "pm".toList || m = "p.m.".toList
            if isMorning then readTokens fuel (at' d (c.1 % 12, c.2)) rest
            else if isEvening then readTokens fuel (at' d (c.1 % 12 + 12, c.2)) rest
            else readTokens fuel (at' d c) ws
          | [] => readTokens fuel (at' d c) ws
        else none
      | none =>
        match date? w with
        | some (y, m, day) => on y m day ws
        | none =>
          match named? months w, named? weekdays w, nat? w with
          | some m, _, _ =>
            match ws with
            | n :: ws' =>
              match nat? n, ws' with
              | some day, y :: ws'' =>
                match nat? y with
                | some y' =>
                  if y.length = 4 then on y' (m + 1) day ws'' else on d.moment.year (m + 1) day ws'
                | none => on d.moment.year (m + 1) day ws'
              | some day, [] => on d.moment.year (m + 1) day []
              | none, _ => none
            | [] => none
          | none, some k, _ => readTokens fuel { d with weekday := some (k, 0) } ws
          | none, none, some n =>
            match ws with
            | u :: rest =>
              match unit? u, named? months u with
              | some u, _ => add n u rest
              | none, some m =>
                match rest with
                | y :: rest' =>
                  match nat? y with
                  | some y' => on y' (m + 1) n rest'
                  | none => on d.moment.year (m + 1) n rest
                | [] => on d.moment.year (m + 1) n []
              | none, none =>
                if u = "am".toList then readTokens fuel (at' d (n % 12, 0, 0, 0)) rest
                else if u = "pm".toList then readTokens fuel (at' d (n % 12 + 12, 0, 0, 0)) rest
                else none
            | [] =>
              if w.length ≤ 2 && n < 24 then readTokens fuel (at' d (n, 0, 0, 0)) []
              else if w.length = 4 then readTokens fuel (at' d (n / 100, n % 100, 0, 0)) []
              else none
          | none, none, none =>
            match unit? w with
            | some u => add 1 u ws
            | none => none
where
  /-- A number of hours and minutes from the zero meridian. -/
  zone (fuel : Nat) (d : Draft) (sign : Int) (n : Nat) (ws : List Text) : Option Draft :=
    let minutes := if n < 25 then n * 60 else n / 100 * 60 + n % 100
    readTokens fuel { d with micros := d.micros + sign * minutes * 60000000 } ws
  zoneNumber (t : Text) : Nat :=
    match t.splitOn ':' with
    | [h, m] => (nat? h).getD 0 * 100 + (nat? m).getD 0
    | _ => (nat? t).getD 0
  relative (add : Int → Int × Int → Option Draft) (fuel : Nat) (d : Draft) (n : Int) (u : Text)
      (ws : List Text) : Option Draft :=
    match unit? u, named? weekdays u with
    | some u, _ => add n u
    | none, some k => readTokens fuel { d with weekday := some (k, n) } ws
    | none, none => none

/-- The moment of a draft, whose time of day is midnight if only a day was named. -/
def Draft.micro (d : Draft) : Int :=
  let m := if (d.dated || d.weekday.isSome) && !d.timed then
      { d.moment with hour := 0, minute := 0, second := 0, micro := 0 }
    else d.moment
  let total := m.year * 12 + (m.month - 1 : Nat) + d.months
  let y := total.fdiv 12
  let shifted := daysTo y ((total.fmod 12).toNat + 1) 1 + (m.day - 1 : Nat)
  let days := match d.weekday with
    | none => shifted
    | some (k, n) =>
      let today := ((shifted + 4) % 7).toNat
      let ahead : Int := ((k + 7 - today) % 7 : Nat)
      let extra : Int := if 0 < n && ahead ≠ 0 then n - 1 else n
      shifted + ahead + 7 * extra
  (days * 86400 + m.hour * 3600 + m.minute * 60 + m.second) * 1000000 + m.micro + d.micros

/-- Read a date in words, given the present time. -/
def read? (now : Int) (t : Text) : Option Int :=
  match Text.trim t with
  | '@' :: t =>
    let (negative, t) := match t with
      | '-' :: t => (true, t)
      | t => (false, t)
    match t.splitOn '.' with
    | [s] => (nat? s).map fun s => (if negative then -1 else 1) * (s * 1000000 : Int)
    | [s, f] => do
      let whole : Int := (← nat? s) * 1000000 + (← nat? ((f ++ List.replicate 6 '0').take 6))
      return if negative then -whole else whole
    | _ => none
  | [] => some (toMicros { ofMicros now with hour := 0, minute := 0, second := 0, micro := 0 })
  | t =>
    let ts := tokens (t.length + 1) t
    (readTokens (2 * ts.length + 2) { moment := ofMicros now } ts).map Draft.micro

/-- A moment in digits: century, year, month, day, hour, minute, and perhaps seconds. -/
def ofDigits? (now : Int) (t : Text) : Option Int := do
  let (digits, second) ← match t.splitOn '.' with
    | [t] => some (t, 0)
    | [t, s] => (nat? s).map (t, ·)
    | _ => none
  if !digits.all Text.isDigit then none
  let two (k : Nat) : Nat := Shell.Expression.ofDigits 10 ((digits.drop k).take 2)
  let (year, k) : Int × Nat ← match digits.length with
    | 8 => some ((ofMicros now).year, 0)
    | 10 => some ((if two 0 < 69 then 2000 + two 0 else 1900 + two 0 : Nat), 2)
    | 12 => some ((two 0 * 100 + two 2 : Nat), 4)
    | _ => none
  if !isDate year (two k) (two (k + 2)) then none
  return toMicros ⟨year, two k, two (k + 2), two (k + 4), two (k + 6), second, 0⟩

end GoRepl.Machine.Calendar
