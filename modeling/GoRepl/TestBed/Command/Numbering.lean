import GoRepl.TestBed.Command.Quantity
import GoRepl.TestBed.Command.Scalar
import GoRepl.TestBed.Regex

/-! # Test bed: numbered lines

Lines are written with their numbers. Pages have a head, a body and a foot, which begin with lines
of their own and are numbered in ways of their own. -/

namespace GoRepl.Machine.Numbering

/-- Which lines of a part of a page are numbered. -/
inductive Style where
  | all
  | filled
  | nothing
  /-- Those that a pattern matches. -/
  | matching (pattern : Text)

/-- Read a style. -/
def Style.read? : Text → Option Style
  | 'a' :: _ => some .all
  | 't' :: _ => some .filled
  | 'n' :: _ => some .nothing
  | 'p' :: pattern => some (.matching pattern)
  | _ => none

/-- Where a number stands in its column. -/
inductive Alignment where
  | left
  | right
  | zeros

/-- How lines are numbered. -/
structure Plan where
  head : Style := .nothing
  body : Style := .filled
  foot : Style := .nothing
  alignment : Alignment := .right
  width : Nat := 6
  separator : Text := ['\t']
  start : Int := 1
  step : Int := 1
  /-- How many empty lines in a row count as one. -/
  blanks : Nat := 1
  mark : Text := ['\\', ':']
  keeps : Bool := false

/-- A number in its column. -/
def Plan.column (p : Plan) (n : Int) : Text :=
  let digits := decimal n.natAbs
  let sign : Text := if n < 0 then ['-'] else []
  match p.alignment with
  | .left => sign ++ digits ++ List.replicate (p.width - sign.length - digits.length) ' '
  | .right => padStart p.width ' ' (sign ++ digits)
  | .zeros => sign ++ padStart (p.width - sign.length) '0' digits

/-- What is known where a line begins: the number of the next line, the style of the part of the
page, and how many empty lines have gone before. -/
structure State where
  next : Int
  style : Style
  blanks : Nat := 0

/-- The part of a page that a line begins. -/
def Plan.section? (p : Plan) (l : Text) : Option Style :=
  if p.mark.length < 2 then none
  else if l = p.mark ++ p.mark ++ p.mark then some p.head
  else if l = p.mark ++ p.mark then some p.body
  else if l = p.mark then some p.foot
  else none

/-- A line as it is written, and what is known after it. -/
def Plan.line (p : Plan) (s : State) (l : Text) : State × Text :=
  match p.section? l with
  | some style => ({ s with next := if p.keeps then s.next else p.start, style }, [])
  | none =>
    let joins := l = [] && s.blanks + 1 ≠ p.blanks
    let isNumbered : Bool := match s.style with
      | .all => p.blanks ≤ 1 || !joins
      | .filled => l ≠ []
      | .nothing => false
      | .matching pattern => (Regex.read { extended := false } pattern).occursIn l
    let blanks := match s.style with
      | .all => if isNumbered then 0 else s.blanks + 1
      | _ => s.blanks
    if isNumbered then
      ({ s with next := s.next + p.step, blanks }, p.column s.next ++ p.separator ++ l)
    else ({ s with blanks }, List.replicate (p.width + p.separator.length) ' ' ++ l)

/-- The lines as they are written. -/
def Plan.lines (p : Plan) (ls : List Text) : List Text :=
  (ls.foldl (fun (s, done) l =>
    let (s, l) := p.line s l
    (s, l :: done)) (({ next := p.start, style := p.body } : State), ([] : List Text))).2.reverse

/-- What is wrong with the options: all that is told before the end, and whether a hint follows. -/
structure Misuse where
  messages : List Text
  hints : Bool := true

/-- Take an option into account. What is wrong with styles is gathered. -/
def Plan.add (state : Plan × List Text) (given : Char × Text) :
    Except Misuse (Plan × List Text) :=
  let (p, wrong) := state
  let (k, t) := given
  let style (part : String) (set : Style → Plan) : Except Misuse (Plan × List Text) :=
    match Style.read? t with
    | some (.matching pattern) =>
      match Regex.fault? { extended := false } pattern with
      | some fault => throw ⟨wrong ++ [fault.toList], false⟩
      | none => return (set (.matching pattern), wrong)
    | some s => return (set s, wrong)
    | none =>
      let message := "invalid ".toList ++ part.toList ++ " numbering style: ".toList
      return (p, wrong ++ [message ++ Call.quoted t])
  let number (what : String) (least most : Int) (set : Int → Plan) :
      Except Misuse (Plan × List Text) :=
    match Quantity.within what least most t with
    | .ok n => return (set n, wrong)
    | .error message => throw ⟨wrong ++ [message], false⟩
  let largest : Int := 9223372036854775807
  match k with
  | 'h' => style "header" fun s => { p with head := s }
  | 'b' => style "body" fun s => { p with body := s }
  | 'f' => style "footer" fun s => { p with foot := s }
  | 'v' => number "starting line number" (-largest - 1) largest fun n => { p with start := n }
  | 'i' => number "line number increment" (-largest - 1) largest fun n => { p with step := n }
  | 'l' => number "line number of blank lines" 1 largest fun n => { p with blanks := n.toNat }
  | 'w' => number "line number field width" 1 2147483647 fun n => { p with width := n.toNat }
  | 's' => return ({ p with separator := t }, wrong)
  | 'p' => return ({ p with keeps := true }, wrong)
  | 'd' =>
    let mark := match t with
      | [c] => [c, ':']
      | t => t
    return ({ p with mark }, wrong)
  | 'n' =>
    match String.ofList t with
    | "ln" => return ({ p with alignment := .left }, wrong)
    | "rn" => return ({ p with alignment := .right }, wrong)
    | "rz" => return ({ p with alignment := .zeros }, wrong)
    | _ => return (p, wrong ++ ["invalid line numbering format: ".toList ++ Call.quoted t])
  | _ => return (p, wrong)

def nl (c : Call) : Work Nat :=
  c.withOptions { flags := "p", valued := "bhfnwsvild",
                  long := [("body-numbering", 'b'), ("number-width", 'w'),
                    ("number-separator", 's'), ("starting-line-number", 'v'),
                    ("line-increment", 'i'), ("number-format", 'n'), ("header-numbering", 'h'),
                    ("footer-numbering", 'f'), ("join-blank-lines", 'l'),
                    ("section-delimiter", 'd'), ("no-renumber", 'p')] } 1 fun o => do
    let read : Except Misuse (Plan × List Text) := o.given.foldlM Plan.add ({}, [])
    let refuse (m : Misuse) : Work Nat := do
      for message in m.messages do
        c.complain message
      if m.hints then c.write 2 "Try 'nl --help' for more information.\n".toList
      return 1
    match read with
    | .error m => refuse m
    | .ok (_, message :: wrong) => refuse ⟨message :: wrong, true⟩
    | .ok (p, []) => c.filter o.operands fun t => ofLines (p.lines (linesOf t))

end GoRepl.Machine.Numbering
