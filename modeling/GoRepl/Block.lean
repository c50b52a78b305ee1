import GoRepl.Fragment.Basic

/-! # Blocks

Reading the lines of a fragment. A line that ends in `{` or `(` opens a block, which goes on until
that bracket is balanced; blocks may open inside blocks. The open blocks stand on a stack, and each
request for a line carries its height. -/

namespace GoRepl

/-- The bracket that closes the block opened by a line, if the line opens one. -/
def closerFor (line : Text) : Option Char :=
  match line.trimEnd.getLast? with
  | some '{' => some '}'
  | some '(' => some ')'
  | _ => none

/-- The bracket that a closer balances. Any other character stands for itself. -/
def openerOf : Char → Char
  | '}' => '{'
  | ')' => '('
  | ']' => '['
  | c => c

/-- Does a line close the block that waits for `closer`? It starts or ends with the closer and has
more closers than openers of that kind. -/
def closes (line : Text) (closer : Char) : Bool :=
  (line.head? = some closer || line.getLast? = some closer) &&
    line.count (openerOf closer) < line.count closer

/-- Does a line close one part of a block and open the next, as `} else {` does? -/
def continues (line : Text) (closer : Char) : Bool :=
  line.head? = some closer && closerFor line = some closer

/-- What a source of lines gives when it is asked for one. -/
inductive SourceItem where
  | line (text : Text)
  | interrupt
  | fault (reason : Text)
deriving DecidableEq, Repr

/-- Why a block could not be read to its end. -/
inductive ReadError where
  | interrupted
  | closed
  | fault (reason : Text)
deriving DecidableEq, Repr

def ReadError.message : ReadError → Text
  | .interrupted => "interrupted".toList
  | .closed => "input ended inside an open block".toList
  | .fault reason => "failed to read input: ".toList ++ reason

/-- The result of reading a fragment, the depth of each request made to the source, and what is
left of the source. -/
structure Reading where
  result : Except ReadError Fragment
  depths : List Nat
  rest : List SourceItem

namespace Block

/-- A block that waits for its closer; its elements stand latest first. -/
structure Frame where
  opener : Text
  closer : Char
  elements : List Element := []
deriving DecidableEq, Repr

def Frame.push (e : Element) (frame : Frame) : Frame :=
  { frame with elements := e :: frame.elements }

def Frame.fragment (frame : Frame) : Fragment :=
  ⟨frame.opener, Body.ofList frame.elements.reverse⟩

/-- What becomes of the innermost block and the blocks around it. -/
inductive Step where
  | done (fragment : Fragment)
  | waiting (frame : Frame) (outer : List Frame)

/-- Take one line, trimmed, into the innermost block. -/
def step (frame : Frame) (outer : List Frame) (line : Text) : Step :=
  if line = [] then .waiting frame outer
  else if closes line frame.closer then
    let fragment := (frame.push (.line line)).fragment
    match outer with
    | [] => .done fragment
    | up :: outer => .waiting (up.push (.nested fragment)) outer
  else if continues line frame.closer then .waiting (frame.push (.line line)) outer
  else match closerFor line with
    | some closer => .waiting ⟨line, closer, []⟩ (frame :: outer)
    | none => .waiting (frame.push (.nested (.ofLine line))) outer

/-- Read on until the outermost block is closed. -/
def read (frame : Frame) (outer : List Frame) : List SourceItem → Reading
  | [] => ⟨.error .closed, [outer.length + 1], []⟩
  | .interrupt :: rest => ⟨.error .interrupted, [outer.length + 1], rest⟩
  | .fault reason :: rest => ⟨.error (.fault reason), [outer.length + 1], rest⟩
  | .line text :: rest =>
    match step frame outer text.trim with
    | .done fragment => ⟨.ok fragment, [outer.length + 1], rest⟩
    | .waiting frame' outer' =>
      let r := read frame' outer' rest
      { r with depths := (outer.length + 1) :: r.depths }

end Block

/-- Read the fragment that a line starts. A line that opens no block is a fragment by itself, and
the source is not asked. -/
def Fragment.read (line : Text) (source : List SourceItem) : Reading :=
  match closerFor line with
  | none => ⟨.ok (.ofLine line), [], source⟩
  | some closer => Block.read ⟨line, closer, []⟩ [] source

end GoRepl
