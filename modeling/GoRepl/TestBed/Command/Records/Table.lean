import GoRepl.TestBed.Command.Records.Basic

/-! # Test bed: tables of values

A list whose values are found by texts or by whole numbers. A loop takes the keys in the order of
the buckets in which they are kept. A key that is looked for comes first in its bucket, numbers
stand in buckets of their own, and they get to those for texts when a text is looked for or a loop
begins. -/

namespace GoRepl.Machine.Records

inductive Key where
  | text (t : Text)
  | number (n : Int)
deriving DecidableEq

namespace Key

def toText : Key → Text
  | text t => t
  | number n => Shell.Expression.shown n

/-- The key that a value stands for, given the text of a number that is not whole. -/
def ofValue (shown : Float → Text) : Value → Key
  | .number x => if x == x.floor && x.abs < 1e15 then number (Value.whole x) else text (shown x)
  | v => text (v.toText shown)

end Key

structure Table where
  /-- Each bucket for texts, with the values. -/
  texts : Array (List (Text × Value)) := .replicate 64 []
  /-- Each bucket for numbers; a value that has a text as its key, too, stands there. -/
  numbers : Array (List (Int × Option Value)) := .replicate 64 []
  size : Nat := 0
  /-- Do all keys stand in the buckets for texts? -/
  named : Bool := false
  /-- Are the keys the numbers from one on, which have not been looked for in any other way? -/
  plain : Bool := false

namespace Table

/-- The number of a text by which it is put into a bucket. -/
def hash (t : Text) : Nat :=
  (t.foldl (fun (h : UInt32) c => (h ^^^ UInt32.ofNat c.toNat) * 16777619) 2166136261).toNat

def textBucket (t : Table) (k : Text) : Nat := hash k % t.texts.size

def numberBucket (t : Table) (n : Int) : Nat := (n % (t.numbers.size : Int)).toNat

/-- The member that satisfies a test, and the others. -/
def takeFirst {α : Type} (p : α → Bool) : List α → Option (α × List α)
  | [] => none
  | x :: xs => if p x then some (x, xs) else (takeFirst p xs).map fun (y, ys) => (y, x :: ys)

/-- Let the keys stand in the buckets for texts. -/
def withNames (t : Table) : Table :=
  if t.named then t
  else
    let t := t.numbers.toList.flatten.foldl (fun t (n, v) =>
      match v with
      | none => t
      | some v =>
        let k := Shell.Expression.shown n
        { t with
          texts := t.texts.modify (t.textBucket k) ((k, v) :: ·)
          numbers := t.numbers.modify (t.numberBucket n) fun es =>
            es.map fun e => if e.1 = n then (n, none) else e }) t
    { t with named := true, plain := false }

/-- Twice as many buckets, if there are too few. -/
def widened (t : Table) : Table :=
  if t.size ≤ 2 * t.texts.size then t
  else
    let n := 2 * t.texts.size
    let texts := Array.ofFn (n := n) fun i =>
      ((t.texts[i.val % t.texts.size]?).getD []).filter fun e => hash e.1 % n = i.val
    let numbers := Array.ofFn (n := n) fun i =>
      ((t.numbers[i.val % t.numbers.size]?).getD []).filter fun e =>
        (e.1 % (n : Int)).toNat = i.val
    { t with texts, numbers }

/-- Look for a text: its value, and the table after that. It may be entered if it is missing. -/
def seekText (t : Table) (k : Text) (enters : Bool) : Option Value × Table :=
  let t := t.withNames
  let i := t.textBucket k
  match takeFirst (fun e => e.1 = k) ((t.texts[i]?).getD []) with
  | some (e, es) => (some e.2, { t with texts := t.texts.setIfInBounds i (e :: es) })
  | none =>
    if !enters then (none, t)
    else
      let t := { t with size := t.size + 1 }.widened
      (some .unset, { t with texts := t.texts.modify (t.textBucket k) ((k, .unset) :: ·) })

/-- The value of a text that stands in its bucket. -/
def valueOf? (t : Table) (k : Text) : Option Value :=
  ((t.texts[t.textBucket k]?).getD []).lookup k

def seekNumber (t : Table) (n : Int) (enters : Bool) : Option Value × Table :=
  let i := t.numberBucket n
  let found := takeFirst (fun e : Int × Option Value => e.1 = n) ((t.numbers[i]?).getD [])
  let t := if t.plain && found.isNone && n ≠ t.size + 1 then { t with plain := false } else t
  match found with
  | some (e, es) =>
    let v := e.2 <|> t.valueOf? (Shell.Expression.shown n)
    (v, if t.plain then t else { t with numbers := t.numbers.setIfInBounds i (e :: es) })
  | none =>
    if t.named then
      match t.seekText (Shell.Expression.shown n) enters with
      | (none, t) => (none, t)
      | (some v, t) =>
        (some v, { t with numbers := t.numbers.modify (t.numberBucket n) ((n, none) :: ·) })
    else if !enters then (none, t)
    else
      let t := { t with size := t.size + 1 }.widened
      (some .unset,
        { t with numbers := t.numbers.modify (t.numberBucket n) ((n, some .unset) :: ·) })

def seek (t : Table) (k : Key) (enters : Bool) : Option Value × Table :=
  match k with
  | .text k => t.seekText k enters
  | .number n => t.seekNumber n enters

/-- Give a value to a key. -/
def put (t : Table) (k : Key) (v : Value) : Table :=
  let t := (t.seek k true).2
  let setText (t : Table) (k : Text) : Table :=
    let set (es : List (Text × Value)) := es.map fun e => if e.1 = k then (k, v) else e
    { t with texts := t.texts.modify (t.textBucket k) set }
  match k with
  | .text k => setText t k
  | .number n =>
    match ((t.numbers[t.numberBucket n]?).getD []).lookup n with
    | some (some _) =>
      let set (es : List (Int × Option Value)) :=
        es.map fun e => if e.1 = n then (n, some v) else e
      { t with numbers := t.numbers.modify (t.numberBucket n) set }
    | _ => setText t (Shell.Expression.shown n)

/-- Take a key away. -/
def erase (t : Table) (k : Key) : Table :=
  match t.seek k false with
  | (none, t) => t
  | (some _, t) =>
    let name := k.toText
    let size := t.size - 1
    if size = 0 then {}
    else { t with
      size, plain := false
      texts := t.texts.modify (t.textBucket name) fun es => es.filter fun e => e.1 ≠ name
      numbers := t.numbers.map fun es =>
        es.filter fun e => Shell.Expression.shown e.1 ≠ name }

/-- The keys in the order of their buckets, and the table in which they are all texts. -/
def keys (t : Table) : List Text × Table :=
  let t := t.withNames
  ((t.texts.toList.flatten).map Prod.fst, t)

/-- The table of values that have the numbers from one on as their keys. -/
def ofList (vs : List Value) : Table :=
  let start : Table := { plain := true }
  vs.zipIdx.foldl (fun t (v, k) => t.put (.number (k + 1)) v) start

end Table
end GoRepl.Machine.Records
