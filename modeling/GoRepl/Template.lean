import GoRepl.Decimal
import GoRepl.Fault

/-! # Templates

The skeleton of the program: a text with one place for each of three regions. A placeholder marks
the place; all else is taken as it stands, and so is the text that fills a place. -/

namespace GoRepl

inductive Region where
  | imports
  | functions
  | statements
deriving DecidableEq, Repr

namespace Region

def all : List Region := [imports, functions, statements]

theorem mem_all (r : Region) : r ∈ all := by cases r <;> simp [all]

def placeholder : Region → Text
  | imports => "\x7b%import_area%\x7d".toList
  | functions => "\x7b%func_area%\x7d".toList
  | statements => "\x7b%code_area%\x7d".toList

end Region

/-- The texts that fill the three places. -/
structure Regions where
  imports : Text
  functions : Text
  statements : Text
deriving DecidableEq, Repr

def Regions.get (texts : Regions) : Region → Text
  | .imports => texts.imports
  | .functions => texts.functions
  | .statements => texts.statements

inductive TemplateError where
  | unreadable (path : Text) (fault : Fault)
  /-- The first placeholder that does not occur exactly once, with the number of its places. -/
  | placeholder (region : Region) (found : Nat)
deriving DecidableEq, Repr

def TemplateError.message : TemplateError → Text
  | .unreadable path fault => "cannot read template ".toList ++ path ++ ": ".toList ++ fault.message
  | .placeholder region found =>
    "template must contain ".toList ++ region.placeholder ++ " exactly once (found ".toList ++
      decimal found ++ [')']

namespace Template

/-- A character of the skeleton, or the place of a region. -/
inductive Part where
  | char (c : Char)
  | place (r : Region)
deriving DecidableEq, Repr

def Part.render (texts : Regions) : Part → Text
  | char c => [c]
  | place r => texts.get r

end Template

/-- A skeleton in which each region has one place. -/
structure Template where
  parts : List Template.Part
  count_place : ∀ r, parts.count (.place r) = 1
deriving DecidableEq

namespace Template

/-- The region whose placeholder a text begins with, and what follows it. -/
def placeAt? (t : Text) : Option (Region × Text) :=
  Region.all.findSome? fun r => (r.placeholder.after? t).map (r, ·)

theorem length_placeAt?_rest_lt {t rest : Text} {r : Region} (h : placeAt? t = some (r, rest)) :
    rest.length < t.length := by
  obtain ⟨r', _, h⟩ := List.exists_of_findSome?_eq_some h
  obtain ⟨rest', hr, he⟩ := Option.map_eq_some_iff.mp h
  obtain ⟨rfl, rfl⟩ := Prod.mk.inj he
  have := congrArg List.length (Text.after?_eq_some_iff.mp hr)
  rw [List.length_append] at this
  have : 0 < r'.placeholder.length := by cases r' <;> decide
  omega

/-- The parts of a text, from left to right. -/
def scan (t : Text) : List Part :=
  match h : placeAt? t with
  | some (r, rest) =>
    have : rest.length < t.length := length_placeAt?_rest_lt h
    .place r :: scan rest
  | none =>
    match t with
    | [] => []
    | c :: t => .char c :: scan t
termination_by t.length

/-- Read a skeleton. -/
def parse (t : Text) : Except TemplateError Template :=
  let parts := scan t
  match h : Region.all.find? fun r => parts.count (.place r) ≠ 1 with
  | some r => .error (.placeholder r (parts.count (.place r)))
  | none => .ok ⟨parts, fun r => by simpa using List.find?_eq_none.mp h r r.mem_all⟩

/-- Fill each place with the text of its region. -/
def render (template : Template) (texts : Regions) : Text :=
  template.parts.flatMap (Part.render texts)

/-- The skeleton that is used unless another one is asked for. -/
def standard : Template where
  parts :=
    "package main\n\nimport (\n".toList.map .char ++ [.place .imports] ++
    "\n)\n\n".toList.map .char ++ [.place .functions] ++
    "\n\nfunc main() \x7b\n".toList.map .char ++ [.place .statements] ++
    "\n\x7d\n".toList.map .char
  count_place r := by cases r <;> decide

end Template
end GoRepl
