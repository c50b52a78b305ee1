import Mathlib.Data.List.Forall2
import Mathlib.Order.Bounds.Defs
import GoRepl.Proofs.Reading

/-!
# Balance

Where reading stops, in terms of the brackets alone.  `Bracket.nest` follows the brackets of a text
character by character and keeps those that are open; a block is balanced where none is left.

Reading knows less.  It works line by line, and of a line it sees the last character, which may open
a block, and how many brackets of one kind it has, which may close the innermost block.  The two
agree on lines that are `LaidOut`: the bracket that opens a block ends its line, and the brackets
that one line left open for a block are closed by one line together.  `LaidOut.follows` is what a
single line preserves: the blocks on the stack are those whose brackets are open.  A line that
closes only some of the brackets of another ends the block too early (`stacked_openers_split`).
-/

namespace GoRepl

/-- The brackets that open blocks. -/
inductive Bracket where
  | brace
  | paren
deriving DecidableEq, Repr

namespace Bracket

def opening : Bracket → Char
  | brace => '{'
  | paren => '('

def closing : Bracket → Char
  | brace => '}'
  | paren => ')'

/-- What one character does to the open brackets, innermost first.  A closing bracket has to match
the innermost one. -/
def touch (stack : List Bracket) (c : Char) : Option (List Bracket) :=
  if c = '{' then some (brace :: stack)
  else if c = '(' then some (paren :: stack)
  else if c = '}' then if stack.head? = some brace then some stack.tail else none
  else if c = ')' then if stack.head? = some paren then some stack.tail else none
  else some stack

/-- The brackets that are open after a text, innermost first, if it is properly nested. -/
def nest (stack : List Bracket) (t : Text) : Option (List Bracket) := t.foldlM touch stack

@[simp] theorem openerOf_closing (b : Bracket) : openerOf b.closing = b.opening := by
  cases b <;> rfl

theorem opening_inj {b k : Bracket} : b.opening = k.opening ↔ b = k := by
  cases b <;> cases k <;> decide

theorem closing_inj {b k : Bracket} : b.closing = k.closing ↔ b = k := by
  cases b <;> cases k <;> decide

theorem opening_ne_closing (b k : Bracket) : b.opening ≠ k.closing := by
  cases b <;> cases k <;> decide

theorem not_isBlank (b : Bracket) :
    Text.isBlank b.opening = false ∧ Text.isBlank b.closing = false := by
  cases b <;> decide

/-- A character opens a bracket, or closes the innermost one, or is none. -/
theorem touch_cases {stack after : List Bracket} {c : Char} (h : touch stack c = some after) :
    (∃ b : Bracket, c = b.opening ∧ after = b :: stack) ∨
      (∃ b : Bracket, c = b.closing ∧ stack = b :: after) ∨
      ((∀ b : Bracket, c ≠ b.opening ∧ c ≠ b.closing) ∧ after = stack) := by
  have hclose : ∀ b : Bracket, (if stack.head? = some b then some stack.tail else none) =
      some after → stack = b :: after := by
    intro b hb
    split at hb
    · rename_i hhead
      obtain ⟨rest, rfl⟩ := List.head?_eq_some_iff.mp hhead
      cases hb
      rfl
    · cases hb
  unfold touch at h
  split at h
  · exact .inl ⟨.brace, ‹_›, (Option.some.inj h).symm⟩
  split at h
  · exact .inl ⟨.paren, ‹_›, (Option.some.inj h).symm⟩
  split at h
  · exact .inr (.inl ⟨.brace, ‹_›, hclose _ h⟩)
  split at h
  · exact .inr (.inl ⟨.paren, ‹_›, hclose _ h⟩)
  · refine .inr (.inr ⟨fun b ↦ ?_, (Option.some.inj h).symm⟩)
    cases b
    · exact ⟨‹_›, ‹_›⟩
    · exact ⟨‹_›, ‹_›⟩

@[simp] theorem touch_opening (stack : List Bracket) (b : Bracket) :
    touch stack b.opening = some (b :: stack) := by
  cases b <;> rfl

@[simp] theorem touch_closing (stack : List Bracket) (b : Bracket) :
    touch (b :: stack) b.closing = some stack := by
  cases b <;> rfl

theorem touch_of_ne {c : Char} (h : ∀ b : Bracket, c ≠ b.opening ∧ c ≠ b.closing)
    (stack : List Bracket) : touch stack c = some stack := by
  have hbrace : c ≠ '{' ∧ c ≠ '}' := h .brace
  have hparen : c ≠ '(' ∧ c ≠ ')' := h .paren
  simp [touch, hbrace, hparen]

/-! ## Nesting -/

@[simp] theorem nest_nil (stack : List Bracket) : nest stack [] = some stack := rfl

theorem nest_cons (stack : List Bracket) (c : Char) (t : Text) :
    nest stack (c :: t) = (touch stack c).bind (nest · t) := by
  simp [nest]

theorem nest_append (stack : List Bracket) (t u : Text) :
    nest stack (t ++ u) = (nest stack t).bind (nest · u) := by
  simp [nest]

theorem nest_cons_eq_some {stack after : List Bracket} {c : Char} {t : Text} :
    nest stack (c :: t) = some after ↔
      ∃ mid, touch stack c = some mid ∧ nest mid t = some after := by
  rw [nest_cons]
  exact Option.bind_eq_some_iff

/-- The brackets further out are not touched. -/
theorem nest_below {stack after : List Bracket} {t : Text} (h : nest stack t = some after)
    (below : List Bracket) : nest (stack ++ below) t = some (after ++ below) := by
  induction t generalizing stack with
  | nil =>
    obtain rfl : stack = after := by simpa using h
    rfl
  | cons c t ih =>
    obtain ⟨mid, hmid, hrest⟩ := nest_cons_eq_some.mp h
    refine nest_cons_eq_some.mpr ⟨mid ++ below, ?_, ih hrest⟩
    obtain ⟨b, rfl, rfl⟩ | ⟨b, rfl, rfl⟩ | ⟨hne, rfl⟩ := touch_cases hmid
    · exact touch_opening ..
    · exact touch_closing ..
    · exact touch_of_ne hne _

theorem nest_of_forall_ne {t : Text} (h : ∀ c ∈ t, ∀ b : Bracket, c ≠ b.opening ∧ c ≠ b.closing)
    (stack : List Bracket) : nest stack t = some stack := by
  induction t with
  | nil => rfl
  | cons c t ih =>
    exact nest_cons_eq_some.mpr ⟨stack, touch_of_ne (h c List.mem_cons_self) _,
      ih fun d hd ↦ h d (List.mem_cons_of_mem c hd)⟩

@[simp] theorem nest_trim (stack : List Bracket) (t : Text) : nest stack t.trim = nest stack t := by
  have hblank : ∀ u : Text, (∀ c ∈ u, Text.isBlank c = true) → ∀ s, nest s u = some s := by
    refine fun u hu ↦ nest_of_forall_ne fun c hc b ↦ ?_
    constructor <;> rintro rfl
    · simpa [(not_isBlank b).1] using hu _ hc
    · simpa [(not_isBlank b).2] using hu _ hc
  obtain ⟨front, tail, ht, hfront, htail⟩ := Text.exists_strip_append Text.isBlank t
  change nest stack (Text.strip Text.isBlank t) = nest stack t
  conv => rhs; rw [ht]
  rw [nest_append, nest_append, hblank front hfront, Option.bind_some]
  cases nest stack (Text.strip Text.isBlank t) with
  | none => rfl
  | some after => exact (hblank tail htail after).symm

/-- Brackets of one kind that are open before the text or opened by it are closed by it or open
after it. -/
theorem count_nest {stack after : List Bracket} {t : Text} (h : nest stack t = some after)
    (b : Bracket) :
    stack.count b + t.count b.opening = after.count b + t.count b.closing := by
  induction t generalizing stack with
  | nil =>
    obtain rfl : stack = after := by simpa using h
    simp
  | cons c t ih =>
    obtain ⟨mid, hmid, hrest⟩ := nest_cons_eq_some.mp h
    have ih := ih hrest
    obtain ⟨k, rfl, rfl⟩ | ⟨k, rfl, rfl⟩ | ⟨hne, rfl⟩ := touch_cases hmid
    · have := opening_ne_closing k b
      simp only [List.count_cons, beq_iff_eq, opening_inj, this, if_false] at ih ⊢
      omega
    · have := (opening_ne_closing b k).symm
      simp only [List.count_cons, beq_iff_eq, closing_inj, this, if_false] at ih ⊢
      omega
    · rw [List.count_cons_of_ne (hne b).1, List.count_cons_of_ne (hne b).2]
      exact ih

end Bracket

open GoRepl.Bracket

/-! ## Blocks -/

/-- The brackets that a block keeps open. -/
structure OpenBlock where
  /-- Those that its lines have left open, innermost first. -/
  strays : List Bracket := []
  /-- The one at the end of its opener. -/
  bracket : Bracket
  /-- Those that its opener left open before. -/
  below : List Bracket := []
deriving DecidableEq, Repr

def OpenBlock.stack (b : OpenBlock) : List Bracket := b.strays ++ b.bracket :: b.below

namespace Block

/-- A line that begins or ends in the closing bracket, and has more of them than of the opening
ones. -/
def Closes (b : Bracket) (line : Text) : Prop :=
  (line.head? = some b.closing ∨ line.getLast? = some b.closing) ∧
    line.count b.opening < line.count b.closing

/-- A line that begins in the closing bracket and ends in the opening one. -/
def Turns (b : Bracket) (line : Text) : Prop :=
  line.head? = some b.closing ∧ line.getLast? = some b.opening

instance (b : Bracket) (line : Text) : Decidable (Closes b line) :=
  inferInstanceAs (Decidable (_ ∧ _))

instance (b : Bracket) (line : Text) : Decidable (Turns b line) :=
  inferInstanceAs (Decidable (_ ∧ _))

/-- Lines in which every block is opened by a bracket at the end of a line, and closed by one line
together with all that was left open since.  Of the blocks, the innermost stands first. -/
inductive LaidOut : List OpenBlock → Text → List OpenBlock → Prop
  /-- A line inside the block; it may leave brackets open for lines that follow in the block. -/
  | within {b : OpenBlock} {outer : List OpenBlock} {line : Text} {strays : List Bracket} :
      nest b.strays line = some strays → ¬ Closes b.bracket line →
      (∀ k : Bracket, line.getLast? ≠ some k.opening) →
      LaidOut (b :: outer) line ({ b with strays } :: outer)
  /-- A line that opens a block inside the block. -/
  | opens {b : OpenBlock} {outer : List OpenBlock} {line : Text} {k : Bracket}
      {below strays : List Bracket} :
      nest b.strays line = some (k :: below ++ strays) → ¬ Closes b.bracket line →
      line.getLast? = some k.opening → ¬ Turns b.bracket line →
      LaidOut (b :: outer) line ({ bracket := k, below } :: { b with strays } :: outer)
  /-- A line that closes one part of the block and opens the next. -/
  | turns {b : OpenBlock} {outer : List OpenBlock} {line : Text} {below : List Bracket} :
      nest b.stack line = some (b.bracket :: below) → ¬ Closes b.bracket line →
      Turns b.bracket line →
      LaidOut (b :: outer) line ({ bracket := b.bracket, below } :: outer)
  /-- A line that closes the block; what it opens besides is left to the block around. -/
  | closes {b up : OpenBlock} {outer : List OpenBlock} {line : Text} {strays : List Bracket} :
      nest (b.stack ++ up.strays) line = some strays → Closes b.bracket line →
      LaidOut (b :: up :: outer) line ({ up with strays } :: outer)
  /-- The line that closes the outermost block. -/
  | ends {b : OpenBlock} {line : Text} :
      nest b.stack line = some [] → Closes b.bracket line → LaidOut [b] line []

/-- A line that is balanced by itself stays inside every block. -/
theorem LaidOut.of_balanced {line : Text} (h : nest [] line = some [])
    (hlast : ∀ k : Bracket, line.getLast? ≠ some k.opening) (b : OpenBlock)
    (outer : List OpenBlock) : LaidOut (b :: outer) line (b :: outer) := by
  refine .within (nest_below h b.strays) ?_ hlast
  rintro ⟨-, hlt⟩
  have hcount := count_nest h b.bracket
  simp only [List.count_nil, Nat.zero_add] at hcount
  omega

/-- Lines one after the other. -/
inductive Lays : List OpenBlock → List Text → List OpenBlock → Prop
  | nil {blocks : List OpenBlock} : Lays blocks [] blocks
  | cons {blocks mid after : List OpenBlock} {line : Text} {lines : List Text} :
      LaidOut blocks line.trim mid → Lays mid lines after → Lays blocks (line :: lines) after

/-! ### The brackets of the blocks -/

theorem LaidOut.nest {blocks after : List OpenBlock} {line : Text}
    (h : LaidOut blocks line after) :
    nest (blocks.flatMap OpenBlock.stack) line = some (after.flatMap OpenBlock.stack) := by
  cases h with
  | within hn => simpa [OpenBlock.stack] using nest_below hn (_ :: (_ ++ List.flatMap _ _))
  | opens hn => simpa [OpenBlock.stack] using nest_below hn (_ :: (_ ++ List.flatMap _ _))
  | turns hn => simpa [OpenBlock.stack] using nest_below hn (List.flatMap _ _)
  | closes hn => simpa [OpenBlock.stack] using nest_below hn (_ :: (_ ++ List.flatMap _ _))
  | ends hn => simpa [OpenBlock.stack] using hn

theorem Lays.nest {blocks after : List OpenBlock} {lines : List Text}
    (h : Lays blocks lines after) :
    nest (blocks.flatMap OpenBlock.stack) lines.flatten =
      some (after.flatMap OpenBlock.stack) := by
  induction h with
  | nil => rfl
  | cons hline _ ih =>
    rw [List.flatten_cons, nest_append, ← nest_trim, hline.nest]
    exact ih

theorem eq_nil_of_flatMap_stack {blocks : List OpenBlock}
    (h : blocks.flatMap OpenBlock.stack = []) : blocks = [] := by
  cases blocks with
  | nil => rfl
  | cons b blocks => simp [OpenBlock.stack] at h

/-! ### What reading makes of a line -/

theorem closes_iff {b : Bracket} {line : Text} :
    closes line b.closing = true ↔ Closes b line := by
  simp [closes, Closes]

/-- A line leaves the bracket open that it ends in. -/
theorem closerFor_eq_some {line : Text} {c : Char} :
    closerFor line = some c ↔
      ∃ b : Bracket, line.trimEnd.getLast? = some b.opening ∧ c = b.closing := by
  unfold closerFor
  constructor
  · intro h
    split at h
    · exact ⟨.brace, ‹_›, (Option.some.inj h).symm⟩
    · exact ⟨.paren, ‹_›, (Option.some.inj h).symm⟩
    · cases h
  · rintro ⟨b, hlast, rfl⟩
    rw [hlast]
    cases b <;> rfl

theorem closerFor_iff {b : Bracket} {line : Text} (ht : line.trim = line) :
    closerFor line = some b.closing ↔ line.getLast? = some b.opening := by
  rw [closerFor_eq_some, Text.trimEnd_eq_self ht]
  simp [closing_inj]

theorem continues_iff {b : Bracket} {line : Text} (ht : line.trim = line) :
    continues line b.closing = true ↔ Turns b line := by
  simp [continues, Turns, closerFor_iff ht]

/-- The closing brackets for which reading waits are those of the blocks. -/
abbrev Waiting (frames : List Frame) (blocks : List OpenBlock) : Prop :=
  List.Forall₂ (fun frame b ↦ frame.closer = b.bracket.closing) frames blocks

/-- Reading is at its end where no block is open, and else it waits for the blocks. -/
def Step.Follows : Step → List OpenBlock → Prop
  | .done _, blocks => blocks = []
  | .waiting frame outer, blocks => Waiting (frame :: outer) blocks

theorem inner_of_not_closes {b : Bracket} {line : Text} (ht : line.trim = line)
    (hnil : line ≠ []) (h : ¬ Closes b line) : Inner b.closing line :=
  ⟨ht, hnil, by rwa [← Bool.not_eq_true, closes_iff]⟩

theorem continues_eq_false {b : Bracket} {line : Text} (ht : line.trim = line)
    (h : ¬ Turns b line) : continues line b.closing = false := by
  rwa [← Bool.not_eq_true, continues_iff ht]

/-- One line: the blocks for which reading waits are those whose brackets are open. -/
theorem LaidOut.follows {frame : Frame} {outer : List Frame} {blocks after : List OpenBlock}
    {line : Text} (h : LaidOut blocks line after) (ht : line.trim = line)
    (hw : Waiting (frame :: outer) blocks) : (step frame outer line).Follows after := by
  obtain ⟨opener, closer, elements⟩ := frame
  obtain ⟨b, blocks, hcloser, houter, rfl⟩ := List.forall₂_cons_left_iff.mp hw
  obtain rfl : closer = b.bracket.closing := hcloser
  cases h with
  | within _ hcl hlast =>
    by_cases hnil : line = []
    · rw [hnil, step_nil]
      exact .cons rfl houter
    have hopen : closerFor line = none := by
      refine Option.eq_none_iff_forall_ne_some.mpr fun c hc ↦ ?_
      obtain ⟨k, hk, -⟩ := closerFor_eq_some.mp hc
      rw [Text.trimEnd_eq_self ht] at hk
      exact hlast k hk
    have hcont : continues line b.bracket.closing = false :=
      continues_eq_false ht fun hturn ↦ hlast _ hturn.2
    rw [step_of_plain (inner_of_not_closes ht hnil hcl) hcont hopen]
    exact .cons rfl houter
  | opens _ hcl hlast hturn =>
    have hnil : line ≠ [] := by rintro rfl; cases hlast
    rw [step_of_opens (inner_of_not_closes ht hnil hcl) (continues_eq_false ht hturn)
      ((closerFor_iff ht).mpr hlast)]
    exact .cons rfl (.cons rfl houter)
  | turns _ hcl hturn =>
    have hnil : line ≠ [] := by rintro rfl; cases hturn.1
    rw [step_of_continues (inner_of_not_closes ht hnil hcl) ((continues_iff ht).mpr hturn)]
    exact .cons rfl houter
  | closes _ hcl =>
    rw [step_of_closes (closes_iff.mpr hcl)]
    obtain ⟨up, outer, hup, hrest, rfl⟩ := List.forall₂_cons_right_iff.mp houter
    exact .cons hup hrest
  | ends _ hcl =>
    rw [step_of_closes (closes_iff.mpr hcl), List.forall₂_nil_right_iff.mp houter]
    rfl

/-- All lines: reading is at its end as soon as no bracket is open. -/
theorem Lays.outcome {lines : List Text} {frame : Frame} {outer : List Frame}
    {blocks : List OpenBlock} (h : Lays blocks lines [])
    (hw : Waiting (frame :: outer) blocks) (rest : List SourceItem) :
    ∃ f, (read frame outer (lines.map .line ++ rest)).outcome = (.ok f, rest) := by
  generalize hafter : ([] : List OpenBlock) = after at h
  induction h generalizing frame outer with
  | nil =>
    subst hafter
    cases hw
  | @cons blocks mid after line lines hline hlines ih =>
    have hstep := hline.follows (Text.trim_trim line) hw
    rw [List.map_cons, List.cons_append, outcome_read_line]
    cases hs : step frame outer line.trim with
    | done f =>
      rw [hs] at hstep
      obtain rfl : mid = [] := hstep
      cases hlines with
      | nil => exact ⟨f, rfl⟩
      | cons hnext => cases hnext
    | waiting frame' outer' =>
      rw [hs] at hstep
      exact ih hstep hafter

end Block

namespace Fragment

open Block

/-- The number of lines after which all brackets are closed that the opener and the lines up to
there have opened, and not before. -/
def Balanced (opener : Text) (lines : List Text) (k : Nat) : Prop :=
  IsLeast {j | nest [] (opener :: lines.take j).flatten = some []} k

theorem balanced_iff {opener : Text} {lines : List Text} {k : Nat} :
    Balanced opener lines k ↔ nest [] (opener :: lines.take k).flatten = some [] ∧
      ∀ j < k, nest [] (opener :: lines.take j).flatten ≠ some [] := by
  refine and_congr_right fun _ ↦ ⟨fun h j hj hclosed ↦ ?_, fun h j hclosed ↦ ?_⟩
  · exact absurd (h hclosed) (Nat.not_le.mpr hj)
  · exact Nat.le_of_not_lt fun hj ↦ h j hj hclosed

instance (opener : Text) (lines : List Text) (k : Nat) : Decidable (Balanced opener lines k) :=
  decidable_of_iff _ balanced_iff.symm

/-- If the lines are laid out in blocks, a fragment is read up to the line that closes the last open
bracket, and no further. -/
theorem read_balanced {opener : Text} {bracket : Bracket} {below : List Bracket}
    (hlast : opener.trimEnd.getLast? = some bracket.opening)
    (hopener : nest [] opener = some (bracket :: below)) {lines : List Text} {k : Nat}
    (hk : Balanced opener lines k) {blocks : List OpenBlock}
    (hlaid : Lays [{ bracket, below }] (lines.take k) blocks) (rest : List SourceItem) :
    ∃ f, (Fragment.read opener (lines.map .line ++ rest)).outcome =
      (.ok f, (lines.drop k).map .line ++ rest) := by
  have hclosed : nest (bracket :: below) (lines.take k).flatten = some [] := by
    have hall : nest [] (opener :: lines.take k).flatten = some [] := hk.1
    rwa [List.flatten_cons, nest_append, hopener] at hall
  have hnest := hlaid.nest
  obtain rfl : blocks = [] := by
    refine eq_nil_of_flatMap_stack ?_
    simpa [OpenBlock.stack, hclosed] using hnest.symm
  have hsplit : lines.map SourceItem.line ++ rest =
      (lines.take k).map .line ++ ((lines.drop k).map .line ++ rest) := by
    rw [← List.append_assoc, ← List.map_append, List.take_append_drop]
  have hopens : closerFor opener = some bracket.closing :=
    closerFor_eq_some.mpr ⟨bracket, hlast, rfl⟩
  unfold Fragment.read
  rw [hopens, hsplit]
  exact hlaid.outcome (.cons rfl .nil) _

/-- A function literal as an argument, with a conditional of two branches and a call over two lines
in it.  Reading leaves the line after it. -/
theorem read_balanced_literal :
    let opener := "run(func() \x7b".toList
    let lines := ["if ok \x7b", "use(1,", "2)", "\x7d else \x7b", "stop()", "\x7d", "\x7d)",
      "next()"].map String.toList
    Balanced opener lines 7 ∧
      ∃ f, (Fragment.read opener (lines.map .line)).outcome =
        (.ok f, [.line "next()".toList]) := by
  intro opener lines
  let outer : OpenBlock := { bracket := .brace, below := [.paren] }
  let inner : OpenBlock := { bracket := .brace }
  let call : OpenBlock := { inner with strays := [.paren] }
  have hplain : ∀ line : Text, line.getLast? = some ')' ∨ line.getLast? = some ',' →
      ∀ k : Bracket, line.getLast? ≠ some k.opening := by
    rintro line (h | h) k <;> rw [h] <;> cases k <;> decide
  have hif : LaidOut [outer] "if ok \x7b".toList [inner, outer] :=
    .opens (by decide) (by decide) (by decide) (by decide)
  have huse : LaidOut [inner, outer] "use(1,".toList [call, outer] :=
    .within (by decide) (by decide) (hplain _ (by decide))
  have hrest : LaidOut [call, outer] "2)".toList [inner, outer] :=
    .within (by decide) (by decide) (hplain _ (by decide))
  have helse : LaidOut [inner, outer] "\x7d else \x7b".toList [inner, outer] :=
    .turns (by decide) (by decide) (by decide)
  have hstop : LaidOut [inner, outer] "stop()".toList [inner, outer] :=
    .of_balanced (by decide) (hplain _ (by decide)) _ _
  have hfi : LaidOut [inner, outer] "\x7d".toList [outer] := .closes (by decide) (by decide)
  have hend : LaidOut [outer] "\x7d)".toList [] := .ends (by decide) (by decide)
  have hlaid : Lays [outer] (lines.take 7) [] :=
    .cons hif <| .cons huse <| .cons hrest <| .cons helse <| .cons hstop <| .cons hfi <|
      .cons hend .nil
  have hbalanced : Balanced opener lines 7 := by decide
  exact ⟨hbalanced, read_balanced (by decide) (by decide) hbalanced hlaid []⟩

/-- Two brackets at the end of the opener that are closed on two lines: reading ends with the first
of them. -/
theorem stacked_openers_split :
    let opener := "f([]int\x7b".toList
    let lines := ["1,", "\x7d,", ")"].map String.toList
    (∀ line ∈ opener :: lines, line.all (· ∉ "\"'`/".toList) = true) ∧
      opener.getLast? = some Bracket.brace.opening ∧ Balanced opener lines 3 ∧
      (Fragment.read opener (lines.map .line)).rest = [.line ")".toList] := by
  decide +kernel

end Fragment
end GoRepl
