import GoRepl.Block
import GoRepl.Proofs.Trimming

/-!
# Reading

The fragments that reading can give, and that each of them is read back from its own lines.

`Fits` says when the elements below an opener fit the bracket it leaves open: lines that close one
part of the block and open the next, nested fragments that fit in turn, and at the end the one line
that closes the block.  Reading keeps the open blocks on a stack.  That what it gives is `Readable`
is an invariant of this stack (`Nested.step`): each block so far takes any end that would fit its
bracket.  That what is readable is read back is an induction over the tree, for any block that is
being read and any lines that follow (`outcome_read_written`).
-/

namespace GoRepl

/-- The fragment or the failure, and what is left of the source. -/
def Reading.outcome (r : Reading) : Except ReadError Fragment × List SourceItem :=
  (r.result, r.rest)

namespace Block

/-- A line that stays inside the block that waits for the bracket. -/
structure Inner (closer : Char) (line : Text) : Prop where
  trimmed : line.trim = line
  ne_nil : line ≠ []
  not_closes : closes line closer = false

/-- The elements below an opener fit the bracket that it leaves open, if any. -/
inductive Fits : Option Char → Body → Prop
  /-- No bracket is open, and nothing follows. -/
  | alone : Fits none .nil
  /-- The line that closes the block. -/
  | last {c : Char} {line : Text} : line.trim = line → closes line c = true →
      Fits (some c) (.line line .nil)
  /-- A line that closes one part of the block and opens the next. -/
  | turn {c : Char} {line : Text} {next : Body} : Inner c line → continues line c = true →
      Fits (some c) next → Fits (some c) (.line line next)
  /-- A fragment of its own. -/
  | nested {c : Char} {line : Text} {inner next : Body} : Inner c line →
      continues line c = false → Fits (closerFor line) inner → Fits (some c) next →
      Fits (some c) (.nested line inner next)

/-! ## What a line does -/

section Step

variable {frame : Frame} {outer : List Frame} {line : Text}

/-- The block is at its end; it goes to the block around it, if there is one. -/
def finish (f : Fragment) : List Frame → Step
  | [] => .done f
  | up :: outer => .waiting (up.push (.nested f)) outer

theorem step_nil : step frame outer [] = .waiting frame outer := by
  simp [step]

theorem ne_nil_of_closes {c : Char} (h : closes line c = true) : line ≠ [] := by
  rintro rfl
  simp [closes] at h

theorem step_of_closes (h : closes line frame.closer = true) :
    step frame outer line = finish (frame.push (.line line)).fragment outer := by
  unfold step
  rw [if_neg (ne_nil_of_closes h), if_pos h]
  cases outer <;> rfl

variable (h : Inner frame.closer line)

include h

theorem step_of_continues (hc : continues line frame.closer = true) :
    step frame outer line = .waiting (frame.push (.line line)) outer := by
  simp [step, h.ne_nil, h.not_closes, hc]

theorem step_of_opens (hc : continues line frame.closer = false) {closer : Char}
    (ho : closerFor line = some closer) :
    step frame outer line = .waiting ⟨line, closer, []⟩ (frame :: outer) := by
  simp [step, h.ne_nil, h.not_closes, hc, ho]

theorem step_of_plain (hc : continues line frame.closer = false) (ho : closerFor line = none) :
    step frame outer line = .waiting (frame.push (.nested (.ofLine line))) outer := by
  simp [step, h.ne_nil, h.not_closes, hc, ho]

end Step

/-- What a trimmed line is to the block that it is read into. -/
inductive Role (closer : Char) (line : Text) : Prop
  | blank : line = [] → Role closer line
  | closes : closes line closer = true → Role closer line
  | turns : Inner closer line → continues line closer = true → Role closer line
  | opens {c : Char} : Inner closer line → continues line closer = false →
      closerFor line = some c → Role closer line
  | plain : Inner closer line → continues line closer = false → closerFor line = none →
      Role closer line

theorem role (closer : Char) {line : Text} (ht : line.trim = line) : Role closer line := by
  by_cases hnil : line = []
  · exact .blank hnil
  cases hcl : GoRepl.closes line closer with
  | true => exact .closes hcl
  | false =>
    have hi : Inner closer line := ⟨ht, hnil, hcl⟩
    cases hcont : continues line closer with
    | true => exact .turns hi hcont
    | false =>
      cases ho : closerFor line with
      | none => exact .plain hi hcont ho
      | some c => exact .opens hi hcont ho

/-- The elements so far, with others after them. -/
def Frame.below (frame : Frame) (next : Body) : Body :=
  frame.elements.foldl (fun body e ↦ Body.cons e body) next

theorem Frame.fragment_eq (frame : Frame) :
    frame.fragment = ⟨frame.opener, frame.below .nil⟩ := by
  unfold fragment below Body.ofList
  rw [List.foldr_reverse]

end Block

/-- The elements below the opener fit it. -/
def Fragment.Readable (f : Fragment) : Prop := Block.Fits (closerFor f.opener) f.body

theorem Fragment.readable_ofLine {line : Text} (ho : closerFor line = none) :
    (Fragment.ofLine line).Readable := by
  unfold Readable
  rw [show closerFor (Fragment.ofLine line).opener = none from ho]
  exact .alone

namespace Block

/-! ## All that is read is readable -/

/-- The block has been opened by its opener, and any end that fits its bracket makes it whole. -/
structure Frame.Sound (frame : Frame) : Prop where
  opens : closerFor frame.opener = some frame.closer
  fits : ∀ next, Fits (some frame.closer) next → Fits (some frame.closer) (frame.below next)

/-- A block that has just been opened. -/
theorem Frame.sound_opened {line : Text} {closer : Char} (ho : closerFor line = some closer) :
    (⟨line, closer, []⟩ : Frame).Sound := ⟨ho, fun _ hnext ↦ hnext⟩

namespace Frame.Sound

variable {frame : Frame} (hf : frame.Sound) {line : Text}

include hf

theorem push_line (h : Inner frame.closer line) (hc : continues line frame.closer = true) :
    (frame.push (.line line)).Sound where
  opens := hf.opens
  fits _ hnext := hf.fits _ (.turn h hc hnext)

theorem push_nested {f : Fragment} (h : Inner frame.closer f.opener)
    (hc : continues f.opener frame.closer = false) (hr : f.Readable) :
    (frame.push (.nested f)).Sound where
  opens := hf.opens
  fits _ hnext := hf.fits _ (.nested h hc hr hnext)

theorem readable_last (ht : line.trim = line) (h : closes line frame.closer = true) :
    (frame.push (.line line)).fragment.Readable := by
  rw [fragment_eq]
  unfold Fragment.Readable
  change Fits (closerFor frame.opener) (frame.below (.line line .nil))
  rw [hf.opens]
  exact hf.fits _ (.last ht h)

end Frame.Sound

/-- The open blocks, from the innermost outwards: each is sound, and its opener stays inside the
block around it. -/
inductive Nested : Frame → List Frame → Prop
  | outermost {frame : Frame} : frame.Sound → Nested frame []
  | inside {frame up : Frame} {outer : List Frame} : frame.Sound →
      Inner up.closer frame.opener → continues frame.opener up.closer = false →
      Nested up outer → Nested frame (up :: outer)

theorem Nested.sound {frame : Frame} {outer : List Frame} (h : Nested frame outer) :
    frame.Sound := by
  cases h with
  | outermost hf => exact hf
  | inside hf => exact hf

/-- An element more does not change how a block stands inside the others. -/
theorem Nested.push {frame : Frame} {outer : List Frame} (h : Nested frame outer) {e : Element}
    (he : (frame.push e).Sound) : Nested (frame.push e) outer := by
  cases h with
  | outermost => exact .outermost he
  | inside _ hi hc hup => exact .inside he hi hc hup

/-- What a step leaves is sound again: the fragment if it is whole, or else the open blocks. -/
def Step.Sound : Step → Prop
  | .done f => f.Readable
  | .waiting frame outer => Nested frame outer

theorem Nested.finish {frame : Frame} {outer : List Frame} (h : Nested frame outer) {line : Text}
    (ht : line.trim = line) (hc : closes line frame.closer = true) :
    (Block.finish (frame.push (.line line)).fragment outer).Sound := by
  have hr := h.sound.readable_last ht hc
  cases h with
  | outermost => exact hr
  | inside _ hi hcont hup => exact hup.push (hup.sound.push_nested hi hcont hr)

theorem Nested.step {frame : Frame} {outer : List Frame} (h : Nested frame outer) {line : Text}
    (ht : line.trim = line) : (step frame outer line).Sound := by
  cases role frame.closer ht with
  | blank hnil =>
    rw [hnil, step_nil]
    exact h
  | closes hcl =>
    rw [step_of_closes hcl]
    exact h.finish ht hcl
  | turns hi hcont =>
    rw [step_of_continues hi hcont]
    exact h.push (h.sound.push_line hi hcont)
  | opens hi hcont ho =>
    rw [step_of_opens hi hcont ho]
    exact .inside (Frame.sound_opened ho) hi hcont h
  | plain hi hcont ho =>
    rw [step_of_plain hi hcont ho]
    exact h.push (h.sound.push_nested hi hcont (Fragment.readable_ofLine ho))

theorem Nested.readable {frame : Frame} {outer : List Frame} (h : Nested frame outer)
    {source : List SourceItem} {f : Fragment} (hr : (read frame outer source).result = .ok f) :
    f.Readable := by
  induction source generalizing frame outer with
  | nil => cases hr
  | cons item source ih =>
    cases item with
    | interrupt => cases hr
    | fault reason => cases hr
    | line text =>
      have hs := h.step (Text.trim_trim text)
      unfold read at hr
      cases hstep : Block.step frame outer text.trim with
      | done g =>
        rw [hstep] at hs hr
        cases hr
        exact hs
      | waiting frame' outer' =>
        rw [hstep] at hs hr
        exact ih hs hr

end Block

theorem Fragment.readable_of_read {line : Text} {source : List SourceItem} {f : Fragment}
    (h : (Fragment.read line source).result = .ok f) : f.Readable := by
  unfold Fragment.read at h
  cases ho : closerFor line with
  | none =>
    simp only [ho, Except.ok.injEq] at h
    exact h ▸ Fragment.readable_ofLine ho
  | some closer =>
    simp only [ho] at h
    exact (Block.Nested.outermost (Block.Frame.sound_opened ho)).readable h

/-! ## All that is readable is read -/

namespace Block

/-- The lines of a source that hold these lines, indented. -/
def written (indent : Nat) (lines : List PlacedLine) : List SourceItem :=
  lines.map fun l ↦ .line (indented (indent + l.depth) l.text)

/-- How reading goes on after a step. -/
def Step.resume (rest : List SourceItem) : Step → Except ReadError Fragment × List SourceItem
  | .done f => (.ok f, rest)
  | .waiting frame outer => (read frame outer rest).outcome

theorem outcome_read_line (frame : Frame) (outer : List Frame) (text : Text)
    (rest : List SourceItem) :
    (read frame outer (.line text :: rest)).outcome =
      (step frame outer text.trim).resume rest := by
  unfold read
  cases step frame outer text.trim <;> rfl

/-- Reading takes the lines of a body that fits, whatever stands around the block and whatever
follows.  The induction is on how the body fits; the lines of a nested block are read with the block
around it put on the stack. -/
theorem outcome_read_written {o : Option Char} {body : Body} (h : Fits o body) (indent : Nat) :
    ∀ (depth : Nat) (frame : Frame) (outer : List Frame) (rest : List SourceItem),
      o = some frame.closer →
      (read frame outer (written indent (body.placed depth) ++ rest)).outcome =
        (finish ⟨frame.opener, frame.below body⟩ outer).resume rest := by
  induction h with
  | alone => rintro depth frame outer rest ho; cases ho
  | @last c line ht hcl =>
    rintro depth frame outer rest ho
    obtain rfl := Option.some.inj ho
    change (read frame outer (.line (indented (indent + depth) line) :: rest)).outcome = _
    rw [outcome_read_line, Text.trim_indented, ht, step_of_closes hcl, Frame.fragment_eq]
    rfl
  | @turn c line next hi hcont _ ih =>
    rintro depth frame outer rest ho
    obtain rfl := Option.some.inj ho
    change (read frame outer (.line (indented (indent + depth) line) ::
      (written indent (next.placed depth) ++ rest))).outcome = _
    rw [outcome_read_line, Text.trim_indented, hi.trimmed, step_of_continues hi hcont]
    exact ih depth (frame.push (.line line)) outer rest rfl
  | @nested c line inner next hi hcont hinner _ ihinner ihnext =>
    rintro depth frame outer rest ho
    obtain rfl := Option.some.inj ho
    have hlines : written indent ((Body.nested line inner next).placed depth) ++ rest =
        .line (indented (indent + (depth + 1)) line) ::
          (written indent (inner.placed (depth + 1)) ++
            (written indent (next.placed depth) ++ rest)) := by
      simp [written, Body.placed]
    have hnext := ihnext depth (frame.push (.nested ⟨line, inner⟩)) outer rest rfl
    rw [hlines, outcome_read_line, Text.trim_indented, hi.trimmed]
    cases ho : closerFor line with
    | none =>
      rw [ho] at hinner
      cases hinner
      rw [step_of_plain hi hcont ho]
      exact hnext
    | some closer =>
      rw [step_of_opens hi hcont ho]
      have hin := ihinner (depth + 1) ⟨line, closer, []⟩ (frame :: outer)
        (written indent (next.placed depth) ++ rest) ho
      exact hin.trans hnext

end Block

namespace Fragment

open Block

/-- A readable fragment is read back from its opener and the lines below it. -/
theorem outcome_read {f : Fragment} (hf : f.Readable) (indent : Nat) (rest : List SourceItem) :
    (Fragment.read f.opener (written indent (f.body.placed 0) ++ rest)).outcome =
      (.ok f, rest) := by
  unfold Readable at hf
  unfold Fragment.read
  cases ho : closerFor f.opener with
  | none =>
    rw [ho] at hf
    obtain ⟨opener, body⟩ := f
    cases hf
    rfl
  | some closer =>
    exact outcome_read_written hf indent 0 ⟨f.opener, closer, []⟩ [] rest ho

/-- Read as many fragments off a source as asked for.  Each begins with the next line, trimmed. -/
def readMany : Nat → List SourceItem → Option (List Fragment × List SourceItem)
  | 0, source => some ([], source)
  | n + 1, .line text :: source =>
    match (Fragment.read text.trim source).outcome with
    | (.ok f, rest) => (readMany n rest).map fun (fs, rest) ↦ (f :: fs, rest)
    | (.error _, _) => none
  | _ + 1, _ => none

/-- The lines of a fragment as a source gives them, indented. -/
def source (indent : Nat) (f : Fragment) : List SourceItem := (f.flatten indent).map .line

theorem source_eq (indent : Nat) (f : Fragment) :
    f.source indent = .line (indented indent f.opener) :: written indent (f.body.placed 0) := by
  simp [source, flatten, placed, written, Function.comp_def]

/-- The fragments that reading can give are the readable ones, and readable fragments are read back
from their lines, however these are indented and whatever follows. -/
theorem read_flatten :
    (∀ f : Fragment, f.Readable ↔ ∃ line source, (Fragment.read line source).result = .ok f) ∧
    ∀ (fs : List Fragment) (indent : Nat) (rest : List SourceItem),
      (∀ f ∈ fs, f.Readable ∧ f.opener.trim = f.opener) →
      readMany fs.length (fs.flatMap (source indent) ++ rest) = some (fs, rest) := by
  refine ⟨fun f ↦ ⟨fun hf ↦ ?_, ?_⟩, fun fs indent rest hfs ↦ ?_⟩
  · exact ⟨f.opener, _, congrArg Prod.fst (outcome_read hf 0 [])⟩
  · rintro ⟨line, source, h⟩
    exact readable_of_read h
  · induction fs with
    | nil => rfl
    | cons f fs ih =>
      obtain ⟨hf, htrim⟩ := hfs f List.mem_cons_self
      have ih := ih fun g hg ↦ hfs g (List.mem_cons_of_mem f hg)
      rw [List.flatMap_cons, source_eq, List.append_assoc, List.cons_append, List.length_cons,
        readMany, Text.trim_indented, htrim, outcome_read hf]
      simp [ih]

/-- A conditional with two branches, one of them holding a loop, and a line after it. -/
theorem read_flatten_branches :
    let loop : Body := .nested "use(i)".toList .nil (.line "\x7d".toList .nil)
    let f : Fragment := ⟨"if ok \x7b".toList, .nested "for i := range xs \x7b".toList loop
      (.line "\x7d else \x7b".toList (.nested "stop()".toList .nil (.line "\x7d".toList .nil)))⟩
    let fs := [f, .ofLine "done()".toList]
    (∀ g ∈ fs, g.Readable ∧ g.opener.trim = g.opener) ∧
      readMany 2 (fs.flatMap (source 1) ++ [.interrupt]) = some (fs, [.interrupt]) := by
  intro loop f fs
  have hf : (Fragment.read f.opener (written 0 (f.body.placed 0))).result = .ok f := rfl
  have hfs : ∀ g ∈ fs, g.Readable ∧ g.opener.trim = g.opener := by
    intro g hg
    rcases List.mem_cons.mp hg with rfl | hg
    · exact ⟨readable_of_read hf, by decide⟩
    · obtain rfl := List.mem_singleton.mp hg
      exact ⟨readable_ofLine (by decide), by decide⟩
  exact ⟨hfs, read_flatten.2 fs 1 [.interrupt] hfs⟩

end Fragment
end GoRepl
