import GoRepl.Proofs.Reading

/-!
# Consumption

What reading takes off its source, and what becomes of it.

No line is lost: the lines in the open blocks, with their places, are those taken so far but for the
blank ones (`Block.below_step`).  And none is taken too many.  Which openers are open follows from
the lines alone (`Block.stillOpen`), and the stack of blocks says the same (`Block.openers_step`); a
line is asked for while some opener is open, and the request says how many are.

Both are facts about one line.  The inductions over the source come after them, one for the sources
that close the block (`Block.exists_taken`) and one for those that do not (`Block.exists_stopped`).
-/

namespace GoRepl

/-- What is wrong when a source gives this item. -/
def SourceItem.error? : SourceItem → Option ReadError
  | .line _ => none
  | .interrupt => some .interrupted
  | .fault reason => some (.fault reason)

/-- A line, and how many openers it stands below. -/
def PlacedLine.below (l : PlacedLine) : Text × Nat :=
  (l.text, if l.opens then l.depth else l.depth + 1)

def Element.placed (depth : Nat) : Element → List PlacedLine
  | .line t => [⟨depth, false, t⟩]
  | .nested f => ⟨depth + 1, true, f.opener⟩ :: f.body.placed (depth + 1)

theorem Body.placed_ofList (depth : Nat) (es : List Element) :
    (Body.ofList es).placed depth = es.flatMap (Element.placed depth) := by
  induction es with
  | nil => rfl
  | cons e es ih =>
    rw [List.flatMap_cons, ← ih]
    cases e <;> rfl

theorem Fragment.map_fst_below (f : Fragment) :
    (f.placed.map PlacedLine.below).map Prod.fst = f.lines := List.map_map

namespace Block

/-! ## The openers that are open -/

/-- The openers that are open after one more line, the innermost one first. -/
def stillOpen : (openers : List Text) → (line : Text) → List Text
  | [], _ => []
  | opener :: outer, line =>
    if (closerFor opener).any (closes line) then outer
    else if (closerFor opener).any (continues line) then opener :: outer
    else if (closerFor line).isSome then line :: opener :: outer
    else opener :: outer

/-- A line is open as an opener if its last bracket opens a block. -/
def opening (line : Text) : List Text := if (closerFor line).isSome then [line] else []

def openers (frame : Frame) (outer : List Frame) : List Text :=
  frame.opener :: outer.map Frame.opener

def Step.openers : Step → List Text
  | .done _ => []
  | .waiting frame outer => Block.openers frame outer

theorem stillOpen_nil (openers : List Text) : stillOpen openers [] = openers := by
  cases openers with
  | nil => rfl
  | cons opener outer =>
    have hcl : (closerFor opener).any (closes []) = false := by
      cases closerFor opener <;> simp [closes]
    have hcont : (closerFor opener).any (continues []) = false := by
      cases closerFor opener <;> simp [continues]
    have ho : closerFor [] = none := rfl
    simp [stillOpen, hcl, hcont, ho]

section Step

variable {frame : Frame} (outer : List Frame) {line : Text} (ht : line.trim = line)

include ht

/-- The blocks on the stack are those whose openers are open. -/
theorem openers_step (hf : closerFor frame.opener = some frame.closer) :
    (step frame outer line).openers = stillOpen (openers frame outer) line := by
  cases role frame.closer ht with
  | blank hnil =>
    rw [hnil, step_nil, stillOpen_nil]
    rfl
  | closes hcl =>
    rw [step_of_closes hcl]
    simp only [openers, stillOpen, hf, Option.any_some, hcl, if_true]
    cases outer <;> rfl
  | turns hi hcont =>
    rw [step_of_continues hi hcont]
    simp [openers, stillOpen, hf, hi.not_closes, hcont, Step.openers, Frame.push]
  | opens hi hcont ho =>
    rw [step_of_opens hi hcont ho]
    simp [openers, stillOpen, hf, hi.not_closes, hcont, ho, Step.openers]
  | plain hi hcont ho =>
    rw [step_of_plain hi hcont ho]
    simp [openers, stillOpen, hf, hi.not_closes, hcont, ho, Step.openers, Frame.push]

end Step

/-! ## The lines in the open blocks -/

def Frame.placed (depth : Nat) (frame : Frame) : List PlacedLine :=
  ⟨depth, true, frame.opener⟩ :: frame.fragment.body.placed depth

/-- The lines in the open blocks, those of the outermost one first. -/
def placedSoFar (frame : Frame) : List Frame → List PlacedLine
  | [] => frame.placed 0
  | up :: outer => placedSoFar up outer ++ frame.placed (outer.length + 1)

def Step.placed : Step → List PlacedLine
  | .done f => f.placed
  | .waiting frame outer => placedSoFar frame outer

theorem Frame.placed_push (depth : Nat) (frame : Frame) (e : Element) :
    (frame.push e).placed depth = frame.placed depth ++ e.placed depth := by
  simp [placed, fragment, push, Body.placed_ofList]

theorem placedSoFar_push (frame : Frame) (outer : List Frame) (e : Element) :
    placedSoFar (frame.push e) outer = placedSoFar frame outer ++ e.placed outer.length := by
  cases outer with
  | nil => exact Frame.placed_push 0 frame e
  | cons up outer => simp [placedSoFar, Frame.placed_push]

/-- A block that is at its end loses none of its lines to the block around it. -/
theorem placed_finish (frame : Frame) (outer : List Frame) :
    (finish frame.fragment outer).placed = placedSoFar frame outer := by
  cases outer with
  | nil => rfl
  | cons up outer => exact placedSoFar_push up outer (.nested frame.fragment)

/-- A line that is not blank goes to the end of the lines so far, below the openers that are open
when it is asked for. -/
theorem below_step (frame : Frame) (outer : List Frame) {line : Text} (ht : line.trim = line) :
    (step frame outer line).placed.map PlacedLine.below =
      (placedSoFar frame outer).map PlacedLine.below ++
        [(line, outer.length + 1)].filter (·.1 ≠ []) := by
  cases role frame.closer ht with
  | blank hnil =>
    rw [hnil, step_nil]
    simp [Step.placed]
  | closes hcl =>
    rw [step_of_closes hcl, placed_finish, placedSoFar_push]
    simp [Element.placed, PlacedLine.below, ne_nil_of_closes hcl]
  | turns hi hcont =>
    rw [step_of_continues hi hcont, Step.placed, placedSoFar_push]
    simp [Element.placed, PlacedLine.below, hi.ne_nil]
  | opens hi hcont ho =>
    rw [step_of_opens hi hcont ho]
    simp [Step.placed, placedSoFar, Frame.placed, Frame.fragment, Body.ofList, Body.placed,
      PlacedLine.below, hi.ne_nil]
  | plain hi hcont ho =>
    rw [step_of_plain hi hcont ho, Step.placed, placedSoFar_push]
    simp [Element.placed, Fragment.ofLine, Body.placed, PlacedLine.below, hi.ne_nil]

/-! ## What is taken off the source -/

/-- The lines taken off a source that closes the open blocks. -/
theorem exists_taken {frame : Frame} {outer : List Frame} {source : List SourceItem}
    {f : Fragment} (h : Nested frame outer) (hr : (read frame outer source).result = .ok f) :
    ∃ texts : List Text,
      source = texts.map .line ++ (read frame outer source).rest ∧
      (read frame outer source).depths ++ [0] =
        ((texts.map Text.trim).scanl stillOpen (openers frame outer)).map List.length ∧
      f.placed.map PlacedLine.below = (placedSoFar frame outer).map PlacedLine.below ++
        ((texts.map Text.trim).zip (read frame outer source).depths).filter (·.1 ≠ []) ∧
      (∀ d ∈ (read frame outer source).depths, 0 < d) ∧
      ∀ more, read frame outer (texts.map .line ++ more) =
        ⟨.ok f, (read frame outer source).depths, more⟩ := by
  induction source generalizing frame outer with
  | nil => cases hr
  | cons item source ih =>
    cases item with
    | interrupt => cases hr
    | fault reason => cases hr
    | line text =>
      have ht := Text.trim_trim text
      have hnested := h.step ht
      have hopeners := openers_step outer ht h.sound.opens
      have hbelow := below_step frame outer ht
      have hheight : (openers frame outer).length = outer.length + 1 := by simp [openers]
      cases hstep : step frame outer text.trim with
      | done g =>
        rw [hstep] at hopeners hbelow
        simp only [read, hstep, Except.ok.injEq] at hr ⊢
        subst hr
        refine ⟨[text], rfl, ?_, ?_, by simp, fun more ↦ ?_⟩
        · simp [← hopeners, hheight, Step.openers]
        · exact hbelow
        · simp [read, hstep]
      | waiting frame' outer' =>
        rw [hstep] at hnested hopeners hbelow
        simp only [read, hstep] at hr ⊢
        obtain ⟨texts, hsource, hdepths, hplaced, hpos, hmore⟩ := ih hnested hr
        refine ⟨text :: texts, ?_, ?_, ?_, ?_, fun more ↦ ?_⟩
        · rw [List.map_cons, List.cons_append, ← hsource]
        · simp [← hopeners, hheight, Step.openers, hdepths]
        · rw [hplaced]
          change (Step.waiting frame' outer').placed.map PlacedLine.below ++ _ = _
          rw [hbelow, List.append_assoc, List.map_cons, List.zip_cons_cons,
            ← List.filter_append]
          rfl
        · simpa using hpos
        · simp [read, hstep, hmore]

/-- The lines taken off a source that gives out, or gives something else, before the open blocks are
closed. -/
theorem exists_stopped {frame : Frame} {outer : List Frame} {source : List SourceItem}
    {e : ReadError} (h : Nested frame outer)
    (hr : (read frame outer source).result = .error e) :
    ∃ texts : List Text,
      ((source = texts.map .line ∧ (read frame outer source).rest = [] ∧ e = .closed) ∨
        ∃ item, source = texts.map .line ++ item :: (read frame outer source).rest ∧
          item.error? = some e) ∧
      (read frame outer source).depths =
        ((texts.map Text.trim).scanl stillOpen (openers frame outer)).map List.length ∧
      ∀ d ∈ (read frame outer source).depths, 0 < d := by
  induction source generalizing frame outer with
  | nil =>
    cases hr
    exact ⟨[], .inl ⟨rfl, rfl, rfl⟩, by simp [read, openers], by simp [read]⟩
  | cons item source ih =>
    cases item with
    | interrupt =>
      cases hr
      exact ⟨[], .inr ⟨.interrupt, rfl, rfl⟩, by simp [read, openers], by simp [read]⟩
    | fault reason =>
      cases hr
      exact ⟨[], .inr ⟨.fault reason, rfl, rfl⟩, by simp [read, openers], by simp [read]⟩
    | line text =>
      have ht := Text.trim_trim text
      have hnested := h.step ht
      have hopeners := openers_step outer ht h.sound.opens
      have hheight : (openers frame outer).length = outer.length + 1 := by simp [openers]
      cases hstep : step frame outer text.trim with
      | done g =>
        simp [read, hstep] at hr
      | waiting frame' outer' =>
        rw [hstep] at hnested hopeners
        simp only [read, hstep] at hr ⊢
        obtain ⟨texts, hsource, hdepths, hpos⟩ := ih hnested hr
        refine ⟨text :: texts, ?_, ?_, ?_⟩
        · rcases hsource with ⟨hsource, hrest, he⟩ | ⟨item, hsource, he⟩
          · exact .inl ⟨by rw [hsource, List.map_cons], hrest, he⟩
          · exact .inr ⟨item, by rw [List.map_cons, List.cons_append, ← hsource], he⟩
        · simp [← hopeners, hheight, Step.openers, hdepths]
        · simpa using hpos

end Block

namespace Fragment

open Block

/-- Lines that come after those of the fragment are left where they are. -/
theorem read_append {line : Text} {source : List SourceItem} {f : Fragment}
    (hr : (Fragment.read line source).result = .ok f) (more : List SourceItem) :
    Fragment.read line (source ++ more) = ⟨.ok f, (Fragment.read line source).depths,
      (Fragment.read line source).rest ++ more⟩ := by
  unfold Fragment.read at hr ⊢
  cases ho : closerFor line with
  | none => simpa [ho] using hr
  | some c =>
    simp only [ho] at hr ⊢
    obtain ⟨texts, hsource, -, -, -, hmore⟩ :=
      exists_taken (.outermost (Frame.sound_opened ho)) hr
    rw [← hmore, ← List.append_assoc, ← hsource]

/-- Reading leaves an end of the source. -/
theorem rest_suffix_of_ok {line : Text} {source : List SourceItem} {f : Fragment}
    (hr : (Fragment.read line source).result = .ok f) :
    (Fragment.read line source).rest <:+ source := by
  unfold Fragment.read at hr ⊢
  cases ho : closerFor line with
  | none => exact List.suffix_refl _
  | some c =>
    simp only [ho] at hr ⊢
    obtain ⟨texts, hsource, -⟩ := exists_taken (.outermost (Frame.sound_opened ho)) hr
    exact ⟨_, hsource.symm⟩

/-- Where a source has nothing but lines, all that keeps a block from being read is that it is not
closed. -/
theorem eq_closed_of_error {line : Text} {source : List SourceItem} {e : ReadError}
    (hsource : ∀ item ∈ source, item.error? = none)
    (hr : (Fragment.read line source).result = .error e) : e = .closed := by
  unfold Fragment.read at hr
  cases ho : closerFor line with
  | none => simp [ho] at hr
  | some c =>
    simp only [ho] at hr
    obtain ⟨texts, ⟨-, -, he⟩ | ⟨item, hitem, he⟩, -⟩ :=
      exists_stopped (.outermost (Frame.sound_opened ho)) hr
    · exact he
    · have hmem : item ∈ source := hitem ▸ List.mem_append_right _ List.mem_cons_self
      simp [hsource item hmem] at he

/-- What reading takes off its source.  If the fragment comes to its end, it holds the opener and
the lines taken that are not blank, each below as many openers as were open when it was asked for;
these lines give the same fragment whatever follows them, and none is asked for when no opener is
open any more.  If not, the lines taken are those before the first item that is none, or all. -/
theorem read_consumes (line : Text) (source : List SourceItem) :
    let r := Fragment.read line source
    ∃ texts : List Text,
      let heights := ((texts.map Text.trim).scanl stillOpen (opening line)).map List.length
      (∀ d ∈ r.depths, 0 < d) ∧
      match r.result with
      | .ok f =>
        source = texts.map .line ++ r.rest ∧
        f.lines = line :: (texts.map Text.trim).filter (· ≠ []) ∧
        f.placed.map PlacedLine.below =
          (line, 0) :: ((texts.map Text.trim).zip r.depths).filter (·.1 ≠ []) ∧
        r.depths ++ [0] = heights ∧
        ∀ more, Fragment.read line (texts.map .line ++ more) = ⟨.ok f, r.depths, more⟩
      | .error e =>
        ((source = texts.map .line ∧ r.rest = [] ∧ e = .closed) ∨
          ∃ item, source = texts.map .line ++ item :: r.rest ∧ item.error? = some e) ∧
        r.depths = heights := by
  intro r
  cases ho : closerFor line with
  | none =>
    have hr : ∀ more, Fragment.read line more = ⟨.ok (.ofLine line), [], more⟩ := by
      intro more
      simp [Fragment.read, ho]
    simp only [r, hr]
    exact ⟨[], by simp, rfl, rfl, rfl, by simp [opening, ho], fun _ ↦ rfl⟩
  | some c =>
    have hr : ∀ more, Fragment.read line more = Block.read ⟨line, c, []⟩ [] more := by
      intro more
      simp [Fragment.read, ho]
    have hopening : opening line = openers ⟨line, c, []⟩ [] := by simp [opening, ho, openers]
    have hnested : Nested ⟨line, c, []⟩ [] := .outermost (Frame.sound_opened ho)
    simp only [r, hr, hopening]
    cases hresult : (Block.read ⟨line, c, []⟩ [] source).result with
    | ok f =>
      obtain ⟨texts, hsource, hdepths, hplaced, hpos, hmore⟩ := exists_taken hnested hresult
      refine ⟨texts, hpos, hsource, ?_, hplaced, hdepths, hmore⟩
      have hlength : (texts.map Text.trim).length ≤
          (Block.read ⟨line, c, []⟩ [] source).depths.length := by
        have h := congrArg List.length hdepths
        simp only [List.length_append, List.length_singleton, List.length_map,
          List.length_scanl] at h
        simp only [List.length_map]
        omega
      calc f.lines
          = (f.placed.map PlacedLine.below).map Prod.fst := (map_fst_below f).symm
        _ = line :: (((texts.map Text.trim).zip
              (Block.read ⟨line, c, []⟩ [] source).depths).map Prod.fst).filter (· ≠ []) := by
            rw [hplaced, List.filter_map]
            rfl
        _ = line :: (texts.map Text.trim).filter (· ≠ []) := by
            rw [List.map_fst_zip hlength]
    | error e =>
      obtain ⟨texts, hsource, hdepths, hpos⟩ := exists_stopped hnested hresult
      exact ⟨texts, hpos, hsource, hdepths⟩

end Fragment
end GoRepl
