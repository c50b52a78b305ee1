import Mathlib.Data.List.Nodup
import GoRepl.Template

/-!
# Reading and filling templates

A template is read part by part from the left, while what one expects of it speaks of the positions
of the placeholders in the whole text.  The two agree because of how placeholders are spelled: a
brace opens each of them and does not occur in it again, and none begins with another.  So no
placeholder begins inside another one (`places_placeholder_append`), and the places that are met
from the left are all that there are (`filter_slotsFrom_scan`).  What is said of the parts of a text
is shown along its reading (`scan_induction`).

Cutting the text at the sorted positions is another way to read it.  Its slices may fail in general;
here they do not, and give the same parts (`cut?_slots`).
-/

namespace GoRepl

namespace Region

/-- A placeholder is an opening brace, and then none any more. -/
theorem exists_placeholder_eq_cons (r : Region) :
    ∃ body, r.placeholder = '{' :: body ∧ '{' ∉ body := by
  cases r <;> exact ⟨_, rfl, by decide⟩

theorem length_placeholder_pos (r : Region) : 0 < r.placeholder.length := by
  cases r <;> decide

theorem placeholder_isPrefix_iff {q r : Region} :
    r.placeholder <+: q.placeholder ↔ q = r := by
  cases q <;> cases r <;> decide

/-- No text begins with two placeholders. -/
theorem eq_of_placeholder_isPrefix {q r : Region} {t : Text} (hq : q.placeholder <+: t)
    (hr : r.placeholder <+: t) : q = r := by
  rcases List.prefix_or_prefix_of_prefix hq hr with h | h
  · exact (placeholder_isPrefix_iff.mp h).symm
  · exact placeholder_isPrefix_iff.mp h

end Region

/-- Each region filled with its own placeholder. -/
def Regions.placeholders : Regions where
  imports := Region.imports.placeholder
  functions := Region.functions.placeholder
  statements := Region.statements.placeholder

@[simp] theorem Regions.get_placeholders (r : Region) : placeholders.get r = r.placeholder := by
  cases r <;> rfl

namespace Template

/-! ## Places -/

/-- The positions at which the placeholder of a region stands in a text. -/
def places (r : Region) (t : Text) : List Nat :=
  (List.range t.length).filter fun i ↦ r.placeholder <+: t.drop i

theorem places_cons (r : Region) (c : Char) (t : Text) :
    places r (c :: t) = (if r.placeholder <+: c :: t then [0] else []) ++
      (places r t).map (· + 1) := by
  unfold places
  rw [List.length_cons, List.range_succ_eq_map, List.filter_cons, List.filter_map]
  simp only [List.drop_zero, Function.comp_def, List.drop_succ_cons, decide_eq_true_eq]
  split <;> simp [*]

/-- A placeholder begins nowhere but at a brace. -/
theorem places_append_of_notMem (r : Region) {u : Text} (hu : '{' ∉ u) (t : Text) :
    places r (u ++ t) = (places r t).map (· + u.length) := by
  induction u with
  | nil => simp
  | cons c u ih =>
    obtain ⟨hc, hu⟩ := not_or.mp (mt List.mem_cons.mpr hu)
    have hbrace : ¬ r.placeholder <+: c :: (u ++ t) := by
      obtain ⟨body, hbody, -⟩ := r.exists_placeholder_eq_cons
      rw [hbody, List.cons_prefix_cons]
      exact fun h ↦ hc h.1
    rw [List.cons_append, places_cons, if_neg hbrace, ih hu, List.map_map]
    simp [Function.comp_def, Nat.add_assoc]

/-- Past a placeholder, the places are those of the rest: no placeholder begins inside another. -/
theorem places_placeholder_append (r q : Region) (rest : Text) :
    places r (q.placeholder ++ rest) =
      (if q = r then [0] else []) ++ (places r rest).map (· + q.placeholder.length) := by
  have hstart : r.placeholder <+: q.placeholder ++ rest ↔ q = r := by
    constructor
    · exact fun h ↦ Region.eq_of_placeholder_isPrefix (List.prefix_append ..) h
    · rintro rfl
      exact List.prefix_append ..
  obtain ⟨body, hbody, hbrace⟩ := q.exists_placeholder_eq_cons
  rw [hbody, List.cons_append] at hstart ⊢
  rw [places_cons, places_append_of_notMem r hbrace, List.map_map]
  simp [hstart, Function.comp_def, Nat.add_assoc]

/-! ## The parts of a text -/

theorem placeAt?_eq_some {t rest : Text} {r : Region} (h : placeAt? t = some (r, rest)) :
    t = r.placeholder ++ rest := by
  obtain ⟨q, -, h⟩ := List.exists_of_findSome?_eq_some h
  obtain ⟨rest', hrest, he⟩ := Option.map_eq_some_iff.mp h
  obtain ⟨rfl, rfl⟩ := Prod.mk.inj he
  exact Text.after?_eq_some_iff.mp hrest

theorem not_isPrefix_of_placeAt?_eq_none {t : Text} (h : placeAt? t = none) (r : Region) :
    ¬ r.placeholder <+: t := by
  rintro ⟨rest, hrest⟩
  have hnone := List.findSome?_eq_none_iff.mp h r r.mem_all
  rw [Text.after?_eq_some_iff.mpr hrest.symm] at hnone
  cases hnone

/-- A text is read part by part: at a placeholder its place, anywhere else a character. -/
theorem scan_induction {motive : Text → List Part → Prop} (nil : motive [] [])
    (char : ∀ c t, (∀ r : Region, ¬ r.placeholder <+: c :: t) → motive t (scan t) →
      motive (c :: t) (.char c :: scan t))
    (place : ∀ (r : Region) rest, motive rest (scan rest) →
      motive (r.placeholder ++ rest) (.place r :: scan rest)) (t : Text) : motive t (scan t) := by
  induction t using scan.induct with
  | case1 t r rest h _ ih =>
    have hscan : scan t = .place r :: scan rest := by
      rw [scan]
      split <;> simp_all
    rw [hscan, placeAt?_eq_some h]
    exact place r rest ih
  | case2 h =>
    have hscan : scan [] = [] := by
      rw [scan]
      split <;> simp_all
    rw [hscan]
    exact nil
  | case3 c t h ih =>
    have hscan : scan (c :: t) = .char c :: scan t := by
      rw [scan]
      split <;> simp_all
    rw [hscan]
    exact char c t (not_isPrefix_of_placeAt?_eq_none h) ih

theorem flatMap_scan (t : Text) : (scan t).flatMap (Part.render .placeholders) = t := by
  induction t using scan_induction with
  | nil => rfl
  | char c t _ ih =>
    rw [List.flatMap_cons, ih]
    rfl
  | place r rest ih =>
    rw [List.flatMap_cons, ih, Part.render, Regions.get_placeholders]

/-- A region has as many places among the parts as in the text. -/
theorem count_scan (r : Region) (t : Text) :
    (scan t).count (.place r) = (places r t).length := by
  induction t using scan_induction with
  | nil => rfl
  | char c t h ih =>
    rw [places_cons, if_neg (h r), List.count_cons_of_ne (by simp), ih]
    simp
  | place q rest ih =>
    rw [places_placeholder_append, List.count_cons, ih]
    by_cases hq : q = r <;> simp [hq, Nat.add_comm]

/-! ## Cutting a text at its places -/

/-- The text between two positions, if these are in order and in range. -/
def slice? (t : Text) (i j : Nat) : Option Text :=
  if i ≤ j ∧ j ≤ t.length then some ((t.take j).drop i) else none

/-- Cut a text from a position on at the given places. -/
def cut? (t : Text) (cursor : Nat) : List (Nat × Region) → Option (List Part)
  | [] => (slice? t cursor t.length).map fun after ↦ after.map .char
  | (i, r) :: slots => do
    let before ← slice? t cursor i
    let parts ← cut? t (i + r.placeholder.length) slots
    return before.map .char ++ .place r :: parts

/-- The places of all regions, sorted by their positions. -/
def slots (t : Text) : List (Nat × Region) :=
  (Region.all.flatMap fun r ↦ (places r t).map (·, r)).mergeSort fun a b ↦ a.1 ≤ b.1

/-- The places among the parts of a text that begins at a position. -/
def slotsFrom (start : Nat) : List Part → List (Nat × Region)
  | [] => []
  | .char _ :: parts => slotsFrom (start + 1) parts
  | .place r :: parts => (start, r) :: slotsFrom (start + r.placeholder.length) parts

theorem le_of_mem_slotsFrom {start : Nat} {parts : List Part} {slot : Nat × Region}
    (h : slot ∈ slotsFrom start parts) : start ≤ slot.1 := by
  induction parts generalizing start with
  | nil => cases h
  | cons part parts ih =>
    cases part with
    | char c => exact Nat.le_of_succ_le (ih h)
    | place r =>
      rcases List.mem_cons.mp h with rfl | h
      · exact Nat.le_refl _
      · exact Nat.le_trans (Nat.le_add_right ..) (ih h)

/-- Each place ends before the next one begins. -/
theorem pairwise_slotsFrom (start : Nat) (parts : List Part) :
    (slotsFrom start parts).Pairwise fun a b ↦ a.1 + a.2.placeholder.length ≤ b.1 := by
  induction parts generalizing start with
  | nil => exact .nil
  | cons part parts ih =>
    cases part with
    | char c => exact ih _
    | place r => exact .cons (fun _ h ↦ le_of_mem_slotsFrom h) (ih _)

theorem filter_slotsFrom_scan (r : Region) (start : Nat) (t : Text) :
    (slotsFrom start (scan t)).filter (·.2 = r) =
      (places r t).map fun i ↦ (i + start, r) := by
  induction t using scan_induction generalizing start with
  | nil => rfl
  | char c t h ih =>
    rw [places_cons, if_neg (h r)]
    simp [slotsFrom, ih, Nat.add_assoc, Nat.add_comm 1]
  | place q rest ih =>
    rw [places_placeholder_append]
    by_cases hq : q = r <;>
      simp [slotsFrom, ih, hq, Function.comp_def, Nat.add_assoc, Nat.add_comm start]

/-- Places come region by region, up to their order. -/
theorem perm_flatMap_filter (l : List (Nat × Region)) :
    l.Perm (Region.all.flatMap fun r ↦ l.filter (·.2 = r)) := by
  simp only [Region.all, List.flatMap_cons, List.flatMap_nil, List.append_nil]
  induction l with
  | nil => exact .refl _
  | cons slot l ih =>
    obtain ⟨i, r⟩ := slot
    refine (ih.cons _).trans ?_
    cases r with
    | imports => simp
    | functions => simpa using List.perm_middle.symm
    | statements => simpa [← List.append_assoc] using List.perm_middle.symm

theorem pairwise_slots (t : Text) : (slots t).Pairwise fun a b ↦ a.1 ≤ b.1 := by
  refine (List.pairwise_mergeSort ?_ ?_ _).imp of_decide_eq_true
  · intro a b c hab hbc
    exact decide_eq_true (Nat.le_trans (of_decide_eq_true hab) (of_decide_eq_true hbc))
  · intro a b
    simpa using Nat.le_total a.1 b.1

/-- The places that are met on the way are all that there are. -/
theorem perm_slots (t : Text) : (slots t).Perm (slotsFrom 0 (scan t)) := by
  refine (List.mergeSort_perm ..).trans ?_
  apply List.Perm.symm
  refine (perm_flatMap_filter _).trans (.of_eq ?_)
  simp only [filter_slotsFrom_scan, Nat.add_zero]

/-- Sorting the places gives them in the order of the parts. -/
theorem slots_eq (t : Text) : slots t = slotsFrom 0 (scan t) := by
  have hascending : (slotsFrom 0 (scan t)).Pairwise fun a b ↦ a.1 < b.1 :=
    (pairwise_slotsFrom 0 (scan t)).imp fun {a b} h ↦
      Nat.lt_of_lt_of_le (Nat.lt_add_of_pos_right a.2.length_placeholder_pos) h
  have hnodup : ((slotsFrom 0 (scan t)).map Prod.fst).Nodup :=
    List.pairwise_map.mpr (hascending.imp Nat.ne_of_lt)
  refine (perm_slots t).eq_of_pairwise (fun a b ha hb hab hba ↦ ?_) (pairwise_slots t)
    (hascending.imp Nat.le_of_lt)
  exact List.inj_on_of_nodup_map hnodup ((perm_slots t).mem_iff.mp ha) hb (Nat.le_antisymm hab hba)

/-- The text between what stands before it and what stands after it. -/
theorem slice?_append (a b c : Text) :
    slice? (a ++ (b ++ c)) a.length (a.length + b.length) = some b := by
  unfold slice?
  rw [if_pos ⟨Nat.le_add_right .., by simp⟩, ← List.append_assoc, ← List.length_append,
    List.take_left, List.drop_left]

/-- Cutting gives the parts back.  The induction is on the parts; what stands before the cursor has
been cut off already, and `run` is what has been passed since the last place. -/
theorem cut?_slotsFrom (parts : List Part) (done run : Text) :
    cut? (done ++ (run ++ parts.flatMap (Part.render .placeholders))) done.length
      (slotsFrom (done.length + run.length) parts) = some (run.map .char ++ parts) := by
  induction parts generalizing done run with
  | nil =>
    have hslice := slice?_append done run []
    unfold slotsFrom cut?
    simp only [List.flatMap_nil, List.length_append, List.length_nil, Nat.add_zero, hslice]
    simp
  | cons part parts ih =>
    cases part with
    | char c =>
      have hrun := ih done (run ++ [c])
      simpa [Part.render, slotsFrom, ← Nat.add_assoc] using hrun
    | place r =>
      have hrest := ih (done ++ (run ++ r.placeholder)) []
      have hslice := slice?_append done run
        (r.placeholder ++ parts.flatMap (Part.render .placeholders))
      rw [List.flatMap_cons]
      unfold slotsFrom cut?
      simp only [List.append_assoc, List.nil_append, List.length_append, List.length_nil,
        Nat.add_zero, ← Nat.add_assoc] at hrest
      simp only [Part.render, Regions.get_placeholders, hslice, hrest]
      rfl

/-- Every text is cut at its places into its parts, and no slice fails. -/
theorem cut?_slots (t : Text) : cut? t 0 (slots t) = some (scan t) := by
  have hcut := cut?_slotsFrom (scan t) [] []
  rw [flatMap_scan] at hcut
  rw [slots_eq]
  exact hcut

/-! ## Reading a template -/

variable {t : Text} {T : Template}

theorem parse_eq_ok_iff : parse t = .ok T ↔ T.parts = scan t := by
  unfold parse
  dsimp only
  constructor
  · intro h
    split at h
    · cases h
    · cases h
      rfl
  · intro h
    split
    · rename_i r hr
      have hcount := List.find?_some hr
      rw [← h] at hcount
      simp [T.count_place r] at hcount
    · obtain ⟨parts, hparts⟩ := T
      cases h
      rfl

theorem parse_eq_error_iff {e : TemplateError} :
    parse t = .error e ↔ ∃ r, Region.all.find? (fun r ↦ (places r t).length ≠ 1) = some r ∧
      e = .placeholder r (places r t).length := by
  unfold parse
  dsimp only
  constructor
  · intro h
    split at h
    · rename_i r hr
      cases h
      exact ⟨r, by simpa only [count_scan] using hr, by rw [count_scan]⟩
    · cases h
  · rintro ⟨r, hr, rfl⟩
    split
    · rename_i q hq
      simp only [count_scan] at hq ⊢
      obtain rfl := Option.some.inj (hq.symm.trans hr)
      rfl
    · rename_i hq
      simp only [count_scan] at hq
      cases hq.symm.trans hr

theorem exists_parse_eq_ok_iff :
    (∃ T, parse t = .ok T) ↔ ∀ r, (places r t).length = 1 := by
  constructor
  · rintro ⟨T, hT⟩ r
    rw [← count_scan, ← parse_eq_ok_iff.mp hT]
    exact T.count_place r
  · intro h
    exact ⟨⟨scan t, fun r ↦ (count_scan r t).trans (h r)⟩, parse_eq_ok_iff.mpr rfl⟩

/-! ## Filling a template -/

/-- The region of which a part is the place. -/
def Part.region? : Part → Option Region
  | .char _ => none
  | .place r => some r

theorem exists_eq_map_char {parts : List Part} (h : parts.filterMap Part.region? = []) :
    ∃ run : Text, parts = run.map .char := by
  induction parts with
  | nil => exact ⟨[], rfl⟩
  | cons part parts ih =>
    cases part with
    | char c =>
      obtain ⟨run, rfl⟩ := ih h
      exact ⟨c :: run, rfl⟩
    | place r => cases h

theorem exists_eq_append_place {parts : List Part} {r : Region} {rs : List Region}
    (h : parts.filterMap Part.region? = r :: rs) :
    ∃ (run : Text) (rest : List Part), parts = run.map .char ++ .place r :: rest ∧
      rest.filterMap Part.region? = rs := by
  induction parts with
  | nil => cases h
  | cons part parts ih =>
    cases part with
    | char c =>
      obtain ⟨run, rest, rfl, hrest⟩ := ih h
      exact ⟨c :: run, rest, rfl, hrest⟩
    | place q =>
      obtain ⟨rfl, hrest⟩ := List.cons.inj h
      exact ⟨[], parts, rfl, hrest⟩

theorem flatMap_map_char (texts : Regions) (run : Text) :
    (run.map Part.char).flatMap (Part.render texts) = run := by
  induction run with
  | nil => rfl
  | cons c run ih => exact congrArg (c :: ·) ih

/-- The places of a template are those of the three regions, in some order. -/
theorem perm_regions (T : Template) : (T.parts.filterMap Part.region?).Perm Region.all := by
  rw [List.perm_iff_count]
  intro r
  have hcount : (T.parts.filterMap Part.region?).count r = T.parts.count (.place r) := by
    rw [List.count_filterMap, List.count_eq_countP]
    refine List.countP_congr fun part _ ↦ ?_
    cases part <;> simp [Part.region?]
  rw [hcount, T.count_place r]
  cases r <;> rfl

/-- What a template makes of its regions' texts: its own text, with them in between. -/
theorem exists_render_eq (T : Template) : ∃ (a b c d : Text) (r₁ r₂ r₃ : Region),
    [r₁, r₂, r₃].Perm Region.all ∧ ∀ texts : Regions,
      T.render texts = a ++ texts.get r₁ ++ b ++ texts.get r₂ ++ c ++ texts.get r₃ ++ d := by
  have hperm := T.perm_regions
  obtain ⟨r₁, r₂, r₃, hregions⟩ := List.length_eq_three.mp hperm.length_eq
  obtain ⟨a, rest₁, hparts, h₁⟩ := exists_eq_append_place hregions
  obtain ⟨b, rest₂, rfl, h₂⟩ := exists_eq_append_place h₁
  obtain ⟨c, rest₃, rfl, h₃⟩ := exists_eq_append_place h₂
  obtain ⟨d, rfl⟩ := exists_eq_map_char h₃
  refine ⟨a, b, c, d, r₁, r₂, r₃, hregions ▸ hperm, fun texts ↦ ?_⟩
  unfold render
  rw [hparts]
  simp [flatMap_map_char, Part.render]

/-- Reading and filling templates.

A text is a template just in case the placeholder of each region stands in it at one position only.
Otherwise the error names the first region for which this is not so, in the order of the regions,
and the number of its positions.  No two placeholders of a text overlap.  Whatever their order,
cutting the text at their positions never takes a slice that is out of order or out of range, and
gives the parts of the template.

A filled template is its text with the three placeholders replaced at the same time: what stands
before, between and after them stays, and so does each text that is put in, whatever it is.  Filled
with the placeholders, a template is its text again. -/
theorem parse_exact (t : Text) :
    ((∃ T, parse t = .ok T) ↔ ∀ r, (places r t).length = 1) ∧
    (∀ e, parse t = .error e ↔
      ∃ r, Region.all.find? (fun r ↦ (places r t).length ≠ 1) = some r ∧
        e = .placeholder r (places r t).length) ∧
    (slots t).Pairwise (fun a b ↦ a.1 + a.2.placeholder.length ≤ b.1) ∧
    (∃ parts, cut? t 0 (slots t) = some parts ∧ ∀ T, parse t = .ok T → T.parts = parts) ∧
    ∀ T, parse t = .ok T →
      (∃ (a b c d : Text) (r₁ r₂ r₃ : Region), [r₁, r₂, r₃].Perm Region.all ∧
        t = a ++ r₁.placeholder ++ b ++ r₂.placeholder ++ c ++ r₃.placeholder ++ d ∧
        ∀ texts : Regions, T.render texts =
          a ++ texts.get r₁ ++ b ++ texts.get r₂ ++ c ++ texts.get r₃ ++ d) ∧
      T.render .placeholders = t := by
  refine ⟨exists_parse_eq_ok_iff, fun e ↦ parse_eq_error_iff, slots_eq t ▸ pairwise_slotsFrom ..,
    ⟨scan t, cut?_slots t, fun T hT ↦ parse_eq_ok_iff.mp hT⟩, fun T hT ↦ ?_⟩
  have hown : T.render .placeholders = t := by
    unfold render
    rw [parse_eq_ok_iff.mp hT]
    exact flatMap_scan t
  refine ⟨?_, hown⟩
  obtain ⟨a, b, c, d, r₁, r₂, r₃, hregions, hrender⟩ := T.exists_render_eq
  refine ⟨a, b, c, d, r₁, r₂, r₃, hregions, ?_, hrender⟩
  have h := hrender .placeholders
  simp only [Regions.get_placeholders] at h
  exact hown.symm.trans h

/-- The placeholders stand in another order, and each text that is put in is a placeholder. -/
theorem parse_exact_crosswise :
    let t := "<\x7b%code_area%\x7d\x7b%import_area%\x7d|\x7b%func_area%\x7d>".toList
    let texts : Regions := ⟨Region.functions.placeholder, Region.statements.placeholder,
      Region.imports.placeholder⟩
    ∃ T, parse t = .ok T ∧ T.render .placeholders = t ∧
      cut? t 0 (slots t) = some T.parts ∧ T.render texts =
        "<\x7b%import_area%\x7d\x7b%func_area%\x7d|\x7b%code_area%\x7d>".toList := by
  intro t texts
  obtain ⟨hok, -, -, ⟨parts, hcut, hparts⟩, hfill⟩ := parse_exact t
  obtain ⟨T, hT⟩ := hok.mpr fun r ↦ by cases r <;> decide +kernel
  refine ⟨T, hT, (hfill T hT).2, by rw [hcut, hparts T hT], ?_⟩
  unfold render
  rw [parse_eq_ok_iff.mp hT]
  decide +kernel

end Template
end GoRepl
