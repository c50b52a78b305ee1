import GoRepl.Proofs.Trimming

/-!
# Mentions

Which names a line refers to, said without its tokens.  The tokens come from cutting the line at one
symbol after another, with closing parentheses trimmed off at every cut; for the question whether
some token refers to a name this amounts to cutting at all symbols at once and trimming each piece
once (`exists_token_iff`).  The tokens in between neither add nor lose a reference, because a name
contains no symbol: whatever begins with it has a first piece that does so too.

`Mentions` then is the view of the line itself.  A name is mentioned where it stands whole behind
the beginning of the line or behind a symbol, with nothing in between but closing parentheses and
then blanks.  A name behind any other character goes unnoticed (`references_ofLine_iff`,
`index_not_referenced`).
-/

namespace GoRepl

namespace Text

/-- The code points of white space. -/
def blankCodes : List Nat :=
  [0x9, 0xA, 0xB, 0xC, 0xD, 0x20, 0x85, 0xA0, 0x1680, 0x2000, 0x2001, 0x2002, 0x2003, 0x2004,
    0x2005, 0x2006, 0x2007, 0x2008, 0x2009, 0x200A, 0x2028, 0x2029, 0x202F, 0x205F, 0x3000]

theorem toNat_mem_blankCodes {c : Char} (h : isBlank c = true) : c.toNat ∈ blankCodes := by
  simp only [isBlank, Bool.or_eq_true, Bool.and_eq_true, decide_eq_true_eq, beq_iff_eq] at h
  simp only [blankCodes, List.mem_cons, List.not_mem_nil, or_false]
  omega

theorem isAlphanumeric_of_isBlank {c : Char} (h : isBlank c = true) :
    isAlphanumeric c = false := by
  have hall : ∀ n ∈ blankCodes, isAlphanumeric (Char.ofNat n) = false := by decide +kernel
  have := hall c.toNat (toNat_mem_blankCodes h)
  rwa [Char.ofNat_toNat] at this

end Text

namespace Token

open Text

/-! ## Names -/

/-- Does a character go on with a name that stands before it? -/
def continuesName (c : Char) : Bool := isAlphanumeric c || c == '_'

/-- What is cut from both ends of each piece. -/
def isCloser (c : Char) : Bool := c == ')' || c == ' '

theorem trimClosers_eq (t : Text) : trimClosers t = strip isCloser t := rfl

/-- Letters, digits and underscores, the first of them no digit. -/
structure IsName (name : Text) : Prop where
  ne_nil : name ≠ []
  continues : ∀ c ∈ name, continuesName c = true
  first : ∀ c ∈ name.head?, isDigit c = false

/-- A name may end before this text. -/
def Ends (t : Text) : Prop := ∀ c ∈ t.head?, continuesName c = false

theorem isName_iff {name : Text} : IsName name ↔
    name ≠ [] ∧ name.all continuesName = true ∧ name.head?.all (!isDigit ·) = true := by
  simp only [List.all_eq_true, Option.all_eq_true, Bool.not_eq_true']
  exact ⟨fun ⟨hne, hall, hfirst⟩ ↦ ⟨hne, hall, hfirst⟩,
    fun ⟨hne, hall, hfirst⟩ ↦ ⟨hne, hall, hfirst⟩⟩

instance (name : Text) : Decidable (IsName name) := decidable_of_iff _ isName_iff.symm

instance (t : Text) : Decidable (Ends t) :=
  decidable_of_iff (t.head?.all (!continuesName ·) = true) (by simp [Ends, Option.all_eq_true])

theorem continuesName_of_isBlank {c : Char} (h : isBlank c = true) : continuesName c = false := by
  have hne : c ≠ '_' := by
    rintro rfl
    exact absurd h (by decide)
  simp [continuesName, isAlphanumeric_of_isBlank h, hne]

theorem continuesName_of_mem_symbols : ∀ s ∈ symbols, continuesName s = false := by
  have hall : symbols.all (!continuesName ·) = true := by decide
  simpa using hall

theorem continuesName_of_isCloser {c : Char} (h : isCloser c = true) :
    continuesName c = false := by
  rcases Bool.or_eq_true_iff.mp h with h | h <;> rw [beq_iff_eq.mp h] <;> decide

theorem ends_nil : Ends [] := by simp [Ends]

theorem Ends.append {t u : Text} (h : Ends t) (hu : Ends u) : Ends (t ++ u) := by
  cases t with
  | nil => exact hu
  | cons c t => simpa [Ends] using h

theorem Ends.of_append {t u : Text} (h : Ends (t ++ u)) : Ends t := by
  cases t with
  | nil => exact ends_nil
  | cons c t => simpa [Ends] using h

theorem ends_of_forall {t : Text} (h : ∀ c ∈ t, continuesName c = false) : Ends t :=
  fun c hc ↦ h c (List.mem_of_mem_head? hc)

theorem refersTo_iff {token name : Text} (hname : name ≠ []) :
    refersTo token name = true ↔ ∃ after, token = name ++ after ∧ Ends after := by
  obtain ⟨a, rest, rfl⟩ := List.exists_cons_of_ne_nil hname
  cases h : after? (a :: rest) token with
  | none =>
    simp only [refersTo, h, Bool.false_eq_true, false_iff, not_exists, not_and]
    rintro after rfl
    have hsome := after?_eq_some_iff.mpr (Eq.refl (a :: rest ++ after))
    exact absurd (h.symm.trans hsome) (by simp)
  | some after =>
    have htoken := after?_eq_some_iff.mp h
    have hunique : ∀ u, token = a :: rest ++ u ↔ u = after := by
      intro u
      rw [htoken, List.append_cancel_left_eq]
      exact eq_comm
    simp only [hunique, exists_eq_left]
    cases after with
    | nil => simp [refersTo, h, ends_nil]
    | cons c after => simp [refersTo, h, Ends, continuesName]

/-! ## Trimming

What is trimmed off is no part of a name, so it only widens the gap before it. -/

section Strip

variable {p : Char → Bool}

theorem Ends.dropEndWhile {t : Text} (h : Ends t) : Ends (dropEndWhile p t) := by
  obtain ⟨tail, htail, -⟩ := exists_dropEndWhile_append p t
  exact (htail ▸ h).of_append

/-- Trimmed from both sides, a text begins with a name if it did so behind a gap. -/
theorem refersTo_strip_iff {name : Text} (hname : name ≠ []) (hp : ∀ c ∈ name, p c = false)
    (hends : ∀ c, p c = true → continuesName c = false) {t : Text} :
    refersTo (strip p t) name = true ↔
      ∃ gap after, t = gap ++ name ++ after ∧ (∀ c ∈ gap, p c = true) ∧ Ends after := by
  rw [refersTo_iff hname]
  constructor
  · rintro ⟨after, hafter, hend⟩
    obtain ⟨front, tail, ht, hfront, htail⟩ := exists_strip_append p t
    refine ⟨front, after ++ tail, ?_, hfront,
      hend.append (ends_of_forall fun c hc ↦ hends c (htail c hc))⟩
    rw [hafter] at ht
    simpa using ht
  · rintro ⟨gap, after, rfl, hgap, hend⟩
    refine ⟨dropEndWhile p after, ?_, hend.dropEndWhile⟩
    have hnone : (gap ++ []).dropWhile p = [] := List.dropWhile_append_of_pos hgap
    rw [strip_gap_append hname hp, ← List.append_nil gap, hnone, List.nil_append]

end Strip

/-! ## Cutting at several symbols -/

section Pieces

variable {p q : Char → Bool}

/-- Cutting the parts once more is cutting at both kinds of symbols. -/
theorem flatMap_splitOnP (s : Char) (q : Char → Bool) (t : Text) :
    (t.splitOn s).flatMap (List.splitOnP q) = t.splitOnP fun c ↦ c == s || q c := by
  induction t with
  | nil => simp
  | cons c t ih =>
    rw [List.splitOn_cons_eq_if_modifyHead, List.splitOnP_cons_eq_if_modifyHead, ← ih]
    by_cases hc : c = s
    · simp [hc]
    · obtain ⟨part, parts, hparts⟩ := List.exists_cons_of_ne_nil (List.splitOn_ne_nil s t)
      obtain ⟨piece, pieces, hpieces⟩ :=
        List.exists_cons_of_ne_nil (List.splitOnP_ne_nil q part)
      by_cases hq : q c = true <;>
        simp [hc, hq, hparts, hpieces, List.splitOnP_cons_eq_if_modifyHead]

/-- A property of all texts, by the first symbol in them. -/
theorem pieces_induction {P : Text → Prop} (whole : ∀ t, (∀ c ∈ t, p c = false) → P t)
    (cut : ∀ start s t, (∀ c ∈ start, p c = false) → p s = true → P t → P (start ++ s :: t))
    (t : Text) : P t := by
  suffices h : ∀ start, (∀ c ∈ start, p c = false) → P (start ++ t) from h [] (by simp)
  induction t with
  | nil => exact fun start hstart ↦ by simpa using whole start hstart
  | cons c t ih =>
    intro start hstart
    by_cases hc : p c = true
    · exact cut start c t hstart hc (ih [] (by simp))
    · rw [List.append_cons]
      refine ih _ fun d hd ↦ ?_
      rcases List.mem_append.mp hd with hd | hd
      · exact hstart d hd
      · simpa [List.mem_singleton.mp hd] using hc

/-- A piece stands between symbols and holds none. -/
theorem mem_splitOnP_iff {t piece : Text} :
    piece ∈ t.splitOnP p ↔ ∃ before after, t = before ++ piece ++ after ∧
      (∀ c ∈ before.getLast?, p c = true) ∧ (∀ c ∈ after.head?, p c = true) ∧
      ∀ c ∈ piece, p c = false := by
  constructor
  · induction t using pieces_induction (p := p) with
    | whole t ht =>
      rw [List.splitOnP_eq_singleton ht, List.mem_singleton]
      rintro rfl
      exact ⟨[], [], by simp, by simp, by simp, ht⟩
    | cut start s t hstart hs ih =>
      rw [List.splitOnP_append_cons_of_forall_mem hstart s hs, List.mem_cons]
      rintro (rfl | hpiece)
      · exact ⟨[], s :: t, by simp, by simp, by simpa using hs, hstart⟩
      · obtain ⟨before, after, rfl, hbefore, hafter, hpiece⟩ := ih hpiece
        refine ⟨start ++ s :: before, after, by simp, fun c hc ↦ ?_, hafter, hpiece⟩
        rw [List.getLast?_append, List.getLast?_cons] at hc
        cases hlast : before.getLast? with
        | none =>
          obtain rfl : s = c := by simpa [hlast] using hc
          exact hs
        | some d =>
          obtain rfl : d = c := by simpa [hlast] using hc
          exact hbefore d hlast
  · rintro ⟨before, after, rfl, hbefore, hafter, hpiece⟩
    have htail : piece ∈ (piece ++ after).splitOnP p := by
      cases after with
      | nil => simp [List.splitOnP_eq_singleton hpiece]
      | cons s after =>
        rw [List.splitOnP_append_cons_of_forall_mem hpiece s (hafter s rfl)]
        exact List.mem_cons_self
    rcases List.eq_nil_or_concat before with rfl | ⟨before, s, rfl⟩
    · exact htail
    · have hs : p s = true := hbefore s (by simp)
      rw [List.concat_eq_append, List.append_assoc, List.append_assoc, List.singleton_append,
        List.splitOnP_append_cons _ _ hs]
      exact List.mem_append_right _ htail

end Pieces

/-! ## Mentions -/

/-- Closing parentheses and then blanks. -/
def IsGap (t : Text) : Prop :=
  ∃ closers blanks, t = closers ++ blanks ∧ (∀ c ∈ closers, isCloser c = true) ∧
    ∀ c ∈ blanks, isBlank c = true

/-- Of the pieces between the symbols that satisfy `p`, one begins with the name when trimmed. -/
def LeadsPiece (p : Char → Bool) (name t : Text) : Prop :=
  ∃ piece ∈ t.splitOnP p, refersTo (trimClosers piece).trim name = true

section Name

variable {name : Text} (hname : IsName name)

include hname

theorem IsName.not_isBlank : ∀ c ∈ name, isBlank c = false := by
  intro c hc
  refine Bool.eq_false_iff.mpr fun hb ↦ ?_
  simpa [continuesName_of_isBlank hb] using hname.continues c hc

theorem IsName.not_isCloser : ∀ c ∈ name, isCloser c = false := by
  intro c hc
  refine Bool.eq_false_iff.mpr fun hb ↦ ?_
  simpa [continuesName_of_isCloser hb] using hname.continues c hc

theorem refersTo_trim_iff {t : Text} :
    refersTo t.trim name = true ↔
      ∃ gap after, t = gap ++ name ++ after ∧ (∀ c ∈ gap, isBlank c = true) ∧ Ends after :=
  refersTo_strip_iff hname.ne_nil hname.not_isBlank fun _ ↦ continuesName_of_isBlank

/-- Trimmed, a piece begins with the name if it did so behind a gap. -/
theorem refersTo_piece_iff {piece : Text} :
    refersTo (trimClosers piece).trim name = true ↔
      ∃ gap after, piece = gap ++ name ++ after ∧ IsGap gap ∧ Ends after := by
  rw [refersTo_trim_iff hname]
  constructor
  · rintro ⟨blanks, after, htrim, hblanks, hend⟩
    obtain ⟨front, tail, hpiece, hfront, htail⟩ :=
      exists_strip_append isCloser piece
    rw [trimClosers_eq] at htrim
    refine ⟨front ++ blanks, after ++ tail, ?_, ⟨front, blanks, rfl, hfront, hblanks⟩,
      hend.append (ends_of_forall fun c hc ↦ continuesName_of_isCloser (htail c hc))⟩
    rw [hpiece, htrim]
    simp
  · rintro ⟨gap, after, rfl, ⟨closers, blanks, rfl, hclosers, hblanks⟩, hend⟩
    refine ⟨blanks.dropWhile isCloser, dropEndWhile isCloser after, ?_, fun c hc ↦ ?_,
      hend.dropEndWhile⟩
    · rw [trimClosers_eq, strip_gap_append hname.ne_nil hname.not_isCloser,
        List.dropWhile_append_of_pos hclosers]
    · exact hblanks c ((List.dropWhile_suffix _).subset hc)

/-! ## Trimming again

Whether a piece begins with the name does not depend on closers at the ends of the text, although
some of them may be symbols. -/

theorem not_refersTo_trim_closer {c : Char} (hc : isCloser c = true) :
    refersTo (trimClosers [c]).trim name = false ∧ refersTo (trimClosers []).trim name = false := by
  have hnil : refersTo [] name = false := by
    obtain ⟨a, rest, rfl⟩ := List.exists_cons_of_ne_nil hname.ne_nil
    rfl
  have htrim : trimClosers [c] = [] := by simp [trimClosers_eq, strip, hc]
  exact ⟨by rw [htrim]; exact hnil, hnil⟩

theorem leadsPiece_cons {c : Char} (hc : isCloser c = true) {p : Char → Bool} {t : Text} :
    LeadsPiece p name (c :: t) ↔ LeadsPiece p name t := by
  have htrim : ∀ piece, trimClosers (c :: piece) = trimClosers piece := by
    intro piece
    simp [trimClosers_eq, strip, hc]
  unfold LeadsPiece
  rw [List.splitOnP_cons_eq_if_modifyHead]
  split
  · simp [not_refersTo_trim_closer hname hc]
  · obtain ⟨piece, pieces, hpieces⟩ := List.exists_cons_of_ne_nil (List.splitOnP_ne_nil p t)
    simp [hpieces, htrim]

theorem leadsPiece_concat {c : Char} (hc : isCloser c = true) {p : Char → Bool} {t : Text} :
    LeadsPiece p name (t ++ [c]) ↔ LeadsPiece p name t := by
  have htrim : ∀ piece, trimClosers (piece ++ [c]) = trimClosers piece := by
    intro piece
    rw [trimClosers_eq, trimClosers_eq, strip, List.dropWhile_append]
    split
    · rename_i h
      simp [strip, List.isEmpty_iff.mp h, hc]
    · simp [strip, dropEndWhile, hc]
  unfold LeadsPiece
  induction t using pieces_induction (p := p) with
  | whole t ht =>
    by_cases hp : p c = true
    · rw [List.splitOnP_append_cons _ _ hp]
      simp [not_refersTo_trim_closer hname hc]
    · have hall : ∀ d ∈ t ++ [c], p d = false := by
        intro d hd
        rcases List.mem_append.mp hd with hd | hd
        · exact ht d hd
        · simpa [List.mem_singleton.mp hd] using hp
      rw [List.splitOnP_eq_singleton hall, List.splitOnP_eq_singleton ht]
      simp [htrim]
  | cut start s t hstart hs ih =>
    rw [List.append_assoc, List.cons_append, List.splitOnP_append_cons _ _ hs,
      List.splitOnP_append_cons _ _ hs]
    simp only [List.mem_append, or_and_right, exists_or, ih]

theorem leadsPiece_trimClosers {p : Char → Bool} {t : Text} :
    LeadsPiece p name (trimClosers t) ↔ LeadsPiece p name t := by
  have hleft : ∀ front u, (∀ c ∈ front, isCloser c = true) →
      (LeadsPiece p name (front ++ u) ↔ LeadsPiece p name u) := by
    intro front u hfront
    induction front with
    | nil => rfl
    | cons c front ih =>
      rw [List.cons_append, leadsPiece_cons hname (hfront c List.mem_cons_self)]
      exact ih fun d hd ↦ hfront d (List.mem_cons_of_mem c hd)
  have hright : ∀ tail u, (∀ c ∈ tail, isCloser c = true) →
      (LeadsPiece p name (u ++ tail) ↔ LeadsPiece p name u) := by
    intro tail
    induction tail with
    | nil => simp
    | cons c tail ih =>
      intro u htail
      rw [List.append_cons, ih _ fun d hd ↦ htail d (List.mem_cons_of_mem c hd),
        leadsPiece_concat hname (htail c List.mem_cons_self)]
  obtain ⟨front, tail, ht, hfront, htail⟩ := exists_strip_append isCloser t
  rw [trimClosers_eq]
  conv => rhs; rw [ht]
  rw [hright _ _ htail, hleft _ _ hfront]

/-! ## Tokens and pieces -/

theorem exists_keep_iff {t : Text} :
    (∃ token ∈ keep t, refersTo token name = true) ↔ refersTo t name = true := by
  have hcand : refersTo t name = true → isCandidate t = true := by
    intro h
    obtain ⟨after, rfl, -⟩ := (refersTo_iff hname.ne_nil).mp h
    obtain ⟨a, rest, rfl⟩ := List.exists_cons_of_ne_nil hname.ne_nil
    have ha : continuesName a = true := hname.continues a List.mem_cons_self
    have hquote : a ≠ '"' ∧ a ≠ '\'' := by
      constructor
      · rintro rfl
        exact absurd ha (by decide)
      · rintro rfl
        exact absurd ha (by decide)
    have hdigit : isDigit a = false := hname.first a rfl
    simp [isCandidate, hquote, hdigit]
  unfold keep
  by_cases h : isCandidate t = true
  · simp [h]
  · simpa [h] using fun href ↦ h (hcand href)

/-- Where the name stands if one of the pieces begins with it. -/
theorem leadsPiece_iff {p : Char → Bool} (hp : ∀ c, p c = true → continuesName c = false)
    {t : Text} : LeadsPiece p name t ↔ ∃ before gap after, t = before ++ gap ++ name ++ after ∧
      (∀ c ∈ before.getLast?, p c = true) ∧ (∀ c ∈ gap, p c = false) ∧ IsGap gap ∧
      Ends after := by
  unfold LeadsPiece
  constructor
  · rintro ⟨piece, hpiece, href⟩
    obtain ⟨before, rest, rfl, hbefore, hrest, hnone⟩ := mem_splitOnP_iff.mp hpiece
    obtain ⟨gap, after, rfl, hgap, hend⟩ := (refersTo_piece_iff hname).mp href
    refine ⟨before, gap, after ++ rest, by simp, hbefore, fun c hc ↦ hnone c (by simp [hc]), hgap,
      hend.append fun c hc ↦ hp c (hrest c hc)⟩
  · rintro ⟨before, gap, after, rfl, hbefore, hnone, hgap, hend⟩
    have hafter := List.takeWhile_append_dropWhile (p := fun c ↦ !p c) (l := after)
    refine ⟨gap ++ name ++ after.takeWhile fun c ↦ !p c, mem_splitOnP_iff.mpr
      ⟨before, after.dropWhile fun c ↦ !p c, ?_, hbefore, fun c hc ↦ ?_, fun c hc ↦ ?_⟩,
      (refersTo_piece_iff hname).mpr ⟨gap, _, rfl, hgap, (hafter ▸ hend).of_append⟩⟩
    · conv => lhs; rw [← hafter]
      simp
    · simpa using forall_head?_dropWhile (fun c ↦ !p c) after c hc
    · rcases List.mem_append.mp hc with hc | hc
      · rcases List.mem_append.mp hc with hc | hc
        · exact hnone c hc
        · refine Bool.eq_false_iff.mpr fun h ↦ ?_
          simpa [hp c h] using hname.continues c hc
      · simpa using forall_mem_takeWhile (fun c ↦ !p c) after c hc

/-- A text that begins with the name has a first piece that does so too. -/
theorem leadsPiece_of_refersTo {p : Char → Bool} (hp : ∀ c, p c = true → continuesName c = false)
    {t : Text} (h : refersTo t name = true) : LeadsPiece p name t := by
  obtain ⟨after, rfl, hend⟩ := (refersTo_iff hname.ne_nil).mp h
  exact (leadsPiece_iff hname hp).mpr
    ⟨[], [], after, by simp, by simp, by simp, ⟨[], [], by simp⟩, hend⟩

section Symbols

variable {s : Char} {later : List Char}

omit hname in
/-- The pieces between several symbols, by the parts between one of them. -/
theorem exists_part_iff {t : Text} :
    (∃ part ∈ t.splitOn s, LeadsPiece (· ∈ later) name part) ↔
      LeadsPiece (· ∈ s :: later) name t := by
  have hp : (fun c ↦ decide (c ∈ s :: later)) = fun c ↦ c == s || decide (c ∈ later) := by
    funext c
    rw [Bool.eq_iff_iff]
    simp
  unfold LeadsPiece
  rw [hp, ← flatMap_splitOnP]
  simp only [List.mem_flatMap]
  constructor
  · rintro ⟨part, hpart, piece, hpiece, href⟩
    exact ⟨piece, ⟨part, hpart, hpiece⟩, href⟩
  · rintro ⟨piece, ⟨part, hpart, hpiece⟩, href⟩
    exact ⟨part, hpart, piece, hpiece, href⟩

omit hname in
/-- A symbol that does not occur cuts nothing. -/
theorem leadsPiece_of_notMem {t : Text} (hs : s ∉ t) :
    LeadsPiece (· ∈ s :: later) name t ↔ LeadsPiece (· ∈ later) name t := by
  rw [← exists_part_iff, List.splitOn_eq_singleton hs]
  simp

/-- Cutting at one more symbol, where the tokens of the parts are known. -/
theorem exists_cut_iff (hsymbols : ∀ c ∈ s :: later, continuesName c = false)
    (ih : ∀ part, (∃ token ∈ split later (trimClosers part), refersTo token name = true) ↔
      LeadsPiece (· ∈ later) name part) {t : Text} (hs : s ∈ t) :
    (∃ token ∈ split (s :: later) t, refersTo token name = true) ↔
      LeadsPiece (· ∈ s :: later) name t := by
  have hparts : (∃ token ∈ (t.splitOn s).flatMap fun part ↦ split later (trimClosers part),
      refersTo token name = true) ↔ LeadsPiece (· ∈ s :: later) name t := by
    rw [← exists_part_iff]
    simp only [← ih, List.mem_flatMap]
    constructor
    · rintro ⟨token, ⟨part, hpart, htoken⟩, href⟩
      exact ⟨part, hpart, token, htoken, href⟩
    · rintro ⟨part, hpart, token, htoken, href⟩
      exact ⟨token, ⟨part, hpart, htoken⟩, href⟩
  rw [split, if_pos hs]
  simp only [List.mem_append, or_and_right, exists_or, exists_keep_iff hname, hparts]
  refine or_iff_right_of_imp fun href ↦ ?_
  exact leadsPiece_of_refersTo hname (fun c hc ↦ hsymbols c (of_decide_eq_true hc)) href

end Symbols

/-- The tokens of a trimmed text.  The induction is on the symbols that are left; trimming has to be
part of the statement, since the parts are trimmed before they are cut further. -/
theorem exists_split_trimClosers_iff {symbols : List Char}
    (hsymbols : ∀ c ∈ symbols, continuesName c = false) (t : Text) :
    (∃ token ∈ split symbols (trimClosers t), refersTo token name = true) ↔
      LeadsPiece (· ∈ symbols) name t := by
  induction symbols generalizing t with
  | nil =>
    rw [split, exists_keep_iff hname, LeadsPiece, List.splitOnP_eq_singleton (by simp)]
    simp
  | cons s later ih =>
    have ih := ih fun c hc ↦ hsymbols c (List.mem_cons_of_mem s hc)
    by_cases hs : s ∈ trimClosers t
    · rw [exists_cut_iff hname hsymbols ih hs]
      exact leadsPiece_trimClosers hname
    · rw [split, if_neg hs, ih, ← leadsPiece_trimClosers hname, ← leadsPiece_of_notMem hs]
      exact leadsPiece_trimClosers hname

/-- The tokens of a text as it stands, which is trimmed only if some symbol cuts it. -/
theorem exists_split_iff {symbols : List Char}
    (hsymbols : ∀ c ∈ symbols, continuesName c = false) (t : Text) :
    (∃ token ∈ split symbols t, refersTo token name = true) ↔
      if symbols.any (· ∈ t) then LeadsPiece (· ∈ symbols) name t
      else refersTo t.trim name = true := by
  induction symbols with
  | nil => simp [split, exists_keep_iff hname]
  | cons s later ih =>
    have hlater : ∀ c ∈ later, continuesName c = false :=
      fun c hc ↦ hsymbols c (List.mem_cons_of_mem s hc)
    by_cases hs : s ∈ t
    · rw [if_pos (by simp [hs])]
      exact exists_cut_iff hname hsymbols (exists_split_trimClosers_iff hname hlater) hs
    · have hany : (s :: later).any (· ∈ t) = later.any (· ∈ t) := by simp [hs]
      rw [split, if_neg hs, ih hlater, hany]
      simp only [leadsPiece_of_notMem hs]

end Name

@[simp] theorem reverse_keep (t : Text) : (keep t).reverse = keep t := by
  unfold keep
  split <;> rfl

/-- Working through the pending pieces gives the tokens of each of them. -/
theorem drain_eq (found : List Text) (pending : List Piece) :
    drain found pending = found.reverse ++ pending.flatMap fun p ↦ split p.uncut p.text := by
  fun_induction drain found pending with
  | case1 found => simp
  | case2 found t pending ih => simp [ih, split]
  | case3 found t s later pending hs ih =>
    rw [ih]
    simp [split, hs, cut, List.flatMap_map]
  | case4 found t s later pending hs ih => simp [ih, split, hs]

/-- What may stand between a name and the beginning of the line or the symbol before it: closing
parentheses, which are trimmed only if some symbol cuts the line, and then blanks. -/
def IsLead (line gap : Text) : Prop :=
  ∃ closers blanks, gap = closers ++ blanks ∧ (∀ c ∈ closers, c = ')') ∧
    (∀ c ∈ blanks, isBlank c = true) ∧ (closers = [] ∨ ∃ s ∈ symbols, s ∈ line)

/-- The name stands whole in the line, and no more than a gap parts it from the beginning of the
line or from a symbol. -/
def Mentions (line name : Text) : Prop :=
  ∃ before gap after, line = before ++ gap ++ name ++ after ∧
    (∀ c ∈ before.getLast?, c ∈ symbols) ∧ (∀ c ∈ gap, c ∉ symbols) ∧ IsLead line gap ∧ Ends after

theorem isLead_iff_isGap {line gap : Text} (hcut : ∃ s ∈ symbols, s ∈ line)
    (hnone : ∀ c ∈ gap, c ∉ symbols) : IsLead line gap ↔ IsGap gap := by
  constructor
  · rintro ⟨closers, blanks, rfl, hclosers, hblanks, -⟩
    exact ⟨closers, blanks, rfl, fun c hc ↦ by simp [isCloser, hclosers c hc], hblanks⟩
  · rintro ⟨closers, blanks, rfl, hclosers, hblanks⟩
    refine ⟨closers, blanks, rfl, fun c hc ↦ ?_, hblanks, .inr hcut⟩
    -- a space would be a symbol
    have hspace : c ≠ ' ' := by
      rintro rfl
      exact hnone ' ' (List.mem_append_left _ hc) (by decide)
    simpa [isCloser, hspace] using hclosers c hc

/-- Some token of a line refers to a name just in case the line mentions it. -/
theorem exists_token_iff {name : Text} (hname : IsName name) (line : Text) :
    (∃ token ∈ tokenize line, refersTo token name = true) ↔ Mentions line name := by
  have htokens : tokenize line = split symbols line := by simp [tokenize, drain_eq]
  rw [htokens, exists_split_iff hname continuesName_of_mem_symbols]
  simp only [List.any_eq_true, decide_eq_true_eq]
  split
  · rename_i hcut
    rw [leadsPiece_iff hname fun c hc ↦ continuesName_of_mem_symbols c (of_decide_eq_true hc)]
    simp only [Mentions, decide_eq_true_eq, decide_eq_false_iff_not]
    refine exists_congr fun before ↦ exists_congr fun gap ↦ exists_congr fun after ↦ ?_
    refine and_congr_right fun _ ↦ and_congr_right fun _ ↦ and_congr_right fun hnone ↦ ?_
    rw [isLead_iff_isGap hcut hnone]
  · rename_i hcut
    rw [refersTo_trim_iff hname]
    constructor
    · rintro ⟨gap, after, rfl, hgap, hend⟩
      refine ⟨[], gap, after, by simp, by simp, fun c hc hs ↦ hcut ⟨c, hs, by simp [hc]⟩, ?_, hend⟩
      exact ⟨[], gap, rfl, by simp, hgap, .inl rfl⟩
    · rintro ⟨before, gap, after, rfl, hbefore, -, ⟨closers, blanks, rfl, -, hblanks, hlead⟩, hend⟩
      obtain rfl : closers = [] := hlead.resolve_right hcut
      rcases List.eq_nil_or_concat before with rfl | ⟨before, s, rfl⟩
      · exact ⟨blanks, after, by simp, hblanks, hend⟩
      · exact absurd ⟨s, hbefore s (by simp), by simp⟩ hcut

end Token

namespace Fragment

/-- A fragment refers to the names that its lines mention, each line by itself. -/
theorem references_iff {name : Text} (hname : Token.IsName name) (f : Fragment) :
    f.references name = true ↔ ∃ line ∈ f.lines, Token.Mentions line name := by
  simp only [references, tokens, Token.tokenizeLines, List.any_eq_true, List.mem_flatMap,
    ← Token.exists_token_iff hname]
  constructor
  · rintro ⟨token, ⟨line, hline, htoken⟩, href⟩
    exact ⟨line, hline, token, htoken, href⟩
  · rintro ⟨line, hline, token, htoken, href⟩
    exact ⟨token, ⟨line, hline, htoken⟩, href⟩

/-- A line refers to exactly the names that it mentions. -/
theorem references_ofLine_iff {name : Text} (hname : Token.IsName name) (line : Text) :
    (ofLine line).references name = true ↔ Token.Mentions line name := by
  rw [references_iff hname]
  simp [lines, placed, ofLine, Body.placed]

/-- Behind the comma there are a tab and a closing parenthesis, and the name is found. -/
theorem references_argument :
    Token.IsName "rest".toList ∧
      (ofLine "n := f(g(a),)\trest[0])".toList).references "rest".toList = true := by
  have hname : Token.IsName "rest".toList := by decide
  have hline : "n := f(g(a),)\trest[0])".toList =
      ("n := f(g(a)".toList ++ [',']) ++ [')', '\t'] ++ "rest".toList ++ "[0])".toList := by decide
  have hlead : Token.IsLead "n := f(g(a),)\trest[0])".toList [')', '\t'] :=
    ⟨[')'], ['\t'], rfl, by simp, by simp; decide, .inr ⟨',', by decide, by decide⟩⟩
  refine ⟨hname, (references_ofLine_iff hname _).mpr ?_⟩
  exact ⟨_, _, _, hline, by simp [Token.symbols], by simp [Token.symbols], hlead, by decide⟩

/-- The index stands whole in the line, which holds no quote and no comment, but what comes before
it is no symbol. -/
theorem index_not_referenced :
    let line := "fmt.Println(m[a])".toList
    Token.IsName ['a'] ∧ line = "fmt.Println(m[".toList ++ ['a'] ++ "])".toList ∧
      Token.continuesName '[' = false ∧ Token.Ends "])".toList ∧
      line.all (· ∉ "\"'`/".toList) = true ∧
      (ofLine line).references ['a'] = false := by
  decide +kernel

end Fragment
end GoRepl
