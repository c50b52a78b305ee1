import Mathlib.Data.List.Basic
import Mathlib.Data.List.TakeWhile
import GoRepl.Fragment.Declared
import GoRepl.Proofs.Mentions

/-!
# Clauses

What the clauses of a line declare.

`Lists` says what a list of names is, and `Declares` what a clause is that declares names: how it
may be laid out, without the functions that read it.  Reading takes the longest list of names that
it can, so a list is read back whole if what comes behind it cannot go on with the last name or with
one more (`Clause.names?_append`).  A declaring clause is then read as what it is, and as nothing
else (`Clause.Declares.declared?_eq`): behind the keyword of a longer form there is a blank and a
name, and so neither a comma nor `:=`.

A line of declaring clauses declares the names of all of them, and one clause more that declares
nothing makes it a use of the names (`Fragment.declaredNames_ofClauses`).
-/

namespace GoRepl

namespace Text

/-! ## Words and blanks -/

theorem isWord_of_isBlank {c : Char} (h : isBlank c = true) : isWord c = false := by
  have hall : ∀ n ∈ blankCodes, isWord (Char.ofNat n) = false := by decide +kernel
  have := hall c.toNat (toNat_mem_blankCodes h)
  rwa [Char.ofNat_toNat] at this

theorem isBlank_of_isWord {c : Char} (h : isWord c = true) : isBlank c = false :=
  Bool.eq_false_iff.mpr fun hb ↦ by simp [isWord_of_isBlank hb] at h

theorem ne_of_isWord {c d : Char} (hc : isWord c = true) (hd : isWord d = false) : c ≠ d := by
  rintro rfl
  simp [hc] at hd

/-- There is nothing but blanks. -/
def Blanks (t : Text) : Prop := ∀ c ∈ t, isBlank c = true

instance (t : Text) : Decidable (Blanks t) :=
  decidable_of_iff (t.all isBlank = true) List.all_eq_true

theorem Blanks.semicolon_notMem {t : Text} (h : Blanks t) : ';' ∉ t :=
  fun hmem ↦ absurd (h ';' hmem) (by decide)

/-- A word may end before this text. -/
def EndsWord (t : Text) : Prop := ∀ c ∈ t.head?, isWord c = false

@[simp] theorem endsWord_nil : EndsWord [] := by simp [EndsWord]

@[simp] theorem endsWord_cons {c : Char} {t : Text} :
    EndsWord (c :: t) ↔ isWord c = false := by simp [EndsWord]

instance : (t : Text) → Decidable (EndsWord t)
  | [] => .isTrue endsWord_nil
  | _ :: _ => decidable_of_iff _ endsWord_cons.symm

theorem EndsWord.of_append {t u : Text} (h : EndsWord (t ++ u)) : EndsWord t := by
  cases t with
  | nil => exact endsWord_nil
  | cons c t => exact endsWord_cons.mpr (endsWord_cons.mp h)

theorem endsWord_blanks_append {gap t : Text} (hgap : Blanks gap) (ht : gap ≠ [] ∨ EndsWord t) :
    EndsWord (gap ++ t) := by
  cases gap with
  | nil => simpa using ht
  | cons c gap => exact endsWord_cons.mpr (isWord_of_isBlank (hgap c List.mem_cons_self))

theorem trimStart_append {gap : Text} (hgap : Blanks gap) (t : Text) :
    trimStart (gap ++ t) = trimStart t :=
  List.dropWhile_append_of_pos hgap

theorem exists_blanks_append (t : Text) : ∃ gap, t = gap ++ trimStart t ∧ Blanks gap :=
  ⟨t.takeWhile isBlank, List.takeWhile_append_dropWhile.symm, forall_mem_takeWhile isBlank t⟩

/-- The word at the start of a text is the longest one. -/
theorem word?_eq_some_iff {t w rest : Text} : word? t = some (w, rest) ↔
    t = w ++ rest ∧ w ≠ [] ∧ (∀ c ∈ w, isWord c = true) ∧ EndsWord rest := by
  constructor
  · intro h
    unfold word? at h
    split at h
    · cases h
    · rename_i w' hw
      obtain ⟨rfl, rfl⟩ := Prod.mk.inj (Option.some.inj h)
      exact ⟨List.takeWhile_append_dropWhile.symm, hw, forall_mem_takeWhile isWord t,
        forall_head?_dropWhile isWord t⟩
  · rintro ⟨rfl, hne, hw, hrest⟩
    have htake : (w ++ rest).takeWhile isWord = w := by
      rw [List.takeWhile_append_of_pos hw]
      cases rest with
      | nil => simp
      | cons c rest => simp [hrest c rfl]
    unfold word?
    rw [htake, List.dropWhile_append_of_pos hw, dropWhile_eq_self hrest]
    split
    · exact absurd rfl hne
    · rfl

end Text

namespace Clause

open Text

/-! ## Lists of names -/

/-- Word characters, the first of them no digit. -/
structure IsName (w : Text) : Prop where
  ne_nil : w ≠ []
  isWord : ∀ c ∈ w, isWord c = true
  first : ∀ c ∈ w.head?, isDigit c = false

theorem isName_iff {w : Text} :
    IsName w ↔ w ≠ [] ∧ w.all Text.isWord = true ∧ w.head?.all (!isDigit ·) = true := by
  simp only [List.all_eq_true, Option.all_eq_true, Bool.not_eq_true']
  constructor
  · rintro ⟨hne, hw, hfirst⟩
    exact ⟨hne, hw, hfirst⟩
  · rintro ⟨hne, hw, hfirst⟩
    exact ⟨hne, hw, hfirst⟩

instance (w : Text) : Decidable (IsName w) := decidable_of_iff _ isName_iff.symm

/-- The text lists the names, with commas between them and blanks around the commas. -/
inductive Lists : List Text → Text → Prop
  | one {w : Text} : IsName w → Lists [w] w
  | more {w gap gap' t : Text} {ws : List Text} : IsName w → Blanks gap → Blanks gap' →
      Lists ws t → Lists (w :: ws) (w ++ (gap ++ ',' :: (gap' ++ t)))

/-- The text goes on with a comma and one more name. -/
def GoesOn (t : Text) : Prop :=
  ∃ gap gap' c after, t = gap ++ ',' :: (gap' ++ c :: after) ∧ Blanks gap ∧ Blanks gap' ∧
    isWord c = true

/-- The text goes on neither with the last name of a list nor with one more. -/
structure EndsNames (t : Text) : Prop where
  endsWord : EndsWord t
  not_goesOn : ¬ GoesOn t

theorem IsName.head? {w : Text} (h : IsName w) (t : Text) :
    ∀ c ∈ (w ++ t).head?, Text.isWord c = true ∧ isDigit c = false := by
  obtain ⟨d, w', rfl⟩ := List.exists_cons_of_ne_nil h.ne_nil
  rintro c hc
  obtain rfl : d = c := by simpa using hc
  exact ⟨h.isWord d List.mem_cons_self, h.first d rfl⟩

/-- The first name of a list stands at its beginning, and nothing behind it goes on with it. -/
theorem Lists.exists_name {ws : List Text} {t : Text} (h : Lists ws t) :
    ∃ w ws' after, ws = w :: ws' ∧ t = w ++ after ∧ IsName w ∧
      ∀ rest, EndsWord rest → EndsWord (after ++ rest) := by
  cases h with
  | one hw => exact ⟨_, _, [], rfl, (List.append_nil _).symm, hw, fun _ hrest ↦ hrest⟩
  | more hw hgap _ _ =>
    refine ⟨_, _, _, rfl, rfl, hw, fun rest _ ↦ ?_⟩
    rw [List.append_assoc]
    exact endsWord_blanks_append hgap (.inr (endsWord_cons.mpr (by decide)))

theorem Lists.head? {ws : List Text} {t : Text} (h : Lists ws t) (rest : Text) :
    ∀ c ∈ (t ++ rest).head?, Text.isWord c = true := by
  obtain ⟨w, _, after, -, rfl, hw, -⟩ := h.exists_name
  rw [List.append_assoc]
  exact fun c hc ↦ (hw.head? _ c hc).1

/-- A word behind blanks is the first word. -/
theorem IsName.word? {w : Text} (h : IsName w) {gap t : Text} (hgap : Blanks gap)
    (ht : EndsWord t) : Text.word? (trimStart (gap ++ (w ++ t))) = some (w, t) := by
  rw [trimStart_append hgap, trimStart,
    dropWhile_eq_self fun c hc ↦ isBlank_of_isWord (h.head? t c hc).1]
  exact word?_eq_some_iff.mpr ⟨rfl, h.ne_nil, h.isWord, ht⟩

theorem nextName?_comma {gap : Text} (hgap : Blanks gap) (t : Text) :
    nextName? (gap ++ ',' :: t) = word? (trimStart t) := by
  unfold nextName?
  rw [trimStart_append hgap]
  rfl

/-- A name is found behind a comma if and only if the list goes on. -/
theorem nextName?_eq_none_iff {t : Text} : nextName? t = none ↔ ¬ GoesOn t := by
  constructor
  · rintro h ⟨gap, gap', c, after, rfl, hgap, hgap', hc⟩
    rw [nextName?_comma hgap, trimStart_append hgap', trimStart, List.dropWhile_cons,
      if_neg (by simp [isBlank_of_isWord hc])] at h
    unfold word? at h
    rw [List.takeWhile_cons, if_pos hc] at h
    cases h
  · intro h
    cases hnext : nextName? t with
    | none => rfl
    | some p =>
      obtain ⟨u, hu, hw⟩ := Option.bind_eq_some_iff.mp hnext
      change word? (trimStart u) = some p at hw
      obtain ⟨hu', hne, hword, -⟩ := word?_eq_some_iff.mp hw
      obtain ⟨c, w, hcons⟩ := List.exists_cons_of_ne_nil hne
      obtain ⟨gap, hgap, hblanks⟩ := exists_blanks_append t
      obtain ⟨gap', hgap', hblanks'⟩ := exists_blanks_append u
      refine absurd ⟨gap, gap', c, w ++ p.2, ?_, hblanks, hblanks', hword c (by simp [hcons])⟩ h
      calc t = gap ++ trimStart t := hgap
        _ = gap ++ ([','] ++ u) := by rw [after?_eq_some_iff.mp hu]
        _ = gap ++ ',' :: (gap' ++ trimStart u) := by rw [← hgap']; rfl
        _ = gap ++ ',' :: (gap' ++ c :: (w ++ p.2)) := by rw [hu', hcons]; rfl

instance (t : Text) : Decidable (GoesOn t) :=
  decidable_of_iff (nextName? t ≠ none) (by simp [nextName?_eq_none_iff])

instance (t : Text) : Decidable (EndsNames t) :=
  decidable_of_iff (EndsWord t ∧ ¬ GoesOn t) ⟨fun ⟨h, hgo⟩ ↦ ⟨h, hgo⟩, fun ⟨h, hgo⟩ ↦ ⟨h, hgo⟩⟩

/-- Nothing is found behind a comma that is not there. -/
theorem nextName?_eq_none {t : Text} (h : ∀ c ∈ (trimStart t).head?, c ≠ ',') :
    nextName? t = none := by
  unfold nextName?
  cases ht : trimStart t with
  | nil => rfl
  | cons c u => simp [after?, (h c (by simp [ht])).symm]

theorem endsNames_of_trimStart {t : Text} (hword : EndsWord t)
    (h : ∀ c ∈ (trimStart t).head?, c ≠ ',') : EndsNames t :=
  ⟨hword, nextName?_eq_none_iff.mp (nextName?_eq_none h)⟩

theorem moreNames_of_none {t : Text} (h : nextName? t = none) : moreNames t = ([], t) := by
  rw [moreNames]
  split
  · rfl
  · rename_i hsome
    exact absurd (h.symm.trans hsome) (by simp)

theorem moreNames_of_some {t w rest : Text} (h : nextName? t = some (w, rest)) :
    moreNames t = (w :: (moreNames rest).1, (moreNames rest).2) := by
  rw [moreNames]
  split
  · rename_i hnone
    exact absurd (h.symm.trans hnone) (by simp)
  · rename_i w' rest' hsome
    obtain ⟨rfl, rfl⟩ := Prod.mk.inj (Option.some.inj (h.symm.trans hsome))
    rfl

/-- The names behind a comma are read as a list of their own. -/
theorem moreNames_comma {gap t : Text} {p : List Text × Text} (hgap : Blanks gap)
    (h : names? t = some p) : moreNames (gap ++ ',' :: t) = p := by
  obtain ⟨q, hq, rfl⟩ := Option.map_eq_some_iff.mp h
  exact moreNames_of_some ((nextName?_comma hgap t).trans hq)

/-- A list of names is read back whole.  The induction is on the list; behind the first name, the
rest of the list is what reading goes on with. -/
theorem names?_append {ws : List Text} {t : Text} (h : Lists ws t) {lead rest : Text}
    (hlead : Blanks lead) (hrest : EndsNames rest) :
    names? (lead ++ (t ++ rest)) = some (ws, rest) := by
  induction h generalizing lead with
  | @one w hw =>
    unfold names?
    rw [hw.word? hlead hrest.endsWord]
    simp [moreNames_of_none (nextName?_eq_none_iff.mpr hrest.not_goesOn)]
  | @more w gap gap' t ws hw hgap hgap' _ ih =>
    have hcomma : EndsWord (gap ++ ',' :: (gap' ++ (t ++ rest))) :=
      endsWord_blanks_append hgap (.inr (endsWord_cons.mpr (by decide)))
    have hword := hw.word? hlead hcomma
    have hmore := moreNames_comma hgap (ih hgap')
    unfold names?
    simp only [List.append_assoc, List.cons_append]
    rw [hword]
    simp [hmore]

/-! ## Clauses that declare -/

/-- The clause declares the names, in one of the three forms. -/
inductive Declares : Text → List Text → Prop
  /-- `a, b := ...` -/
  | short {lead t gap rest : Text} {ws : List Text} : Blanks lead → Lists ws t → Blanks gap →
      ';' ∉ rest → Declares (lead ++ (t ++ (gap ++ (":=".toList ++ rest)))) ws
  /-- `var a, b ...` and `const a, b ...` -/
  | keyword {lead word gap t rest : Text} {ws : List Text} : Blanks lead →
      word = "var".toList ∨ word = "const".toList → gap ≠ [] → Blanks gap → Lists ws t →
      EndsNames rest → ';' ∉ rest → Declares (lead ++ (word ++ (gap ++ (t ++ rest)))) ws
  /-- `type T ...` -/
  | type {lead gap w rest : Text} : Blanks lead → gap ≠ [] → Blanks gap → IsName w →
      EndsNames rest → ';' ∉ rest → Declares (lead ++ ("type".toList ++ (gap ++ (w ++ rest)))) [w]

/-- The words that begin the longer forms. -/
def keywords : List Text := ["var".toList, "const".toList, "type".toList]

theorem isName_of_mem_keywords : ∀ word ∈ keywords, IsName word := by decide

theorem mem_keywords_of_names {word : Text} (h : word = "var".toList ∨ word = "const".toList) :
    word ∈ keywords := by
  rcases h with rfl | rfl <;> decide

/-- A keyword is the first word of the text, and a blank stands behind it. -/
theorem keyword?_eq_some_iff {word t rest : Text} : keyword? word t = some rest ↔
    ∃ c, isBlank c = true ∧ trimStart t = word ++ c :: rest := by
  unfold keyword?
  constructor
  · intro h
    split at h
    · rename_i c u hafter
      split at h
      · rename_i hc
        obtain rfl := Option.some.inj h
        exact ⟨c, hc, after?_eq_some_iff.mp hafter⟩
      · cases h
    · cases h
  · rintro ⟨c, hc, ht⟩
    rw [after?_eq_some_iff.mpr ht]
    simp [hc]

section FirstWord

variable {t word behind : Text} (h : word? (trimStart t) = some (word, behind))

include h

/-- What stands behind the first word is neither one more name nor `:=`. -/
theorem shortNames?_eq_none (hnext : ∀ c ∈ (trimStart behind).head?, c ≠ ',' ∧ c ≠ ':') :
    shortNames? t = none := by
  have hmore := moreNames_of_none (nextName?_eq_none fun c hc ↦ (hnext c hc).1)
  have hassign : after? ":=".toList (trimStart behind) = none := by
    cases hbehind : trimStart behind with
    | nil => rfl
    | cons c u =>
      have hcolon := (hnext c (by simp [hbehind])).2
      simp [after?, hcolon.symm]
  have hnames : names? t = some ([word], behind) := by
    unfold names?
    rw [h]
    simp [hmore]
  unfold shortNames?
  rw [hnames, Option.bind_eq_bind, Option.bind_some]
  simp only [hassign]
  rfl

/-- A keyword that is found is the first word. -/
theorem eq_of_keyword?_eq_some {keyword rest : Text} (hkeyword : IsName keyword)
    (hk : keyword? keyword t = some rest) : keyword = word := by
  obtain ⟨c, hc, ht⟩ := keyword?_eq_some_iff.mp hk
  have hword : word? (trimStart t) = some (keyword, c :: rest) := by
    rw [ht]
    exact word?_eq_some_iff.mpr ⟨rfl, hkeyword.ne_nil, hkeyword.isWord,
      endsWord_cons.mpr (isWord_of_isBlank hc)⟩
  exact (Prod.mk.inj (Option.some.inj (hword.symm.trans h))).1

end FirstWord

theorem shortNames?_eq_some {lead t gap : Text} {ws : List Text} (hlead : Blanks lead)
    (ht : Lists ws t) (hgap : Blanks gap) (rest : Text) :
    shortNames? (lead ++ (t ++ (gap ++ (":=".toList ++ rest)))) = some ws := by
  have htrim : trimStart (gap ++ (":=".toList ++ rest)) = ":=".toList ++ rest :=
    trimStart_append hgap _
  have hrest : EndsNames (gap ++ (":=".toList ++ rest)) := by
    refine endsNames_of_trimStart (endsWord_blanks_append hgap (.inr ?_)) ?_
    · exact endsWord_cons.mpr (by decide)
    · rw [htrim]
      simp
  have hassign := after?_eq_some_iff.mpr (Eq.refl (":=".toList ++ rest))
  unfold shortNames?
  rw [names?_append ht hlead hrest, Option.bind_eq_bind, Option.bind_some]
  simp only [htrim, hassign]
  rfl

section Keyword

variable {lead word gap u : Text} (hlead : Blanks lead) (hword : word ∈ keywords)
  (hne : gap ≠ []) (hgap : Blanks gap)

include hlead hword hne hgap

theorem word?_keyword : word? (trimStart (lead ++ (word ++ (gap ++ u)))) = some (word, gap ++ u) :=
  (isName_of_mem_keywords word hword).word? hlead (endsWord_blanks_append hgap (.inl hne))

/-- A keyword is found at the beginning of a clause, and no other. -/
theorem keyword?_keyword : ∃ gap', Blanks gap' ∧ ∀ keyword ∈ keywords,
    keyword? keyword (lead ++ (word ++ (gap ++ u))) =
      if keyword = word then some (gap' ++ u) else none := by
  have hfirst := word?_keyword (u := u) hlead hword hne hgap
  obtain ⟨c, gap', rfl⟩ := List.exists_cons_of_ne_nil hne
  obtain ⟨hc, hgap'⟩ := List.forall_mem_cons.mp hgap
  refine ⟨gap', hgap', fun keyword hkeyword ↦ ?_⟩
  split
  · rename_i heq
    exact keyword?_eq_some_iff.mpr ⟨c, hc, heq ▸ (word?_eq_some_iff.mp hfirst).1⟩
  · rename_i hother
    refine Option.eq_none_iff_forall_ne_some.mpr fun rest hk ↦ hother ?_
    exact eq_of_keyword?_eq_some hfirst (isName_of_mem_keywords keyword hkeyword) hk

/-- A clause with a keyword before its first name is not read as the short form. -/
theorem shortNames?_keyword (hu : ∀ c ∈ u.head?, isWord c = true) :
    shortNames? (lead ++ (word ++ (gap ++ u))) = none := by
  refine shortNames?_eq_none (word?_keyword hlead hword hne hgap) ?_
  rw [trimStart_append hgap, trimStart,
    dropWhile_eq_self fun c hc ↦ isBlank_of_isWord (hu c hc)]
  exact fun c hc ↦ ⟨ne_of_isWord (hu c hc) (by decide), ne_of_isWord (hu c hc) (by decide)⟩

end Keyword

/-- A clause is read as what it declares. -/
theorem Declares.declared?_eq {t : Text} {ws : List Text} (h : Declares t ws) :
    declared? t = some ws := by
  unfold declared?
  cases h with
  | @short lead t gap rest _ hlead ht hgap _ =>
    rw [shortNames?_eq_some hlead ht hgap]
    rfl
  | @keyword lead word gap t rest _ hlead hword hne hgap ht hrest _ =>
    have hkeyword := mem_keywords_of_names hword
    obtain ⟨gap', hgap', hk⟩ := keyword?_keyword (u := t ++ rest) hlead hkeyword hne hgap
    have hread : (keyword? "var".toList (lead ++ (word ++ (gap ++ (t ++ rest)))) <|>
        keyword? "const".toList (lead ++ (word ++ (gap ++ (t ++ rest))))) =
          some (gap' ++ (t ++ rest)) := by
      rw [hk _ (by decide), hk _ (by decide)]
      rcases hword with rfl | rfl <;> rfl
    rw [shortNames?_keyword hlead hkeyword hne hgap (ht.head? rest)]
    unfold keywordNames?
    rw [hread, Option.bind_eq_bind, Option.bind_some, names?_append ht hgap' hrest]
    rfl
  | @type lead gap w rest hlead hne hgap hw hrest _ =>
    have hkeyword : "type".toList ∈ keywords := by decide
    obtain ⟨gap', hgap', hk⟩ := keyword?_keyword (u := w ++ rest) hlead hkeyword hne hgap
    have hother : (keyword? "var".toList (lead ++ ("type".toList ++ (gap ++ (w ++ rest)))) <|>
        keyword? "const".toList (lead ++ ("type".toList ++ (gap ++ (w ++ rest))))) = none := by
      rw [hk _ (by decide), hk _ (by decide)]
      rfl
    rw [shortNames?_keyword hlead hkeyword hne hgap fun c hc ↦ (hw.head? rest c hc).1]
    unfold keywordNames? typeName?
    rw [hother, hk _ hkeyword, if_pos rfl, Option.bind_eq_bind, Option.bind_eq_bind,
      Option.bind_some, hw.word? hgap' hrest.endsWord]
    rfl

/-- A declaring clause is no literal: behind blanks there stands a name or a keyword. -/
theorem Declares.exists_first {t : Text} {ws : List Text} (h : Declares t ws) :
    ∃ lead w after, t = lead ++ w ++ after ∧ Blanks lead ∧ IsName w := by
  cases h with
  | @short lead t gap rest _ hlead ht _ _ =>
    obtain ⟨w, _, after, -, rfl, hw, -⟩ := ht.exists_name
    exact ⟨lead, w, after ++ (gap ++ (":=".toList ++ rest)), by simp, hlead, hw⟩
  | @keyword lead word gap t rest _ hlead hword _ _ _ _ _ =>
    have hkeyword := mem_keywords_of_names hword
    exact ⟨lead, word, _, (List.append_assoc ..).symm, hlead, isName_of_mem_keywords word hkeyword⟩
  | @type lead gap w rest hlead _ _ _ _ _ =>
    exact ⟨lead, _, _, (List.append_assoc ..).symm, hlead, isName_of_mem_keywords _ (by decide)⟩

theorem Declares.isCandidate {t : Text} {ws : List Text} (h : Declares t ws) :
    Token.isCandidate t.trim = true := by
  obtain ⟨lead, w, after, rfl, hlead, hw⟩ := h.exists_first
  have hnone : lead.dropWhile isBlank = [] := List.dropWhile_eq_nil_iff.mpr hlead
  unfold trim
  rw [strip_gap_append hw.ne_nil fun c hc ↦ isBlank_of_isWord (hw.isWord c hc), hnone,
    List.nil_append]
  obtain ⟨c, w', rfl⟩ := List.exists_cons_of_ne_nil hw.ne_nil
  have hc := hw.isWord c List.mem_cons_self
  have hquote : c ≠ '"' ∧ c ≠ '\'' := ⟨ne_of_isWord hc (by decide), ne_of_isWord hc (by decide)⟩
  simp [Token.isCandidate, hquote, hw.first c rfl]

theorem IsName.semicolon_notMem {w : Text} (h : IsName w) : ';' ∉ w :=
  fun hmem ↦ absurd (h.isWord ';' hmem) (by decide)

theorem Lists.semicolon_notMem {ws : List Text} {t : Text} (h : Lists ws t) : ';' ∉ t := by
  induction h with
  | one hw => exact hw.semicolon_notMem
  | more hw hgap hgap' _ ih =>
    simp [hw.semicolon_notMem, hgap.semicolon_notMem, hgap'.semicolon_notMem, ih]

theorem Declares.semicolon_notMem {t : Text} {ws : List Text} (h : Declares t ws) : ';' ∉ t := by
  cases h with
  | short hlead ht hgap hrest =>
    simp [hlead.semicolon_notMem, ht.semicolon_notMem, hgap.semicolon_notMem, hrest]
  | @keyword lead word gap t rest _ hlead hword _ hgap ht _ hrest =>
    have hkeyword : ';' ∉ word := by rcases hword with rfl | rfl <;> decide
    simp [hlead.semicolon_notMem, hkeyword, hgap.semicolon_notMem, ht.semicolon_notMem, hrest]
  | type hlead _ hgap hw _ hrest =>
    simp [hlead.semicolon_notMem, hgap.semicolon_notMem, hw.semicolon_notMem, hrest]

/-! ## Lines of clauses -/

/-- A clause of its own that declares nothing: no literal, no declaration and no batch. -/
structure DeclaresNothing (t : Text) : Prop where
  ne_nil : t.trim ≠ []
  first : ∀ c ∈ t.trim.head?, c ≠ '"' ∧ c ≠ '\'' ∧ isDigit c = false
  semicolon_notMem : ';' ∉ t
  not_short : shortNames? t = none
  not_keyword : keywordNames? t = none
  not_type : typeName? t = none
  not_opensBatch : opensBatch t = false

theorem isCandidate_iff {t : Text} : Token.isCandidate t = true ↔
    t ≠ [] ∧ ∀ c ∈ t.head?, c ≠ '"' ∧ c ≠ '\'' ∧ isDigit c = false := by
  cases t with
  | nil => simp [Token.isCandidate]
  | cons c t => simp [Token.isCandidate, and_assoc]

theorem declaresNothing_iff {t : Text} : DeclaresNothing t ↔
    Token.isCandidate t.trim = true ∧ ';' ∉ t ∧ shortNames? t = none ∧ keywordNames? t = none ∧
      typeName? t = none ∧ opensBatch t = false := by
  rw [isCandidate_iff]
  exact ⟨fun ⟨h, hf, hs, h1, h2, h3, hb⟩ ↦ ⟨⟨h, hf⟩, hs, h1, h2, h3, hb⟩,
    fun ⟨⟨h, hf⟩, hs, h1, h2, h3, hb⟩ ↦ ⟨h, hf, hs, h1, h2, h3, hb⟩⟩

instance (t : Text) : Decidable (DeclaresNothing t) := decidable_of_iff _ declaresNothing_iff.symm

theorem DeclaresNothing.isCandidate {t : Text} (h : DeclaresNothing t) :
    Token.isCandidate t.trim = true :=
  (declaresNothing_iff.mp h).1

theorem DeclaresNothing.declared?_eq {t : Text} (h : DeclaresNothing t) : declared? t = none := by
  unfold declared?
  rw [h.not_short, h.not_keyword, h.not_type]
  rfl

theorem ofLine_append (s t : Text) : ofLine (s ++ ';' :: t) = ofLine s ++ ofLine t := by
  unfold ofLine
  rw [List.splitOn_append_cons_self, List.filter_append]

theorem ofLine_eq_singleton {t : Text} (hs : ';' ∉ t) (h : Token.isCandidate t.trim = true) :
    ofLine t = [t] := by
  unfold ofLine
  rw [List.splitOn_eq_singleton hs]
  simp [h]

/-- The clauses of a line come apart again. -/
theorem ofLine_intercalate {clauses : List Text} (hne : clauses ≠ [])
    (h : ∀ t ∈ clauses, ';' ∉ t ∧ Token.isCandidate t.trim = true) :
    ofLine ([';'].intercalate clauses) = clauses := by
  unfold ofLine
  rw [List.splitOn_intercalate ';' (fun t ht ↦ (h t ht).1) hne]
  exact List.filter_eq_self.mpr fun t ht ↦ (h t ht).2

end Clause

namespace Fragment

open Clause Text

/-- A line has no entries, so its names are those of its clauses. -/
theorem declaredNames_ofLine (line : Text) : (ofLine line).declaredNames =
    (Clause.ofLine line).flatMap fun clause ↦ (declared? clause).getD [] := by
  unfold declaredNames batchNames clauseNames
  simp [ofLine, Body.entryOpeners, Body.ownLines]

/-- A clause by itself declares its names. -/
theorem declaredNames_of_declares {clause : Text} {ws : List Text} (h : Declares clause ws) :
    (ofLine clause).declaredNames = ws := by
  rw [declaredNames_ofLine, ofLine_eq_singleton h.semicolon_notMem h.isCandidate]
  simp [h.declared?_eq]

theorem isDeclaration_ofLine (line : Text) : (ofLine line).isDeclaration =
    ((line.splitOn ';').getLast?.any opensBatch ||
      (Clause.ofLine line).getLast?.any fun clause ↦ (declared? clause).isSome) := rfl

section Clauses

variable {clauses : List (Text × List Text)} (h : ∀ p ∈ clauses, Declares p.1 p.2)

include h

theorem ofLine_clauses (hne : clauses ≠ []) :
    Clause.ofLine ([';'].intercalate (clauses.map Prod.fst)) = clauses.map Prod.fst := by
  refine ofLine_intercalate (by simpa using hne) fun t ht ↦ ?_
  obtain ⟨p, hp, rfl⟩ := List.mem_map.mp ht
  exact ⟨(h p hp).semicolon_notMem, (h p hp).isCandidate⟩

theorem flatMap_declared? : (clauses.map Prod.fst).flatMap (fun t ↦ (declared? t).getD []) =
    clauses.flatMap Prod.snd := by
  rw [List.flatMap_map]
  exact List.flatMap_congr fun p hp ↦ by rw [(h p hp).declared?_eq]; rfl

/-- A line of declaring clauses is a declaration, and its names are theirs, clause by clause.  One
more clause that declares nothing leaves the names as they are, and makes the line a use. -/
theorem declaredNames_ofClauses (hne : clauses ≠ []) :
    let line := [';'].intercalate (clauses.map Prod.fst)
    (ofLine line).isDeclaration = true ∧
    (ofLine line).declaredNames = clauses.flatMap Prod.snd ∧
    ∀ extra, DeclaresNothing extra →
      (ofLine (line ++ ';' :: extra)).declaredNames = clauses.flatMap Prod.snd ∧
      (ofLine (line ++ ';' :: extra)).isDeclaration = false := by
  intro line
  have hclauses : Clause.ofLine line = clauses.map Prod.fst := ofLine_clauses h hne
  refine ⟨?_, ?_, fun extra hextra ↦ ?_⟩
  · rw [isDeclaration_ofLine, hclauses, List.getLast?_map, List.getLast?_eq_some_getLast hne]
    simp [(h _ (List.getLast_mem hne)).declared?_eq]
  · rw [declaredNames_ofLine, hclauses, flatMap_declared? h]
  · have happend := (ofLine_append line extra).trans (congrArg₂ (· ++ ·) hclauses
      (ofLine_eq_singleton hextra.semicolon_notMem hextra.isCandidate))
    constructor
    · rw [declaredNames_ofLine, happend, List.flatMap_append, flatMap_declared? h]
      simp [hextra.declared?_eq]
    · have hbatch : ((line ++ ';' :: extra).splitOn ';').getLast? = some extra := by
        rw [List.splitOn_append_cons_self, List.splitOn_eq_singleton hextra.semicolon_notMem]
        simp
      rw [isDeclaration_ofLine, happend, hbatch]
      simp [hextra.not_opensBatch, hextra.declared?_eq]

end Clauses

/-- The three forms on one line, with a tab, a wide space and no space where one may stand; behind
them, `a` is used. -/
theorem declaredNames_ofClauses_forms :
    let clauses : List (Text × List Text) :=
      [("\ta ,\u2003b:= f(1)".toList, ["a".toList, "b".toList]),
        ("const c, d = 2, 3".toList, ["c".toList, "d".toList]),
        (" type T []int".toList, ["T".toList])]
    let line := [';'].intercalate (clauses.map Prod.fst)
    (∀ p ∈ clauses, Declares p.1 p.2) ∧ clauses ≠ [] ∧ DeclaresNothing " a++".toList ∧
      line = "\ta ,\u2003b:= f(1);const c, d = 2, 3; type T []int".toList ∧
      (ofLine line).isDeclaration = true ∧
      (ofLine line).declaredNames = ["a", "b", "c", "d", "T"].map String.toList ∧
      (ofLine (line ++ ';' :: " a++".toList)).isDeclaration = false := by
  intro clauses line
  have ha : Lists ["a".toList, "b".toList] "a ,\u2003b".toList :=
    @Lists.more ['a'] [' '] ['\u2003'] _ _ (by decide) (by decide) (by decide)
      (@Lists.one ['b'] (by decide))
  have hc : Lists ["c".toList, "d".toList] "c, d".toList :=
    @Lists.more ['c'] [] [' '] _ _ (by decide) (by decide) (by decide)
      (@Lists.one ['d'] (by decide))
  have hclauses : ∀ p ∈ clauses, Declares p.1 p.2 := by
    refine List.forall_mem_cons.mpr
      ⟨?_, List.forall_mem_cons.mpr ⟨?_, List.forall_mem_singleton.mpr ?_⟩⟩
    · exact @Declares.short ['\t'] _ [] " f(1)".toList _ (by decide) ha (by decide) (by decide)
    · exact @Declares.keyword [] "const".toList [' '] _ " = 2, 3".toList _ (by decide) (.inr rfl)
        (by decide) (by decide) hc (by decide) (by decide)
    · exact @Declares.type [' '] [' '] ['T'] " []int".toList (by decide) (by decide) (by decide)
        (by decide) (by decide) (by decide)
  have hextra : DeclaresNothing " a++".toList := by decide +kernel
  obtain ⟨hdeclaration, hnames, hmore⟩ := declaredNames_ofClauses hclauses (by decide)
  exact ⟨hclauses, by decide, hextra, by decide, hdeclaration, hnames, (hmore _ hextra).2⟩

end Fragment
end GoRepl
