import Mathlib.Data.List.TakeWhile
import GoRepl.ImportSpec
import GoRepl.Proofs.Trimming

/-!
# Imports that are read again

A spec that has been read survives being written: the text of it reads as the same spec, whatever
blanks stand before it and whatever commas and blanks after it, and so it goes on however often
(`ImportSpec.render_reads_back`).

Reading takes blanks, commas and blanks again off the ends of a text and cuts it at its last blank.
Quotes are taken off the path alone.  What this leaves is a path without blanks and without quotes
at its ends, under a name that is trimmed but may hold blanks, quotes and commas of its own
(`ImportSpec.IsReadable`).  Such a spec is written with a quote at its end, so no comma of the path
is taken for one that follows, and its last blank is the one before the path.  So the specs that are
read from any text are those that are read from their own (`ImportSpec.parse?_render_eq_some_iff`).
-/

namespace GoRepl

/-! ## The last word -/

namespace Text

variable {p : Char → Bool}

theorem cutAtLast?_eq_none_iff {t : Text} :
    cutAtLast? p t = none ↔ ∀ c ∈ t, p c = false := by
  unfold cutAtLast?
  split
  · rename_i h
    simpa using List.dropWhile_eq_nil_iff.mp h
  · rename_i c before h
    have hc : c ∈ t := by
      rw [← List.mem_reverse]
      exact (List.dropWhile_suffix _).subset (h ▸ List.mem_cons_self)
    have hp := forall_head?_dropWhile (!p ·) t.reverse c (by rw [h]; rfl)
    simp only [reduceCtorEq, false_iff]
    intro hall
    simp [hall c hc] at hp

theorem cutAtLast?_eq_some_iff {t before word : Text} :
    cutAtLast? p t = some (before, word) ↔
      ∃ c, p c = true ∧ t = before ++ c :: word ∧ ∀ d ∈ word, p d = false := by
  unfold cutAtLast?
  constructor
  · intro h
    split at h
    · cases h
    · rename_i c rest hrest
      obtain ⟨rfl, rfl⟩ := Prod.mk.inj (Option.some.inj h)
      refine ⟨c, ?_, ?_, fun d hd ↦ ?_⟩
      · simpa using forall_head?_dropWhile (!p ·) t.reverse c (by rw [hrest]; rfl)
      · calc t = (t.reverse.takeWhile (!p ·) ++ c :: rest).reverse := by
              rw [← hrest, List.takeWhile_append_dropWhile, List.reverse_reverse]
          _ = rest.reverse ++ c :: (t.reverse.takeWhile (!p ·)).reverse := by simp
      · simpa using forall_mem_takeWhile (!p ·) _ d (List.mem_reverse.mp hd)
  · rintro ⟨c, hc, rfl, hword⟩
    have hreverse : (before ++ c :: word).reverse = word.reverse ++ c :: before.reverse := by simp
    have hpos : ∀ d ∈ word.reverse, (!p d) = true := by simpa using hword
    rw [hreverse, List.dropWhile_append_of_pos hpos, List.takeWhile_append_of_pos hpos]
    simp [hc]

end Text

namespace ImportSpec

/-! ## What can be read -/

/-- What reading leaves of a path and a name.  Of a name nothing is taken but the blanks around
it. -/
structure IsReadable (spec : ImportSpec) : Prop where
  path_ne_nil : spec.path ≠ []
  path_unbroken : ∀ c ∈ spec.path, Text.isBlank c = false
  path_unquoted : Text.strip isQuote spec.path = spec.path
  name_ne_nil : ∀ name, spec.localName = some name → name ≠ []
  name_trimmed : ∀ name, spec.localName = some name → name.trim = name

theorem IsReadable.of_parse? {t : Text} {spec : ImportSpec} (h : parse? t = some spec) :
    spec.IsReadable := by
  unfold parse? at h
  simp only at h
  generalize (Text.dropEndWhile (· == ',') t.trim).trim = words at h
  have hword : ∀ c ∈ ((Text.cutAtLast? Text.isBlank words).getD ([], words)).2,
      Text.isBlank c = false := by
    cases hcut : Text.cutAtLast? Text.isBlank words with
    | none => exact Text.cutAtLast?_eq_none_iff.mp hcut
    | some cut =>
      obtain ⟨-, -, -, hword⟩ := Text.cutAtLast?_eq_some_iff.mp hcut
      exact hword
  generalize (Text.cutAtLast? Text.isBlank words).getD ([], words) = cut at h hword
  split at h
  · cases h
  · rename_i hpath
    obtain rfl := Option.some.inj h
    have hname : ∀ name, (if cut.1.trim = [] then none else some cut.1.trim) = some name →
        name = cut.1.trim ∧ name ≠ [] := by
      intro name hname
      split at hname
      · cases hname
      · obtain rfl := Option.some.inj hname
        exact ⟨rfl, ‹_›⟩
    exact {
      path_ne_nil := hpath
      path_unbroken := fun c hc ↦ hword c (Text.mem_of_mem_strip hc)
      path_unquoted := Text.strip_strip ..
      name_ne_nil := fun name h ↦ (hname name h).2
      name_trimmed := fun name h ↦ by rw [(hname name h).1, Text.trim_trim] }

/-! ## What is written -/

/-- The path as it is written. -/
def quoted (spec : ImportSpec) : Text := '"' :: (spec.path ++ ['"'])

/-- What is written before the path. -/
def lead (spec : ImportSpec) : Text := spec.localName.elim [] (· ++ [' '])

theorem render_eq (spec : ImportSpec) : spec.render = spec.lead ++ spec.quoted := by
  obtain ⟨_ | name, path⟩ := spec <;> simp [render, lead, quoted]

theorem getLast?_render (spec : ImportSpec) : spec.render.getLast? = some '"' := by
  rw [render_eq, quoted, ← List.cons_append, ← List.append_assoc, List.getLast?_concat]

namespace IsReadable

variable {spec : ImportSpec} (h : spec.IsReadable)

include h

theorem quoted_unbroken : ∀ c ∈ spec.quoted, Text.isBlank c = false := by
  intro c hc
  rw [quoted, List.mem_cons, List.mem_append, List.mem_singleton] at hc
  rcases hc with rfl | hc | rfl
  · decide
  · exact h.path_unbroken c hc
  · decide

theorem strip_quoted : Text.strip isQuote spec.quoted = spec.path := by
  have hquote : ∀ c ∈ ['"'], isQuote c = true := by simp [isQuote]
  exact (Text.strip_between hquote hquote).trans h.path_unquoted

theorem trim_render : spec.render.trim = spec.render := by
  refine Text.strip_eq_self_iff.mpr ⟨fun c hc ↦ ?_, fun c hc ↦ ?_⟩
  · rw [render_eq, lead] at hc
    cases hlocal : spec.localName with
    | none =>
      rw [hlocal] at hc
      exact h.quoted_unbroken c (List.mem_of_mem_head? hc)
    | some name =>
      obtain ⟨a, rest, rfl⟩ := List.exists_cons_of_ne_nil (h.name_ne_nil name hlocal)
      rw [hlocal] at hc
      exact (Text.strip_eq_self_iff.mp (h.name_trimmed _ hlocal)).1 c hc
  · rw [getLast?_render] at hc
    obtain rfl := Option.some.inj hc
    decide

/-- The last word that is written is the path. -/
theorem cutAtLast?_render :
    (Text.cutAtLast? Text.isBlank spec.render).getD ([], spec.render) =
      (spec.localName.getD [], spec.quoted) := by
  rw [render_eq, lead]
  cases spec.localName with
  | none =>
    rw [Option.elim_none, List.nil_append,
      Text.cutAtLast?_eq_none_iff.mpr h.quoted_unbroken]
    rfl
  | some name =>
    have hcut : Text.cutAtLast? Text.isBlank (name ++ [' '] ++ spec.quoted) =
        some (name, spec.quoted) :=
      Text.cutAtLast?_eq_some_iff.mpr ⟨' ', by decide, by simp, h.quoted_unbroken⟩
    rw [Option.elim_some, hcut]
    rfl

end IsReadable

/-- Reading is the inverse of writing on the specs that can be read, and on no others. -/
theorem parse?_render_eq_some_iff {spec : ImportSpec} :
    parse? spec.render = some spec ↔ spec.IsReadable := by
  refine ⟨IsReadable.of_parse?, fun h ↦ ?_⟩
  have hstays : ∀ c ∈ spec.render.getLast?, (c == ',') = false := by
    intro c hc
    rw [getLast?_render] at hc
    obtain rfl := Option.some.inj hc
    decide
  unfold parse?
  simp only [h.trim_render, Text.dropEndWhile_eq_self hstays, h.cutAtLast?_render, h.strip_quoted,
    if_neg h.path_ne_nil]
  obtain ⟨_ | name, path⟩ := spec
  · rfl
  · simp [h.name_trimmed name rfl, h.name_ne_nil name rfl]

example : parse? (render ⟨none, "math rand".toList⟩) =
    some ⟨some "\"math".toList, "rand".toList⟩ := by decide

theorem IsReadable.render_inj {a b : ImportSpec} (ha : a.IsReadable) (hb : b.IsReadable) :
    a.render = b.render ↔ a = b := by
  refine ⟨fun h ↦ Option.some.inj ?_, congrArg render⟩
  calc some a = parse? a.render := (parse?_render_eq_some_iff.mpr ha).symm
    _ = parse? b.render := by rw [h]
    _ = some b := parse?_render_eq_some_iff.mpr hb

/-! ## What stands around an import -/

/-- Blanks before an import, and commas and then blanks after it. -/
structure Margin where
  before : Text
  commas : Nat
  after : Text
  before_blank : ∀ c ∈ before, Text.isBlank c = true
  after_blank : ∀ c ∈ after, Text.isBlank c = true

def Margin.around (m : Margin) (t : Text) : Text :=
  m.before ++ t ++ List.replicate m.commas ',' ++ m.after

/-- Commas behind a trimmed text leave it trimmed. -/
theorem trim_append_commas {t : Text} (h : t.trim = t) (n : Nat) :
    (t ++ List.replicate n ',').trim = t ++ List.replicate n ',' := by
  have hcomma : ∀ c ∈ List.replicate n ',', Text.isBlank c = false := by
    intro c hc
    obtain rfl := List.eq_of_mem_replicate hc
    decide
  obtain ⟨hhead, hlast⟩ := Text.strip_eq_self_iff.mp h
  refine Text.strip_eq_self_iff.mpr ⟨fun c hc ↦ ?_, fun c hc ↦ ?_⟩
  · rw [List.head?_append, Option.mem_def, Option.or_eq_some_iff] at hc
    rcases hc with hc | ⟨-, hc⟩
    · exact hhead c hc
    · exact hcomma c (List.mem_of_mem_head? hc)
  · rw [List.getLast?_append, Option.mem_def, Option.or_eq_some_iff] at hc
    rcases hc with hc | ⟨-, hc⟩
    · exact hcomma c (List.mem_of_mem_getLast? hc)
    · exact hlast c hc

/-- What stands around a trimmed text is not read. -/
theorem parse?_around {t : Text} (h : t.trim = t) (m : Margin) :
    parse? (m.around t) = parse? t := by
  have hblanks : (m.around t).trim = t ++ List.replicate m.commas ',' := by
    rw [← trim_append_commas h m.commas, Margin.around, List.append_assoc m.before]
    exact Text.strip_between m.before_blank m.after_blank
  have hcommas : ∀ c ∈ List.replicate m.commas ',', (c == ',') = true :=
    fun c hc ↦ beq_iff_eq.mpr (List.eq_of_mem_replicate hc)
  unfold parse?
  rw [hblanks, h, Text.dropEndWhile_append_of_pos hcommas]

theorem IsReadable.parse?_around_render {spec : ImportSpec} (h : spec.IsReadable) (m : Margin) :
    parse? (m.around spec.render) = some spec := by
  rw [parse?_around h.trim_render, parse?_render_eq_some_iff.mpr h]

/-! ## Reading and writing in turn -/

/-- The text of an import that is read and written again, within the first margin, then within the
second, and so on. -/
def respell? : List Margin → Text → Option Text
  | [], t => some t
  | m :: margins, t => (parse? t).bind fun spec => respell? margins (m.around spec.render)

/-- The induction is on the margins: what is written within the first one reads as the same spec. -/
theorem exists_respell? {t : Text} {spec : ImportSpec} (h : parse? t = some spec)
    (margins : List Margin) : ∃ u, respell? margins t = some u ∧ parse? u = some spec := by
  induction margins generalizing t with
  | nil => exact ⟨t, rfl, h⟩
  | cons m margins ih =>
    obtain ⟨u, hu, hread⟩ := ih ((IsReadable.of_parse? h).parse?_around_render m)
    refine ⟨u, ?_, hread⟩
    rw [respell?, h]
    exact hu

/-- A spec that has been read from some text is read again from what is written of it, also with
blanks before and with commas and then blanks after it.  However often it is read and written in
turn, and within whatever margins, what is written last still reads as the same spec, and so it has
the same path, the same local name and the same identifier.  What is read as another spec is written
otherwise. -/
theorem render_reads_back {t : Text} {spec : ImportSpec} (h : parse? t = some spec) :
    parse? spec.render = some spec ∧
    (∀ m : Margin, parse? (m.around spec.render) = some spec) ∧
    (∀ margins : List Margin, ∃ u, respell? margins t = some u ∧ parse? u = some spec) ∧
    ∀ t' spec', parse? t' = some spec' → spec' ≠ spec → spec'.render ≠ spec.render := by
  have hread := IsReadable.of_parse? h
  refine ⟨parse?_render_eq_some_iff.mpr hread, hread.parse?_around_render, exists_respell? h, ?_⟩
  intro t' spec' h' hne heq
  exact hne (((IsReadable.of_parse? h').render_inj hread).mp heq)

/-- A name with a blank, quotes and a comma of its own, and a path in quotes of two kinds. -/
theorem render_reads_back_inner_quotes :
    let t := " my \"own\", \t`\"math/rand`\",,\u00a0\n".toList
    let spec : ImportSpec := ⟨some "my \"own\",".toList, "math/rand".toList⟩
    let plain : ImportSpec := ⟨some "my".toList, "math/rand".toList⟩
    let m : Margin := ⟨['\t'], 2, ['\u2003', '\n'], List.all_eq_true.mp (by decide),
      List.all_eq_true.mp (by decide)⟩
    parse? t = some spec ∧ parse? spec.render = some spec ∧
      parse? (m.around spec.render) = some spec ∧
      (∃ u, respell? [m, m] t = some u ∧ parse? u = some spec) ∧
      parse? "my math/rand,".toList = some plain ∧ plain.render ≠ spec.render := by
  intro t spec plain m
  have ht : parse? t = some spec := by decide
  have hplain : parse? "my math/rand,".toList = some plain := by decide
  obtain ⟨hself, haround, hrespell, hother⟩ := render_reads_back ht
  exact ⟨ht, hself, haround m, hrespell [m, m], hplain, hother _ plain hplain (by decide)⟩

end ImportSpec
end GoRepl
