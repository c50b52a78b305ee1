import GoRepl.Proofs.Selection

/-!
# What the emission covers

Two questions about the statements of a program, asked of every workspace that storing statements
and taking them back can lead to.

* Is every variable declared that one of them mentions?  For the pinned statement and for
  declarations it is.  An earlier use is replayed for the sake of one variable it mentions, and the
  selection does not go on from its other variables (`emission_closed`,
  `replayed_use_not_closed`).
* Is every declaration used?  Some name of it is, by another statement of the program.  A
  declaration of several names is kept for the sake of any of them, whatever becomes of the rest
  (`emitted_declaration_used`, `second_name_unused`).
-/

namespace GoRepl.Workspace

/-- A workspace in which the given lines have been stored as statements. -/
def ofLines (lines : List String) : Workspace :=
  lines.foldl (fun w line ↦ w.add (.ofLine line.toList)) {}

theorem edited_ofLines (lines : List String) : Edited {} (ofLines lines) := by
  suffices h : ∀ w, Edited {} w →
      Edited {} (lines.foldl (fun w line ↦ w.add (.ofLine line.toList)) w) from h {} .start
  induction lines with
  | nil => exact fun w hw ↦ hw
  | cons line lines ih => exact fun w hw ↦ ih _ (hw.add _)

section Edited

variable {start w : Workspace} {f : Fragment}

/-! ## Variables that the program mentions -/

/-- The pinned statement and the declarations of the program mention no variable whose declaration
is left out.  For a use that is replayed the declarations in the program are those that own a
variable which the pinned statement depends on, and at least one of the variables it mentions has
such an owner. -/
theorem emission_closed (hs : start.Bare) (hw : Edited start w) (hf : w.pinnedFragment? = some f)
    {e d : Entry} {n : Text} (he : w.Emits e) (hd : w.Owns d n)
    (href : e.fragment.references n = true) :
    ((w.pinned = some e.id ∨ e.declares = true) → w.Emits d) ∧
    ((w.pinned ≠ some e.id ∧ e.declares = false) →
      (w.Emits d ↔ ∃ m, w.Owns d m ∧ w.DependsOn f m) ∧
      ∃ m c, w.Owns c m ∧ c.id ≤ e.id ∧ e.fragment.references m = true ∧ w.Emits c) := by
  have hwf := hw.wellFormed hs
  obtain ⟨p, hp, hpin, rfl, hpd⟩ := hwf.pinnedEntry hf
  have hiff : ∀ {c}, w.Emits c ↔ c ∈ w.entries ∧ w.Needs p c :=
    emits_iff hwf (hw.isCurrent hs) hp hpin
  have hneed := (hiff.mp he).2
  constructor
  · rintro (hep | hdecl)
    · obtain rfl : e = p :=
        hwf.stacked.eq_of_id_eq he.1 hp (Option.some.inj (hep.symm.trans hpin))
      exact hiff.mpr ⟨hd.1, .owner hd (.references hd href)⟩
    · obtain ⟨m, hm, hdep⟩ := hneed.of_declares hpd hdecl
      exact hiff.mpr ⟨hd.1, .owner hd (.through hdep hm href hd)⟩
  · rintro ⟨hep, hdecl⟩
    refine ⟨⟨fun h ↦ (hiff.mp h).2.of_declares hpd (hd.declares hwf).1, ?_⟩, ?_⟩
    · rintro ⟨m, hm, hdep⟩
      exact hiff.mpr ⟨hd.1, .owner hm hdep⟩
    · cases hneed with
      | pinned h => exact absurd (h ▸ hpin) hep
      | owner hown => exact absurd (hown.declares hwf).1 (by simp [hdecl])
      | user _ hc hdep hce hrefs =>
        exact ⟨_, _, hc, hce, hrefs, hiff.mpr ⟨hc.1, .owner hc hdep⟩⟩

theorem emission_closed_chain :
    let w := ofLines ["c := 2", "a := 1", "b := a + 1", "fmt.Println(b)"]
    let a : Entry := ⟨1, .ofLine "a := 1".toList, true, none, [(['a'], none)]⟩
    let b : Entry := ⟨2, .ofLine "b := a + 1".toList, true, none, [(['b'], none)]⟩
    Edited {} w ∧ w.pinnedFragment? = some (.ofLine "fmt.Println(b)".toList) ∧ w.Emits b ∧
      w.Owns a ['a'] ∧ b.fragment.references ['a'] = true ∧ w.Emits a := by
  intro w a b
  have hf : w.pinnedFragment? = some (.ofLine "fmt.Println(b)".toList) := by decide +kernel
  have hb : w.Emits b := by decide +kernel
  have ha : w.Owns a ['a'] := by decide +kernel
  have href : b.fragment.references ['a'] = true := by decide +kernel
  exact ⟨edited_ofLines _, hf, hb, ha, href,
    (emission_closed bare_empty (edited_ofLines _) hf hb ha href).1 (.inr rfl)⟩

/-- The assignment is replayed because it mentions `a`.  It mentions `b` as well, which was declared
before it, and the declaration of `b` is left out. -/
theorem replayed_use_not_closed :
    let w := ofLines ["a := 1", "b := 2", "a = b", "fmt.Println(a)"]
    let b : Entry := ⟨1, .ofLine "b := 2".toList, true, none, [(['b'], none)]⟩
    let assignment : Entry := ⟨2, .ofLine "a = b".toList, false, none, []⟩
    Edited {} w ∧ w.pinnedFragment?.isSome = true ∧ w.Emits assignment ∧ w.Owns b ['b'] ∧
      b.id ≤ assignment.id ∧ assignment.fragment.references ['b'] = true ∧ ¬ w.Emits b := by
  refine ⟨edited_ofLines _, ?_⟩
  decide +kernel

/-! ## Declarations that the program uses -/

/-- Whoever owns a variable that the pinned statement depends on owns one that the pinned
statement, or another declaration of the program, references.  The induction follows the chain of
references back to its first variable with this owner. -/
theorem DependsOn.exists_user (hw : w.WellFormed) {p d : Entry} {n : Text}
    (h : w.DependsOn p.fragment n) (hp : p ∈ w.entries) (hpd : p.declares = false)
    (hd : w.Owns d n) :
    ∃ m, w.Owns d m ∧ ∃ e ∈ w.entries, w.Needs p e ∧ e ≠ d ∧ (e = p ∨ e.declares = true) ∧
      e.fragment.references m = true := by
  induction h generalizing d with
  | references _ href =>
    refine ⟨_, hd, p, hp, .pinned rfl, ?_, .inl rfl, href⟩
    rintro rfl
    exact absurd (hd.declares hw).1 (by simp [hpd])
  | @through m n c _ hdep hc href _ ih =>
    by_cases hcd : c = d
    · exact ih (hcd ▸ hc)
    · exact ⟨n, hd, c, hc.1, .owner hc hdep, hcd, .inr (hc.declares hw).1, href⟩

/-- Each declaration of the program owns a name that the pinned statement or another declaration of
the program references.  If it declares one name only, that name is used. -/
theorem emitted_declaration_used (hs : start.Bare) (hw : Edited start w)
    (hf : w.pinnedFragment? = some f) {d : Entry} (hd : w.Emits d) (hdecl : d.declares = true) :
    (∃ n ∈ d.fragment.declaredNames, w.Owns d n ∧ ∃ e, w.Emits e ∧ e ≠ d ∧
      (w.pinned = some e.id ∨ e.declares = true) ∧ e.fragment.references n = true) ∧
    ∀ n, (∀ m ∈ d.fragment.declaredNames, m = n) →
      ∃ e, w.Emits e ∧ e ≠ d ∧ e.fragment.references n = true := by
  have hwf := hw.wellFormed hs
  obtain ⟨p, hp, hpin, rfl, hpd⟩ := hwf.pinnedEntry hf
  have hiff : ∀ {c}, w.Emits c ↔ c ∈ w.entries ∧ w.Needs p c :=
    emits_iff hwf (hw.isCurrent hs) hp hpin
  obtain ⟨n₀, hn₀, hdep⟩ := (hiff.mp hd).2.of_declares hpd hdecl
  obtain ⟨m, hm, e, he, hneed, hne, hkind, href⟩ := hdep.exists_user hwf hp hpd hn₀
  have hem : w.Emits e := hiff.mpr ⟨he, hneed⟩
  constructor
  · refine ⟨m, (hm.declares hwf).2, hm, e, hem, hne, hkind.imp_left fun h ↦ ?_, href⟩
    rw [hpin, h]
  · intro n hall
    exact ⟨e, hem, hne, hall m (hm.declares hwf).2 ▸ href⟩

theorem emitted_declaration_used_pair :
    let w := ofLines ["x, y := 1, 2", "z := x", "fmt.Println(z)"]
    let d : Entry := ⟨0, .ofLine "x, y := 1, 2".toList, true, none, [(['y'], none), (['x'], none)]⟩
    Edited {} w ∧ w.pinnedFragment? = some (.ofLine "fmt.Println(z)".toList) ∧ w.Emits d ∧
      d.declares = true ∧ ∃ n ∈ d.fragment.declaredNames, w.Owns d n ∧ ∃ e, w.Emits e ∧ e ≠ d ∧
        (w.pinned = some e.id ∨ e.declares = true) ∧ e.fragment.references n = true := by
  intro w d
  have hf : w.pinnedFragment? = some (.ofLine "fmt.Println(z)".toList) := by decide +kernel
  have hd : w.Emits d := by decide +kernel
  exact ⟨edited_ofLines _, hf, hd, rfl,
    (emitted_declaration_used bare_empty (edited_ofLines _) hf hd rfl).1⟩

/-- The declaration is in the program because `x` is used, and no other statement mentions `y`. -/
theorem second_name_unused :
    let w := ofLines ["x, y := 1, 2", "fmt.Println(x)"]
    let d : Entry := ⟨0, .ofLine "x, y := 1, 2".toList, true, none, [(['y'], none), (['x'], none)]⟩
    Edited {} w ∧ w.pinnedFragment?.isSome = true ∧ w.Emits d ∧ d.declares = true ∧
      ['y'] ∈ d.fragment.declaredNames ∧ ['y'] ≠ ['_'] ∧
      ¬ ∃ e, w.Emits e ∧ e ≠ d ∧ e.fragment.references ['y'] = true := by
  intro w d
  have hnone : ∀ e ∈ w.entries, e.id ∈ w.emission → e ≠ d →
      e.fragment.references ['y'] = false := by decide +kernel
  refine ⟨edited_ofLines _, by decide +kernel, by decide +kernel, rfl, by decide +kernel,
    by decide, ?_⟩
  rintro ⟨e, he, hne, href⟩
  exact absurd href (by simp [hnone e he.1 he.2 hne])

end Edited

end GoRepl.Workspace
