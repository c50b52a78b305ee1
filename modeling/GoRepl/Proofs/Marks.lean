import GoRepl.Proofs.Runs

/-!
# Marks

A name is marked only as what it is declared as, so an old mark neither keeps a name from being
marked nor stands for something that it is not (`Registry.Agrees`).  Marking and declaring keep the
law: the marks that they leave are right, or they are earlier ones of names that are still declared
as what they were (`Registry.KeepsMarks`).  Under the law marking names adds exactly those that are
declared (`Registry.isLive_markAll`).

Between turns no marks are left but those of functions (`Session.Reachable.marksFunctions`).  What
the assembled program marks is therefore what it uses: a package is live just in case a statement of
the program or a body in it refers to the package (`Workspace.isLive_package_scan_scan`).  The scan
runs twice, and the second one may find more functions live; what the first one has marked stays.
-/

namespace GoRepl

namespace Ledger

variable {κ α : Type} [DecidableEq κ]

theorem contains_iff {l : Ledger κ α} {k : κ} : l.contains k = true ↔ ∃ v, l.get? k = some v := by
  unfold contains keys
  rw [List.contains_iff_mem, List.mem_map]
  constructor
  · rintro ⟨⟨_, v⟩, he, rfl⟩
    exact ⟨v, mem_entries.mp he⟩
  · rintro ⟨v, hv⟩
    exact ⟨(k, v), mem_entries.mpr hv, rfl⟩

end Ledger

namespace Registry

/-- Names are marked as what they are declared as. -/
def Agrees (r : Registry) : Prop := ∀ n kind, r.live.get? n = some kind → n ∈ r.names kind

theorem isLive_iff {r : Registry} {kind : Kind} {n : Text} :
    r.isLive kind n = true ↔ r.live.get? n = some kind := by simp [isLive]

theorem names_congr {r q : Registry} (h : r.declarations = q.declarations) (kind : Kind) :
    r.names kind = q.names kind := by
  unfold names
  rw [declared_congr h]

@[simp] theorem names_markAll (r : Registry) (kind : Kind) (ms : List Text) (kind' : Kind) :
    (r.markAll kind ms).names kind' = r.names kind' := names_congr (by simp) kind'

theorem isMarkable_iff {r : Registry} {kind : Kind} {n : Text} :
    r.isMarkable kind n = true ↔ n ∈ r.names kind ∧ r.live.get? n = none := by
  unfold isMarkable
  rw [Bool.and_eq_true, Option.isSome_iff_exists, Bool.not_eq_true', mem_names]
  refine and_congr (exists_congr fun owner ↦ owner?_eq_some) ?_
  rw [Bool.eq_false_iff, Ne, Ledger.contains_iff, Option.eq_none_iff_forall_ne_some]
  exact not_exists

theorem kind_eq_of_mem_names {r : Registry} {kind kind' : Kind} {n : Text}
    (h : n ∈ r.names kind) (h' : n ∈ r.names kind') : kind = kind' := by
  obtain ⟨o, ho⟩ := mem_names.mp h
  obtain ⟨o', ho'⟩ := mem_names.mp h'
  simpa using congrArg (Option.map Declaration.kind) (ho.symm.trans ho')

/-! ## Marking -/

theorem get?_live_markLive (r : Registry) (kind : Kind) (m n : Text) :
    (r.markLive kind m).live.get? n =
      if n = m ∧ r.isMarkable kind n = true then some kind else r.live.get? n := by
  unfold markLive
  by_cases hm : r.isMarkable kind m = true
  · rw [if_pos hm, Ledger.get?_put]
    by_cases hmn : m = n
    · subst hmn
      simp [hm]
    · simp [hmn, Ne.symm hmn]
  · rw [if_neg hm, if_neg]
    rintro ⟨rfl, h⟩
    exact hm h

theorem get?_live_markAll (r : Registry) (kind : Kind) (ms : List Text) (n : Text) :
    (r.markAll kind ms).live.get? n =
      if n ∈ ms ∧ r.isMarkable kind n = true then some kind else r.live.get? n := by
  induction ms generalizing r with
  | nil => simp [markAll]
  | cons m ms ih =>
    refine (ih (r.markLive kind m)).trans ?_
    rw [isMarkable_markLive, get?_live_markLive]
    by_cases hmn : n = m
    · subst hmn
      by_cases hn : r.isMarkable kind n = true <;> simp [hn]
    · simp [hmn, Ne.symm hmn]

/-- Marking adds the names that are declared as that kind. -/
theorem isLive_markAll {r : Registry} (hr : r.Agrees) (kind kind' : Kind) (ms : List Text)
    (n : Text) :
    (r.markAll kind ms).isLive kind' n = true ↔
      r.isLive kind' n = true ∨ (kind = kind' ∧ n ∈ ms ∧ n ∈ r.names kind) := by
  simp only [isLive_iff, get?_live_markAll]
  by_cases hm : n ∈ ms ∧ r.isMarkable kind n = true
  · obtain ⟨hname, hnone⟩ := isMarkable_iff.mp hm.2
    simp [hm, hname, hnone]
  · rw [if_neg hm]
    refine ⟨.inl, ?_⟩
    rintro (h | ⟨rfl, hms, hname⟩)
    · exact h
    · -- the name has a mark, which is of the kind that its record has
      obtain ⟨k, hk⟩ := Option.ne_none_iff_exists'.mp fun hnone ↦
        hm ⟨hms, isMarkable_iff.mpr ⟨hname, hnone⟩⟩
      rw [hk, kind_eq_of_mem_names hname (hr n k hk)]

/-! ## Declaring -/

theorem live_record (r : Registry) (kind : Kind) (name : Text) (owner : Owner) :
    (r.record kind name owner).live =
      if (r.get? name).all (·.kind = kind) then r.live else r.live.erase name := by
  unfold record
  split
  · rename_i d hd
    by_cases hk : d.kind = kind <;> simp [hd, hk, unmark]
  · rename_i hd
    simp [hd]

theorem get?_live_record {r : Registry} {kind kind' : Kind} {m n : Text} {owner : Owner}
    (h : (r.record kind m owner).live.get? n = some kind') :
    r.live.get? n = some kind' ∧ (m = n → (r.get? m).all (·.kind = kind) = true) := by
  rw [live_record] at h
  split at h
  · rename_i hall
    exact ⟨h, fun _ ↦ hall⟩
  · rw [Ledger.get?_erase] at h
    split at h
    · cases h
    · rename_i hmn
      exact ⟨h, fun h ↦ absurd h hmn⟩

theorem get?_live_forget {r : Registry} {kind : Kind} {names : List Text} {n : Text}
    (h : (r.forget names).live.get? n = some kind) : r.live.get? n = some kind ∧ n ∉ names := by
  induction names generalizing r with
  | nil => exact ⟨h, List.not_mem_nil⟩
  | cons m names ih =>
    obtain ⟨h, hn⟩ := ih (r := r.restore m none) h
    change (r.live.erase m).get? n = some kind at h
    rw [Ledger.get?_erase] at h
    split at h
    · cases h
    · rename_i hmn
      exact ⟨h, by simp [hn, Ne.symm hmn]⟩

/-! ## Keeping marks right -/

/-- The marks of `q` are right, or they are marks of `r` and their names are still declared as what
they were. -/
structure KeepsMarks (r q : Registry) : Prop where
  right_or_kept : ∀ n kind, q.live.get? n = some kind →
    n ∈ q.names kind ∨ (r.live.get? n = some kind ∧ ∀ kind', n ∈ r.names kind' → n ∈ q.names kind')

namespace KeepsMarks

variable {r q p : Registry}

theorem refl (r : Registry) : r.KeepsMarks r := ⟨fun _ _ h ↦ .inr ⟨h, fun _ hn ↦ hn⟩⟩

theorem trans (h : r.KeepsMarks q) (h' : q.KeepsMarks p) : r.KeepsMarks p := by
  refine ⟨fun n kind hn ↦ ?_⟩
  rcases h'.right_or_kept n kind hn with hright | ⟨hn, hkept'⟩
  · exact .inl hright
  · rcases h.right_or_kept n kind hn with hright | ⟨hn, hkept⟩
    · exact .inl (hkept' kind hright)
    · exact .inr ⟨hn, fun kind' h ↦ hkept' kind' (hkept kind' h)⟩

theorem agrees (h : r.KeepsMarks q) (hr : r.Agrees) : q.Agrees := by
  intro n kind hn
  rcases h.right_or_kept n kind hn with hright | ⟨hn, hkept⟩
  · exact hright
  · exact hkept kind (hr n kind hn)

theorem allocate (r : Registry) : r.KeepsMarks r.allocate :=
  ⟨fun _ _ h ↦ .inr ⟨h, fun _ hn ↦ hn⟩⟩

theorem record (r : Registry) (kind : Kind) (m : Text) (owner : Owner) :
    r.KeepsMarks (r.record kind m owner) := by
  refine ⟨fun n kind' hn ↦ ?_⟩
  obtain ⟨hn, hall⟩ := get?_live_record hn
  refine .inr ⟨hn, fun k hk ↦ ?_⟩
  obtain ⟨o, ho⟩ := mem_names.mp hk
  simp only [mem_names, get?_record]
  by_cases hmn : m = n
  · subst hmn
    obtain rfl : k = kind := by simpa [ho] using hall rfl
    exact ⟨owner, if_pos rfl⟩
  · exact ⟨o, by rw [if_neg hmn, ho]⟩

theorem forget (r : Registry) (names : List Text) : r.KeepsMarks (r.forget names) := by
  refine ⟨fun n kind hn ↦ ?_⟩
  obtain ⟨hn, hnot⟩ := get?_live_forget hn
  refine .inr ⟨hn, fun k hk ↦ ?_⟩
  simpa only [mem_names, get?_forget, if_neg hnot] using hk

theorem markAll (r : Registry) (kind : Kind) (ms : List Text) :
    r.KeepsMarks (r.markAll kind ms) := by
  refine ⟨fun n kind' hn ↦ ?_⟩
  rw [get?_live_markAll] at hn
  simp only [names_markAll]
  split at hn
  · rename_i hm
    cases hn
    exact .inl (isMarkable_iff.mp hm.2).1
  · exact .inr ⟨hn, fun _ h ↦ h⟩

theorem resetLiveness (r : Registry) : r.KeepsMarks r.resetLiveness :=
  ⟨fun _ _ h ↦ absurd h (by simp [Registry.resetLiveness])⟩

theorem declareNames (r : Registry) (id : FragmentId) (names : List Text) :
    r.KeepsMarks (Workspace.declareNames id names r).1 :=
  List.foldlRecOn (motive := fun after : Registry × List (Text × Option Declaration) ↦
    r.KeepsMarks after.1) names _ (.refl r) fun _ h m _ ↦ h.trans (.record _ .var m _)

end KeepsMarks

theorem Agrees.markAll {r : Registry} (hr : r.Agrees) (kind : Kind) (ms : List Text) :
    (r.markAll kind ms).Agrees := (KeepsMarks.markAll r kind ms).agrees hr

/-- The marks that are left when a turn is over: those of functions, put there when another function
was declared. -/
structure MarksFunctions (r : Registry) : Prop where
  agrees : r.Agrees
  kind : ∀ n kind, r.live.get? n = some kind → kind = .func

theorem MarksFunctions.allocate {r : Registry} (hr : r.MarksFunctions) :
    r.allocate.MarksFunctions := ⟨hr.agrees, hr.kind⟩

theorem MarksFunctions.record {r : Registry} (hr : r.MarksFunctions) (kind : Kind) (m : Text)
    (owner : Owner) : (r.record kind m owner).MarksFunctions :=
  ⟨(KeepsMarks.record ..).agrees hr.agrees, fun n k hk ↦ hr.kind n k (get?_live_record hk).1⟩

theorem MarksFunctions.forget {r : Registry} (hr : r.MarksFunctions) (names : List Text) :
    (r.forget names).MarksFunctions :=
  ⟨(KeepsMarks.forget ..).agrees hr.agrees, fun n k hk ↦ hr.kind n k (get?_live_forget hk).1⟩

theorem MarksFunctions.markAll {r : Registry} (hr : r.MarksFunctions) (names : List Text) :
    (r.markAll .func names).MarksFunctions := by
  refine ⟨hr.agrees.markAll .func names, fun n k hk ↦ ?_⟩
  rcases (isLive_markAll hr.agrees .func k names n).mp (isLive_iff.mpr hk) with h | ⟨rfl, -⟩
  · exact hr.kind n k (isLive_iff.mp h)
  · rfl

theorem MarksFunctions.declareNames {r : Registry} (hr : r.MarksFunctions) (id : FragmentId)
    (names : List Text) : (Workspace.declareNames id names r).1.MarksFunctions :=
  List.foldlRecOn (motive := fun after : Registry × List (Text × Option Declaration) ↦
    after.1.MarksFunctions) names _ hr fun _ h name _ ↦ h.record .var name (.fragment id)

end Registry

namespace Session

theorem Reachable.marksFunctions {s : Session} (hs : s.Reachable) :
    s.workspace.registry.MarksFunctions := by
  refine hs.records_induction (P := fun w ↦ w.registry.MarksFunctions)
    ?empty ?declareImport ?declareFunction ?declare ?keeps
  case empty => constructor <;> rintro n k ⟨⟩
  case declareImport =>
    intro w spec _ hw
    exact (hw.forget _).record ..
  case declareFunction =>
    intro w w' f name h hw
    unfold Workspace.declareFunction? at h
    obtain ⟨m, -, hm⟩ := Option.map_eq_some_iff.mp h
    cases hm
    exact (hw.allocate.record ..).markAll _
  case declare =>
    intro w f hf hw
    unfold Workspace.add
    simp only [hf, if_true]
    exact hw.allocate.declareNames ..
  case keeps =>
    intro v w h hv
    rcases h.live with hl | hl
    · exact ⟨fun n k hk ↦ Registry.names_congr h.declarations k ▸ hv.agrees n k (hl ▸ hk),
        fun n k hk ↦ hv.kind n k (hl ▸ hk)⟩
    · exact ⟨fun n k hk ↦ by simp [hl] at hk, fun n k hk ↦ by simp [hl] at hk⟩

end Session

/-! ## What the program uses -/

namespace Workspace

theorem agrees_add {w : Workspace} {f : Fragment} (hw : w.registry.Agrees)
    (hf : f.isDeclaration = false) : (w.add f).registry.Agrees := by
  unfold add
  simp only [hf, Bool.false_eq_true, if_false]
  exact Registry.Agrees.markAll (r := w.registry.allocate) hw _ _

/-- A use marks variables alone. -/
theorem isLive_add_use {w : Workspace} {f : Fragment} (hw : w.registry.Agrees)
    (hf : f.isDeclaration = false) {kind : Kind} (hk : kind ≠ .var) (n : Text) :
    (w.add f).registry.isLive kind n = w.registry.isLive kind n := by
  unfold add
  simp only [hf, Bool.false_eq_true, if_false]
  rw [Bool.eq_iff_iff, Registry.isLive_markAll (r := w.registry.allocate) hw]
  simp only [hk.symm, false_and, or_false]
  rfl

/-- No package is marked when a use is stored. -/
theorem not_isLive_package_add {w : Workspace} {f : Fragment} (hw : w.registry.MarksFunctions)
    (hf : f.isDeclaration = false) (n : Text) :
    (w.add f).registry.isLive .package n = false := by
  rw [isLive_add_use hw.agrees hf (by simp), Bool.eq_false_iff]
  intro h
  cases hw.kind n .package (Registry.isLive_iff.mp h)

section Bodies

variable {v w : Workspace} (hds : w.registry.declarations = v.registry.declarations)
  (hbodies : w.bodies = v.bodies)

include hds hbodies

theorem body?_congr : body? w.bodies w.registry = body? v.bodies v.registry := by
  funext n
  unfold body?
  rw [hbodies, Registry.owner?_congr hds]

theorem liveBodies_congr
    (hlive : ∀ n, v.registry.isLive .func n = true ↔ w.registry.isLive .func n = true) :
    v.liveBodies = w.liveBodies := by
  unfold liveBodies
  rw [Registry.names_congr hds, body?_congr hds hbodies]
  refine congrArg _ (List.filter_congr fun n _ ↦ ?_)
  rw [Bool.eq_iff_iff]
  exact hlive n

/-- More marks make more bodies live. -/
theorem liveBodies_subset
    (hlive : ∀ n, v.registry.isLive .func n = true → w.registry.isLive .func n = true) :
    v.liveBodies ⊆ w.liveBodies := by
  intro g hg
  unfold liveBodies at hg ⊢
  rw [Registry.names_congr hds, body?_congr hds hbodies]
  obtain ⟨n, hn, hgn⟩ := List.mem_filterMap.mp hg
  obtain ⟨hname, hn⟩ := List.mem_filter.mp hn
  exact List.mem_filterMap.mpr ⟨n, List.mem_filter.mpr ⟨hname, hlive n hn⟩, hgn⟩

end Bodies

theorem any_references_of_subset {fs gs : List Fragment} (h : fs ⊆ gs) {n : Text}
    (hn : fs.any (·.references n) = true) : gs.any (·.references n) = true := by
  obtain ⟨f, hf, hfn⟩ := List.any_eq_true.mp hn
  exact List.any_eq_true.mpr ⟨f, h hf, hfn⟩

section Scan

variable {w : Workspace} (hw : w.registry.Agrees)

include hw

theorem isLive_scanImports (users : List Fragment) (kind : Kind) (n : Text) :
    (w.scanImports users).registry.isLive kind n = true ↔ w.registry.isLive kind n = true ∨
      (.package = kind ∧ n ∈ w.registry.names .package ∧ users.any (·.references n) = true) := by
  unfold scanImports
  rw [Registry.isLive_markAll hw, List.mem_filter, List.any_flatMap]
  refine or_congr_right (and_congr_right fun _ ↦ ⟨fun h ↦ h.1, fun h ↦ ⟨h, h.1⟩⟩)

theorem agrees_scanFunctions (users : List Fragment) : (w.scanFunctions users).registry.Agrees :=
  hw.markAll _ _

theorem agrees_scan : w.scan.registry.Agrees := (agrees_scanFunctions hw _).markAll _ _

theorem isLive_func_scan_of_isLive {n : Text} (hn : w.registry.isLive .func n = true) :
    w.scan.registry.isLive .func n = true :=
  (isLive_scanImports (agrees_scanFunctions hw _) _ _ n).mpr
    (.inl ((Registry.isLive_markAll hw ..).mpr (.inl hn)))

/-- The scan marks the packages that the program uses as it stands afterwards. -/
theorem isLive_package_scan (n : Text) :
    w.scan.registry.isLive .package n = true ↔ w.registry.isLive .package n = true ∨
      (n ∈ w.registry.names .package ∧
        (w.emitted ++ w.scan.liveBodies).any (·.references n) = true) := by
  have hfunctions := agrees_scanFunctions hw w.emitted
  have hbodies : (w.scanFunctions w.emitted).liveBodies = w.scan.liveBodies := by
    refine liveBodies_congr (by simp [scan, scanImports]) rfl fun m ↦ ?_
    unfold scan
    rw [isLive_scanImports hfunctions]
    simp
  rw [← hbodies]
  unfold scan
  rw [isLive_scanImports hfunctions]
  unfold scanFunctions
  rw [Registry.isLive_markAll hw, Registry.names_markAll]
  simp [emitted]

/-- Where no package is marked yet, the second scan leaves those marked that the program uses. -/
theorem isLive_package_scan_scan {n : Text} (hn : w.registry.isLive .package n = false) :
    w.scan.scan.registry.isLive .package n = true ↔ n ∈ w.registry.names .package ∧
      (w.emitted ++ w.scan.scan.liveBodies).any (·.references n) = true := by
  have hscan := agrees_scan hw
  have hmore : w.scan.liveBodies ⊆ w.scan.scan.liveBodies :=
    liveBodies_subset (declarations_scan _) rfl fun _ ↦ isLive_func_scan_of_isLive hscan
  have hem : w.scan.emitted = w.emitted := rfl
  rw [isLive_package_scan hscan, isLive_package_scan hw, hn, hem,
    Registry.names_congr (declarations_scan w)]
  constructor
  · rintro ((h | ⟨hname, href⟩) | h)
    · cases h
    · rw [List.any_append, Bool.or_eq_true] at href ⊢
      exact ⟨hname, href.imp_right (any_references_of_subset hmore)⟩
    · exact h
  · exact .inr

end Scan

end Workspace
end GoRepl
