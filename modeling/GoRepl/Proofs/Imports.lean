import Mathlib.Data.List.Nodup
import GoRepl.Proofs.Definitions
import GoRepl.Proofs.Marks
import GoRepl.Proofs.Mentions
import GoRepl.Proofs.Rereading

/-!
# Imports

The import block of a program that a use hands over: the packages that the program refers to, no
more and no fewer, in declaration order (`Session.imports_exact`).

Each record of a package is backed by the spec that its name stands for (`Workspace.Specified`).  A
spec may stay behind when its name has become a variable or a function; such a spec backs nothing,
and whoever imports its path again removes it.  That no line stands twice in the block takes a look
at how specs are written: two specs read the same only if one of their names begins with a quote,
and no token does.
-/

namespace GoRepl

/-! ## Names that nothing refers to -/

namespace Token

theorem isCandidate_of_mem_split {symbols : List Char} {t token : Text}
    (h : token ∈ split symbols t) : isCandidate token = true := by
  have hkeep : ∀ {t : Text}, token ∈ keep t → isCandidate token = true := by
    intro t ht
    unfold keep at ht
    split at ht
    · rename_i hc
      rwa [List.mem_singleton.mp ht]
    · cases ht
  induction symbols generalizing t with
  | nil => exact hkeep h
  | cons s later ih =>
    unfold split at h
    split at h
    · rcases List.mem_append.mp h with h | h
      · exact hkeep h
      · obtain ⟨part, -, hpart⟩ := List.mem_flatMap.mp h
        exact ih hpart
    · exact ih h

end Token

/-- What no token begins with has no references. -/
theorem Fragment.isCandidate_of_references {f : Fragment} {n : Text}
    (h : f.references n = true) : Token.isCandidate n = true := by
  unfold references tokens Token.tokenizeLines at h
  obtain ⟨token, htoken, href⟩ := List.any_eq_true.mp h
  obtain ⟨line, -, htoken⟩ := List.mem_flatMap.mp htoken
  have hc : Token.isCandidate token = true := by
    rw [Token.tokenize, Token.drain_eq] at htoken
    exact Token.isCandidate_of_mem_split (by simpa using htoken)
  cases n with
  | nil => simp [Token.refersTo] at href
  | cons c n =>
    obtain ⟨after, rfl, -⟩ := (Token.refersTo_iff (by simp)).mp href
    exact hc

/-! ## How specs are written -/

namespace ImportSpec

/-- A spec with a local name has been read from a text. -/
theorem IsWritten.isReadable {spec : ImportSpec} {name : Text} (h : spec.IsWritten)
    (hname : spec.localName = some name) : spec.IsReadable := by
  obtain hnone | ⟨t, ht⟩ := h
  · simp [hnone] at hname
  · exact .of_parse? ht

/-- Two specs whose names can be referred to are written alike only if they are the same. -/
theorem eq_of_render_eq {a b : ImportSpec} (ha : a.IsWritten) (hb : b.IsWritten)
    (hac : Token.isCandidate a.identifier = true) (hbc : Token.isCandidate b.identifier = true)
    (h : a.render = b.render) : a = b := by
  -- a written local name does not begin with a quote
  have hquote : ∀ {name path path' : Text}, name ≠ [] → Token.isCandidate name = true →
      name ++ " \"".toList ++ path ++ ['"'] ≠ ['"'] ++ path' ++ ['"'] := by
    intro name path path' hne hc heq
    obtain ⟨c, name, rfl⟩ := List.exists_cons_of_ne_nil hne
    simp only [List.cons_append, List.cons.injEq] at heq
    simp [Token.isCandidate, heq.1] at hc
  obtain ⟨m, p⟩ := a
  obtain ⟨n, q⟩ := b
  cases m with
  | none =>
    cases n with
    | none => simpa [render] using h
    | some n => exact absurd h.symm (hquote ((hb.isReadable rfl).name_ne_nil n rfl) hbc)
  | some m =>
    cases n with
    | none => exact absurd h (hquote ((ha.isReadable rfl).name_ne_nil m rfl) hac)
    | some n => exact ((ha.isReadable rfl).render_inj (hb.isReadable rfl)).mp h

theorem nodup_map_render {specs : List ImportSpec} (hspecs : ∀ spec ∈ specs, spec.IsWritten)
    (hnames : ∀ spec ∈ specs, Token.isCandidate spec.identifier = true)
    (hnodup : (specs.map identifier).Nodup) : (specs.map render).Nodup :=
  (List.Nodup.of_map _ hnodup).map_on fun a ha b hb ↦
    eq_of_render_eq (hspecs a ha) (hspecs b hb) (hnames a ha) (hnames b hb)

end ImportSpec

/-! ## Packages and their specs -/

theorem Ledger.get?_filter {κ α : Type} [DecidableEq κ] (l : Ledger κ α) (p : κ → α → Bool)
    (k : κ) : (l.filter p).get? k = (l.get? k).filter (p k) := by
  refine Option.ext fun v ↦ ?_
  rw [← mem_entries, Option.filter_eq_some_iff, ← mem_entries]
  exact List.mem_filter

namespace Workspace

/-- A package is imported: the record of its name is that of the spec, and the name stands for the
spec. -/
structure Imports (w : Workspace) (spec : ImportSpec) : Prop where
  record : w.registry.get? spec.identifier = some ⟨.package, .text spec.render⟩
  known : w.specs.get? spec.identifier = some spec
  written : spec.IsWritten

/-- Each package has been imported by the spec that its name stands for. -/
def Specified (w : Workspace) : Prop :=
  ∀ n ∈ w.registry.names .package, ∃ spec, w.Imports spec ∧ spec.identifier = n

theorem Imports.unique {w : Workspace} {a b : ImportSpec} (ha : w.Imports a) (hb : w.Imports b)
    (h : a.identifier = b.identifier) : a = b := by
  have hknown := ha.known
  rw [h, hb.known] at hknown
  exact (Option.some.inj hknown).symm

/-- Where a name has the same record and stands for the same spec, it is imported as before. -/
theorem Imports.of_eq {v w : Workspace} {spec : ImportSpec} (h : v.Imports spec)
    (hrecord : w.registry.get? spec.identifier = v.registry.get? spec.identifier)
    (hknown : w.specs.get? spec.identifier = v.specs.get? spec.identifier) : w.Imports spec :=
  ⟨hrecord.trans h.record, hknown.trans h.known, h.written⟩

theorem get?_keptSpecs {w : Workspace} {path n : Text} {spec : ImportSpec} :
    (w.specs.filter (w.keepsSpec path)).get? n = some spec ↔
      w.specs.get? n = some spec ∧ n ∈ w.registry.names .package ∧ spec.path ≠ path := by
  rw [Ledger.get?_filter, Option.filter_eq_some_iff]
  unfold keepsSpec
  rw [Bool.and_eq_true, Option.isSome_iff_exists, Registry.mem_names, bne_iff_ne]
  simp only [Registry.owner?_eq_some]

section Declare

variable {w : Workspace} (spec : ImportSpec)

theorem get?_specs_declareImport {n : Text} (hn : spec.identifier ≠ n) {other : ImportSpec} :
    (w.declareImport spec).specs.get? n = some other ↔
      w.specs.get? n = some other ∧ n ∈ w.registry.names .package ∧ other.path ≠ spec.path := by
  unfold declareImport
  simp only
  rw [Ledger.get?_put_of_ne hn]
  exact get?_keptSpecs

theorem get?_declareImport_self :
    (w.declareImport spec).registry.get? spec.identifier = some ⟨.package, .text spec.render⟩ := by
  unfold declareImport
  simp only
  rw [Registry.get?_record, if_pos rfl]

theorem imports_declareImport (hspec : spec.IsWritten) : (w.declareImport spec).Imports spec :=
  ⟨get?_declareImport_self spec, Ledger.get?_put_self .., hspec⟩

/-- A record that is not the new one goes if its name is a package's and stands for no spec any
more. -/
theorem get?_declareImport_of_ne {n : Text} (hn : spec.identifier ≠ n) :
    (w.declareImport spec).registry.get? n =
      if n ∈ w.registry.names .package ∧ (w.declareImport spec).specs.get? n = none then none
      else w.registry.get? n := by
  unfold declareImport
  simp only
  rw [Registry.get?_record, if_neg hn, Registry.get?_forget, Ledger.get?_put_of_ne hn]
  refine if_congr ?_ rfl rfl
  rw [List.mem_filter]
  refine and_congr_right fun _ ↦ ?_
  simp only [Bool.and_eq_true, decide_eq_true_eq, Bool.not_eq_true', Bool.eq_false_iff, ne_eq,
    Ledger.contains_iff, Option.eq_none_iff_forall_ne_some, not_exists]
  exact and_iff_right (Ne.symm hn)

/-- Importing a path under another name forgets the name that it had. -/
theorem get?_declareImport_of_path {old : ImportSpec} (hold : w.Imports old)
    (hn : spec.identifier ≠ old.identifier) (hpath : old.path = spec.path) :
    (w.declareImport spec).registry.get? old.identifier = none := by
  rw [get?_declareImport_of_ne spec hn, if_pos]
  refine ⟨Registry.mem_names.mpr ⟨_, hold.record⟩, ?_⟩
  rw [Option.eq_none_iff_forall_ne_some]
  intro other hother
  obtain ⟨hother, -, hne⟩ := (get?_specs_declareImport spec hn).mp hother
  obtain rfl : old = other := by simpa using hold.known.symm.trans hother
  exact hne hpath

/-- A name that stands for another path stays what it is. -/
theorem get?_declareImport_of_known {n : Text} (hn : spec.identifier ≠ n) {old : ImportSpec}
    (hold : w.specs.get? n = some old) (hpath : old.path ≠ spec.path) :
    (w.declareImport spec).registry.get? n = w.registry.get? n := by
  rw [get?_declareImport_of_ne spec hn, if_neg]
  rintro ⟨hname, hnone⟩
  have hsome := (get?_specs_declareImport (w := w) spec hn).mpr ⟨hold, hname, hpath⟩
  simp [hnone] at hsome

/-- A package that is still recorded under another name has been before, and its name stands for
what it stood for. -/
theorem known_of_get?_declareImport {n : Text} {owner : Owner} (hn : spec.identifier ≠ n)
    (h : (w.declareImport spec).registry.get? n = some ⟨.package, owner⟩) :
    w.registry.get? n = some ⟨.package, owner⟩ ∧
      (w.declareImport spec).specs.get? n = w.specs.get? n := by
  rw [get?_declareImport_of_ne spec hn] at h
  split at h
  · cases h
  · rename_i hnot
    obtain ⟨other, hother⟩ := Option.ne_none_iff_exists'.mp fun hnone ↦
      hnot ⟨Registry.mem_names.mpr ⟨owner, h⟩, hnone⟩
    exact ⟨h, hother.trans ((get?_specs_declareImport spec hn).mp hother).1.symm⟩

variable (hw : w.Specified)

include hw

/-- Other records stay. -/
theorem get?_declareImport_of_forall {n : Text} (hn : spec.identifier ≠ n)
    (h : ∀ old, w.Imports old → old.identifier = n → old.path ≠ spec.path) :
    (w.declareImport spec).registry.get? n = w.registry.get? n := by
  by_cases hname : n ∈ w.registry.names .package
  · obtain ⟨old, hold, rfl⟩ := hw n hname
    exact get?_declareImport_of_known spec hn hold.known (h old hold rfl)
  · rw [get?_declareImport_of_ne spec hn, if_neg fun hstale ↦ hname hstale.1]

theorem Specified.declareImport (hspec : spec.IsWritten) : (w.declareImport spec).Specified := by
  intro n hn
  by_cases hne : spec.identifier = n
  · exact ⟨spec, imports_declareImport spec hspec, hne⟩
  · obtain ⟨owner, ho⟩ := Registry.mem_names.mp hn
    obtain ⟨hrecord, hknown⟩ := known_of_get?_declareImport spec hne ho
    obtain ⟨old, hold, rfl⟩ := hw n (Registry.mem_names.mpr ⟨owner, hrecord⟩)
    exact ⟨old, hold.of_eq (ho.trans hrecord.symm) hknown, rfl⟩

end Declare

/-- Where no package is recorded anew, each is still backed by its spec. -/
theorem Specified.of_get? {v w : Workspace} (hv : v.Specified) (hspecs : w.specs = v.specs)
    (h : ∀ n owner, w.registry.get? n = some ⟨.package, owner⟩ →
      w.registry.get? n = v.registry.get? n) : w.Specified := by
  intro n hn
  obtain ⟨owner, ho⟩ := Registry.mem_names.mp hn
  have hsame := h n owner ho
  obtain ⟨spec, hspec, rfl⟩ := hv n (Registry.mem_names.mpr ⟨owner, hsame ▸ ho⟩)
  exact ⟨spec, hspec.of_eq hsame (by rw [hspecs]), rfl⟩

end Workspace

namespace Session

open Workspace

theorem Reachable.specified {s : Session} (hs : s.Reachable) : s.workspace.Specified := by
  refine hs.records_induction (P := Specified)
    ?empty ?declareImport ?declareFunction ?declare ?keeps
  case empty => exact fun n hn ↦ by cases hn
  case declareImport => exact fun w spec hspec hw ↦ hw.declareImport spec hspec
  case declareFunction =>
    intro w w' f name h hw
    obtain ⟨-, -, hget, -⟩ := declareFunction?_spec h
    refine hw.of_get? (specs_declareFunction? h) fun n owner hn ↦ ?_
    rw [hget] at hn ⊢
    split
    · rename_i hname
      simp [hname] at hn
    · rfl
  case declare =>
    intro w f _ hw
    refine hw.of_get? (specs_add w f) fun n owner hn ↦ ?_
    rw [get?_add] at hn ⊢
    split
    · rename_i hname
      simp [hname] at hn
    · rfl
  case keeps => exact fun h hv ↦ hv.of_get? h.specs fun n _ _ ↦ h.get? n

end Session

/-! ## The import block -/

namespace Workspace

/-- The declared packages in order, each by its spec. -/
theorem exists_declared_eq {w : Workspace} (hw : w.Specified) :
    ∃ specs : List ImportSpec,
      w.registry.declared .package = specs.map (fun spec ↦ (spec.identifier, .text spec.render)) ∧
      ∀ spec ∈ specs, w.Imports spec := by
  have hdeclared : ∀ e ∈ w.registry.declared .package,
      ∃ spec, w.Imports spec ∧ e = (spec.identifier, .text spec.render) := by
    rintro ⟨n, owner⟩ he
    have hn := Registry.mem_declared.mp he
    obtain ⟨spec, hspec, rfl⟩ := hw n (Registry.mem_names.mpr ⟨owner, hn⟩)
    have howner : owner = .text spec.render := by simpa using hn.symm.trans hspec.record
    exact ⟨spec, hspec, by rw [howner]⟩
  generalize w.registry.declared .package = declared at hdeclared
  induction declared with
  | nil => exact ⟨[], rfl, by simp⟩
  | cons e declared ih =>
    obtain ⟨spec, hspec, rfl⟩ := hdeclared e List.mem_cons_self
    obtain ⟨specs, rfl, hall⟩ := ih fun e he ↦ hdeclared e (List.mem_cons_of_mem _ he)
    exact ⟨spec :: specs, rfl, List.forall_mem_cons.mpr ⟨hspec, hall⟩⟩

theorem importBlock_eq {w : Workspace} {specs : List ImportSpec}
    (h : w.registry.declared .package =
      specs.map (fun spec ↦ (spec.identifier, .text spec.render))) :
    w.importBlock = Text.unlines
      ((specs.filter (w.registry.isLive .package ·.identifier)).map (indented 1 ·.render)) := by
  unfold importBlock
  rw [h, List.filterMap_map, ← List.filterMap_eq_map, List.filterMap_filter]
  rfl

end Workspace

namespace Session

open Workspace

/-- The import block of a program that a use hands over has one line for each package that the
program uses, in declaration order: the spec by which the package has been imported. -/
theorem imports_exact {s : Session} {line : Text} {source : List SourceItem} {f : Fragment}
    {d : Demand} (hs : s.Reachable) (hf : IsUse line source f)
    (h : (s.start line source).step.demand? = some d) :
    let w := (s.workspace.add f).scan.scan
    d = .run s.programFile (s.template.render w.regions) ∧
    ∃ specs : List ImportSpec,
      w.regions.imports = Text.unlines (specs.map (indented 1 ·.render)) ∧
      (specs.map ImportSpec.render).Nodup ∧
      specs.map ImportSpec.identifier = (s.workspace.registry.names .package).filter
        (fun n ↦ (w.emitted ++ w.liveBodies).any (·.references n)) ∧
      ∀ spec ∈ specs, s.workspace.Imports spec := by
  intro w
  have hadded : (s.workspace.add f).registry.declarations = s.workspace.registry.declarations :=
    declarations_add_use hf.use
  have hds : w.registry.declarations = s.workspace.registry.declarations :=
    (declarations_scan _).trans ((declarations_scan _).trans hadded)
  have hspecs : w.specs = s.workspace.specs := specs_add ..
  have hspecified : w.Specified := hs.specified.of_get? hspecs fun n _ _ ↦
    Registry.get?_congr hds n
  have hlive : ∀ n ∈ s.workspace.registry.names .package, w.registry.isLive .package n =
      (w.emitted ++ w.liveBodies).any (·.references n) := by
    intro n hn
    rw [Bool.eq_iff_iff, isLive_package_scan_scan (agrees_add hs.marksFunctions.agrees hf.use)
      (not_isLive_package_add hs.marksFunctions hf.use n), Registry.names_congr hadded]
    exact and_iff_right hn
  obtain ⟨declared, hdeclared, hall⟩ := exists_declared_eq hspecified
  let specs := declared.filter (w.registry.isLive .package ·.identifier)
  have hused : specs.map ImportSpec.identifier = (s.workspace.registry.names .package).filter
      fun n ↦ (w.emitted ++ w.liveBodies).any (·.references n) := by
    rw [← List.filter_congr hlive, ← Registry.names_congr hds, Registry.names, hdeclared,
      List.map_map, List.filter_map]
    rfl
  have himports : ∀ spec ∈ specs, w.Imports spec := fun spec hspec ↦
    hall spec (List.mem_filter.mp hspec).1
  refine ⟨demand?_of_isUse hf h, specs, importBlock_eq hdeclared, ?_, hused, fun spec hspec ↦ ?_⟩
  · refine ImportSpec.nodup_map_render (fun spec hspec ↦ (himports spec hspec).written) ?_ ?_
    · intro spec hspec
      have hmem := hused ▸ List.mem_map_of_mem (f := ImportSpec.identifier) hspec
      obtain ⟨g, -, hg⟩ := List.any_eq_true.mp (List.mem_filter.mp hmem).2
      exact Fragment.isCandidate_of_references hg
    · rw [hused]
      exact (Registry.nodup_names _ _).filter _
  · exact (himports spec hspec).of_eq (Registry.get?_congr hds _).symm (by rw [hspecs])

/-- One path is imported again under a local name, one package's name becomes a variable's, one
package is used by the body of a function only, and one not at all. -/
theorem imports_exact_shadowed :
    let s := played ("import \"strings\"\nimport \"os\"\nimport \"time\"\nos := 1\n" ++
      "import \"math/rand\"\nimport r \"math/rand\"\nfunc f() \x7b\nstrings.Title()\n\x7d\n")
    let line : Text := "fmt.Println(f(), r.Int(), os)".toList
    let w := (s.workspace.add (.ofLine line.trim)).scan.scan
    s.Reachable ∧ IsUse line [] (.ofLine line.trim) ∧
      (s.start line []).step.demand? =
        some (.run s.programFile (s.template.render w.regions)) ∧
      s.workspace.registry.names .package = ["fmt", "strings", "time", "r"].map String.toList ∧
      w.regions.imports = "    \"fmt\"\n    \"strings\"\n    r \"math/rand\"".toList ∧
      ∃ specs : List ImportSpec,
        w.regions.imports = Text.unlines (specs.map (indented 1 ·.render)) ∧
        (specs.map ImportSpec.render).Nodup ∧
        specs.map ImportSpec.identifier = (s.workspace.registry.names .package).filter
          (fun n ↦ (w.emitted ++ w.liveBodies).any (·.references n)) ∧
        ∀ spec ∈ specs, s.workspace.Imports spec := by
  intro s line w
  have huse : IsUse line [] (.ofLine line.trim) :=
    isUse_ofLine [] (by decide +kernel) (by decide +kernel) (by decide +kernel)
  have hrun : (s.start line []).step.demand? =
      some (.run s.programFile (s.template.render w.regions)) := by decide +kernel
  exact ⟨reachable_played _, huse, hrun, by decide +kernel, by decide +kernel,
    (imports_exact (reachable_played _) huse hrun).2⟩

end Session

end GoRepl
