import GoRepl.Proofs.Assembling

/-!
# Unused declarations

A declaration whose names are new, and that nothing mentions, is not noticed by the next use: the
program that is run is the one that would have been run without the declaration
(`Session.unnoticed_declaration`).

The names have no record, so the declaration displaces no function and no package, and takes no mark
away.  It only becomes the owner of variables on which the use does not depend, for whatever the use
depends on is mentioned by the use or by a statement that was there before (`Fresh.dependsOn`).  So
the same statements are chosen, although the pinned one has another number now, and the two
workspaces differ in their variables alone (`Fresh.alike`).
-/

namespace GoRepl

namespace Registry

section Record

variable {r : Registry} {kind : Kind} {n : Text} (hn : ∀ d, r.get? n = some d → d.kind = kind)

include hn

theorem declared_record {kind' : Kind} (hk : kind' ≠ kind) (owner : Owner) :
    (r.record kind n owner).declared kind' = r.declared kind' := by
  have hnot : decide (kind = kind') = false := decide_eq_false hk.symm
  have hput := Ledger.filter_entries_put (l := r.declarations) (v := ⟨kind, owner⟩)
    (p := fun e ↦ decide (e.2.kind = kind')) hnot fun d hd ↦ by rw [hn d hd, hnot]
  unfold declared
  rw [declarations_record]
  exact congrArg (List.map _) hput

theorem live_record_of_kind (owner : Owner) : (r.record kind n owner).live = r.live := by
  rw [live_record, if_pos]
  rw [Option.all_eq_true]
  intro d hd
  exact decide_eq_true (hn d hd)

end Record

end Registry

namespace Workspace

/-- `q` has the marks of `r`, and its declarations except for variables.  The given names are
declared in `q` as variables, if at all. -/
structure KeepsOthers (names : List Text) (r q : Registry) : Prop where
  declared : ∀ kind, kind ≠ .var → q.declared kind = r.declared kind
  live : q.live = r.live
  vars : ∀ n ∈ names, ∀ d, q.get? n = some d → d.kind = .var

theorem KeepsOthers.record {names : List Text} {r q : Registry} (h : KeepsOthers names r q)
    {m : Text} (hm : m ∈ names) (owner : Owner) : KeepsOthers names r (q.record .var m owner) where
  declared := fun kind hk ↦
    (Registry.declared_record (h.vars m hm) hk owner).trans (h.declared kind hk)
  live := (Registry.live_record_of_kind (h.vars m hm) owner).trans h.live
  vars := by
    intro n hn d hd
    rw [Registry.get?_record] at hd
    split at hd
    · cases hd
      rfl
    · exact h.vars n hn d hd

/-- Names that displace nothing but variables leave all other declarations and the marks alone. -/
theorem keepsOthers_declareNames (id : FragmentId) {names : List Text} {r : Registry}
    (h : ∀ n ∈ names, ∀ d, r.get? n = some d → d.kind = .var) :
    KeepsOthers names r (declareNames id names r).1 :=
  List.foldlRecOn
    (motive := fun after : Registry × List (Text × Option Declaration) ↦
      KeepsOthers names r after.1)
    names _ ⟨fun _ _ ↦ rfl, rfl, h⟩ fun _ h _ hm ↦ h.record hm _

theorem keepsOthers_add {w : Workspace} {d : Fragment} (hd : d.isDeclaration = true)
    (h : ∀ n ∈ d.declaredNames, w.registry.get? n = none) :
    KeepsOthers d.declaredNames w.registry (w.add d).registry := by
  have hvars : ∀ n ∈ d.declaredNames, ∀ c,
      w.registry.allocate.get? n = some c → c.kind = .var := by
    intro n hn c hc
    rw [Registry.get?_allocate, h n hn] at hc
    cases hc
  have hkeeps := keepsOthers_declareNames w.registry.nextId hvars
  unfold add
  simp only [hd, if_true]
  exact ⟨hkeeps.declared, hkeeps.live, hkeeps.vars⟩

/-! ## What the next use depends on -/

/-- The names are new, and no statement mentions them. -/
structure Fresh (w : Workspace) (names : List Text) : Prop where
  undeclared : ∀ n ∈ names, w.registry.get? n = none
  unmentioned : ∀ n ∈ names, ∀ f ∈ w.history, f.references n = false

/-- If a declaration is stored before the use, all names but its own keep their owners. -/
theorem owns_add_add_iff {w : Workspace} (hw : w.WellFormed) {d f : Fragment}
    (hf : f.isDeclaration = false) {n : Text} (hn : n ∉ d.declaredNames) {e : Entry} :
    ((w.add d).add f).Owns e n ↔ (w.add f).Owns e n := by
  rw [owns_add_use_iff (hw.add d) hf, owns_add_iff hw (by simp [hn]), owns_add_use_iff hw hf]

/-- Reasons carry over to a workspace with the same owners of the variables that matter. -/
theorem Needs.transfer {v w : Workspace} {f : Fragment} {p q e : Entry} (h : w.Needs p e)
    (hep : e ≠ p) (hp : p.fragment = f) (hq : q.fragment = f)
    (hdep : ∀ n, w.DependsOn f n → v.DependsOn f n)
    (howns : ∀ d n, w.DependsOn f n → w.Owns d n → v.Owns d n) : v.Needs q e := by
  subst hp
  cases h with
  | pinned he => exact absurd he hep
  | owner he hn => exact .owner (howns _ _ hn he) (hq ▸ hdep _ hn)
  | user hdecl hd hn hle href => exact .user hdecl (howns _ _ hn hd) (hq ▸ hdep _ hn) hle href

namespace Fresh

variable {w : Workspace} {d f : Fragment} (hd : w.Fresh d.declaredNames)

include hd

theorem notMem_of_owns {n : Text} {e : Entry} (he : w.Owns e n) : n ∉ d.declaredNames := by
  intro hn
  have hrecord := he.2
  rw [hd.undeclared n hn] at hrecord
  cases hrecord

theorem notMem_of_references {n : Text} {e : Entry} (he : e ∈ w.entries)
    (href : e.fragment.references n = true) : n ∉ d.declaredNames := by
  intro hn
  have hmem : e.fragment ∈ w.history := List.mem_map.mpr ⟨e, List.mem_reverse.mpr he, rfl⟩
  rw [hd.unmentioned n hn _ hmem] at href
  cases href

variable (hw : w.WellFormed) (hf : f.isDeclaration = false)

include hw hf

theorem owns {e : Entry} {n : Text} (he : (w.add f).Owns e n) : ((w.add d).add f).Owns e n := by
  have hold : w.Owns e n := (owns_add_use_iff hw hf).mp he
  exact (owns_add_add_iff hw hf (hd.notMem_of_owns hold)).mpr he

variable (hunused : ∀ n ∈ d.declaredNames, f.references n = false)

include hunused

/-- The use depends on no variable that has just been declared.  The induction follows the chain of
references, each of which is made by the use or by a statement from before. -/
theorem dependsOn {n : Text} (h : ((w.add d).add f).DependsOn f n) :
    (w.add f).DependsOn f n ∧ n ∉ d.declaredNames := by
  induction h with
  | @references n e he href =>
    have hn : n ∉ d.declaredNames := by
      intro hn
      rw [hunused n hn] at href
      cases href
    exact ⟨.references ((owns_add_add_iff hw hf hn).mp he) href, hn⟩
  | @through m n c e _ hc href he ih =>
    obtain ⟨hdep, hm⟩ := ih
    have hc : (w.add f).Owns c m := (owns_add_add_iff hw hf hm).mp hc
    have hold : w.Owns c m := (owns_add_use_iff hw hf).mp hc
    have hn : n ∉ d.declaredNames := hd.notMem_of_references hold.1 href
    exact ⟨.through hdep hc href ((owns_add_add_iff hw hf hn).mp he), hn⟩

theorem needs_iff {p q e : Entry} (hp : p.fragment = f) (hq : q.fragment = f) (hep : e ≠ p)
    (heq : e ≠ q) : ((w.add d).add f).Needs q e ↔ (w.add f).Needs p e := by
  constructor
  · intro h
    refine h.transfer heq hq hp (fun n hn ↦ ?_) fun c n hn hc ↦ ?_
    · exact (hd.dependsOn hw hf hunused hn).1
    · exact (owns_add_add_iff hw hf (hd.dependsOn hw hf hunused hn).2).mp hc
  · intro h
    refine h.transfer hep hp hq (fun n hn ↦ ?_) fun c n _ hc ↦ ?_
    · exact hn.mono fun _ _ ↦ hd.owns hw hf
    · exact hd.owns hw hf hc

/-- What was there before is chosen as it would have been. -/
theorem mem_emission_iff {e : Entry} (he : e ∈ w.entries) :
    e.id ∈ ((w.add d).add f).emission ↔ e.id ∈ (w.add f).emission := by
  obtain ⟨c, hc, -⟩ := exists_entry_add w d
  obtain ⟨p, hp, hpid, hpf, -⟩ := exists_entry_add w f
  obtain ⟨q, hq, hqid, hqf, -⟩ := exists_entry_add (w.add d) f
  have hlt : e.id < w.registry.nextId := hw.bounded e he
  have hep : e ≠ p := by
    rintro rfl
    exact Nat.ne_of_lt hlt hpid
  have heq : e ≠ q := by
    rintro rfl
    rw [nextId_add] at hqid
    exact Nat.ne_of_lt (Nat.lt_succ_of_lt hlt) hqid
  rw [mem_emission_add hw hf (hp ▸ List.mem_cons_self) hpid (hp ▸ List.mem_cons_of_mem p he),
    mem_emission_add (hw.add d) hf (hq ▸ List.mem_cons_self) hqid
      (hq ▸ List.mem_cons_of_mem q (hc ▸ List.mem_cons_of_mem c he)),
    hd.needs_iff hw hf hunused hpf hqf hep heq]

/-- The declaration is left out. -/
theorem notMem_emission (hdecl : d.isDeclaration = true) :
    w.registry.nextId ∉ ((w.add d).add f).emission := by
  obtain ⟨c, hc, hcid, -, hcd⟩ := exists_entry_add w d
  obtain ⟨q, hq, hqid, hqf, hqd⟩ := exists_entry_add (w.add d) f
  intro hmem
  have hneeds : ((w.add d).add f).Needs q c :=
    (mem_emission_add (hw.add d) hf (hq ▸ List.mem_cons_self) hqid
      (hq ▸ List.mem_cons_of_mem q (hc ▸ List.mem_cons_self))).mp (hcid ▸ hmem)
  obtain ⟨n, hown, hdep⟩ := hneeds.of_declares (hqd.trans hf) (hcd.trans hdecl)
  have hn : n ∉ d.declaredNames := (hd.dependsOn hw hf hunused (hqf ▸ hdep)).2
  have hown : (w.add f).Owns c n := (owns_add_add_iff hw hf hn).mp hown
  have hold : w.Owns c n := (owns_add_use_iff hw hf).mp hown
  exact Nat.ne_of_lt (hw.bounded c hold.1) hcid

theorem emitted_eq (hdecl : d.isDeclaration = true) :
    ((w.add d).add f).emitted = (w.add f).emitted := by
  obtain ⟨c, hc, hcid, -⟩ := exists_entry_add w d
  obtain ⟨p, hp, hpid, hpf, -⟩ := exists_entry_add w f
  obtain ⟨q, hq, hqid, hqf, -⟩ := exists_entry_add (w.add d) f
  have hpin : p.id ∈ (w.add f).emission := hpid ▸ nextId_mem_emission_add hw hf
  have hqin : q.id ∈ ((w.add d).add f).emission := hqid ▸ nextId_mem_emission_add (hw.add d) hf
  have hcout : c.id ∉ ((w.add d).add f).emission :=
    hcid ▸ hd.notMem_emission hw hf hunused hdecl
  have hold : (w.entries.reverse.filter fun e ↦ ((w.add d).add f).emission.contains e.id) =
      w.entries.reverse.filter fun e ↦ (w.add f).emission.contains e.id := by
    refine List.filter_congr fun e he ↦ ?_
    rw [Bool.eq_iff_iff, List.contains_iff_mem, List.contains_iff_mem]
    exact hd.mem_emission_iff hw hf hunused (List.mem_reverse.mp he)
  unfold emitted
  rw [hq, hc, hp]
  simp only [List.reverse_cons, List.filter_append, List.map_append, hold]
  simp [hpin, hqin, hcout, hpf, hqf]

/-- With the declaration or without it, the use finds the same functions and packages, and the same
statements are chosen. -/
theorem alike (hdecl : d.isDeclaration = true) (hagrees : w.registry.Agrees)
    (hagrees' : (w.add d).registry.Agrees) : (w.add f).Alike ((w.add d).add f) := by
  have hkeeps : KeepsOthers d.declaredNames w.registry (w.add d).registry :=
    keepsOthers_add hdecl hd.undeclared
  constructor
  case agrees => exact agrees_add hagrees hf
  case agrees' => exact agrees_add hagrees' hf
  case declared =>
    intro kind hk
    rw [Registry.declared_congr (declarations_add_use hf), hkeeps.declared kind hk,
      Registry.declared_congr (declarations_add_use hf)]
  case isLive =>
    intro kind hk
    funext n
    rw [isLive_add_use hagrees' hf hk, isLive_add_use hagrees hf hk]
    unfold Registry.isLive
    rw [hkeeps.live]
  case bodies => rw [bodies_add, bodies_add, bodies_add]
  case emitted => exact hd.emitted_eq hw hf hunused hdecl

end Fresh

end Workspace

namespace Session

open Workspace

variable {s s' : Session} {line : Text} {source : List SourceItem} {o : Outcome}

/-- The line is a statement, on its own or with the block read after it, and that statement declares
names. -/
structure IsDeclaring (line : Text) (source : List SourceItem) (d : Fragment) : Prop where
  statement : Command.classify line = .statement
  read : (Fragment.read line.trim source).result = .ok d
  declares : d.isDeclaration = true

theorem eq_of_ends_declaring {d : Fragment} (hd : IsDeclaring line source d)
    (h : (s.start line source).step.Ends o s') :
    o = .declared d.declaredNames ∧ s' = { s with workspace := s.workspace.add d } := by
  rw [step_start_of_statement s hd.statement hd.read] at h
  unfold storeStatement at h
  simp only [hd.declares, if_true] at h
  cases h
  exact ⟨rfl, rfl⟩

/-- A use after which the history has more than one statement is run. -/
theorem demand?_of_history_ne_nil {f : Fragment} (huse : IsUse line source f)
    (hne : s.workspace.history ≠ []) :
    (s.start line source).step.demand? = some (.run s.programFile
      (s.template.render (s.workspace.add f).scan.scan.regions)) := by
  have hlength : (s.workspace.add f).scan.entries.length ≠ 1 := by
    rw [(hides_scan _).entries, entries_add, List.length_cons]
    intro h
    apply hne
    simpa [history] using h
  rw [step_start_of_statement s huse.statement huse.read, storeStatement_use s huse.use,
    if_neg fun h ↦ hlength h.1]
  rfl

/-- Once something has been stored, a declaration of new names that no statement mentions is not
noticed by a use that does not mention them either: the program that is run is the same.  Bodies of
functions may mention the names. -/
theorem unnoticed_declaration (hs : s.Reachable) (hne : s.workspace.history ≠ []) {d : Fragment}
    (hd : IsDeclaring line source d) (hfresh : s.workspace.Fresh d.declaredNames)
    (h : (s.start line source).step.Ends o s') {next : Text} {later : List SourceItem}
    {f : Fragment} (huse : IsUse next later f)
    (hunused : ∀ n ∈ d.declaredNames, f.references n = false) :
    o = .declared d.declaredNames ∧ ∃ program,
      (s.start next later).step.demand? = some (.run s.programFile program) ∧
      (s'.start next later).step.demand? = some (.run s.programFile program) := by
  have hagrees' : s'.workspace.registry.Agrees :=
    (Reachable.turn line source hs h).marksFunctions.agrees
  obtain ⟨ho, rfl⟩ := eq_of_ends_declaring hd h
  have halike := hfresh.alike hs.workspace.wellFormed huse.use hunused hd.declares
    hs.marksFunctions.agrees hagrees'
  have hregions : ((s.workspace.add d).add f).scan.scan.regions =
      (s.workspace.add f).scan.scan.regions := halike.scan.scan.regions
  have hne' : (s.workspace.add d).history ≠ [] := by simp [history_add]
  refine ⟨ho, _, demand?_of_history_ne_nil huse hne, ?_⟩
  rw [demand?_of_history_ne_nil huse hne', hregions]

/-- The declaration mentions variables that the use needs, and a block calls a function. -/
theorem unnoticed_declaration_block :
    let s := played "a := 1\nb := a\nfunc g() \x7b\nb++\n\x7d\nfmt.Println(b)\nb++\n"
    let d : Fragment := .ofLine (Text.trim "c, d := a, b".toList)
    let declared := (s.start "c, d := a, b".toList []).step.settle (Demand.compiled fun _ ↦ .ok {})
    let block : List SourceItem := [.line "g()".toList, .line "\x7d".toList]
    let f : Fragment :=
      ⟨"if b > 0 \x7b".toList, .nested "g()".toList .nil (.line ['\x7d'] .nil)⟩
    s.Reachable ∧ s.workspace.history.length = 4 ∧ IsDeclaring "c, d := a, b".toList [] d ∧
      s.workspace.Fresh d.declaredNames ∧ d.declaredNames = [['c'], ['d']] ∧
      IsUse "if b > 0 \x7b".toList block f ∧ (∀ n ∈ d.declaredNames, f.references n = false) ∧
      ∃ program, (s.start "if b > 0 \x7b".toList block).step.demand? =
          some (.run s.programFile program) ∧
        (declared.2.start "if b > 0 \x7b".toList block).step.demand? =
          some (.run s.programFile program) := by
  intro s d declared block f
  have hs : s.Reachable := reachable_played _
  have hlength : s.workspace.history.length = 4 := by decide +kernel
  have hne : s.workspace.history ≠ [] := by
    intro h
    simp [h] at hlength
  have hd : IsDeclaring "c, d := a, b".toList [] d := ⟨by decide +kernel, rfl, by decide +kernel⟩
  have hfresh : s.workspace.Fresh d.declaredNames := ⟨by decide +kernel, by decide +kernel⟩
  have huse : IsUse "if b > 0 \x7b".toList block f := ⟨by decide +kernel, rfl, by decide +kernel⟩
  have hunused : ∀ n ∈ d.declaredNames, f.references n = false := by decide +kernel
  exact ⟨hs, hlength, hd, hfresh, by decide +kernel, huse, hunused,
    (unnoticed_declaration hs hne hd hfresh (Step.ends_settle _ _) huse hunused).2⟩

end Session
end GoRepl
