import GoRepl.Proofs.Definitions
import GoRepl.Proofs.Marks
import GoRepl.Proofs.Undo

/-!
# Turns that later ones do not notice

A failed turn, the showing of a value and the saving or publishing of the program leave the history,
the records and what they point at as they were.  The number of the next fragment may have moved
on, and the program may have been chosen anew.  Neither shows later: a use chooses the program from
the start, and numbers only tell fragments apart and say which of two is the later one.

This is a simulation.  `Mirrors` relates two sessions that differ in the pinned statement, the
emission, the notes of the statements, and the numbers, which a renumbering leads from one to the
other; unlike in undoing, the numbers of functions are renumbered too.  Each operation, each started
turn (`Session.Mirrors.start`) and so each conversation preserves the relation, as long as nobody
asks for the program as it stands.
-/

namespace GoRepl

/-! ## Records -/

/-- The same declaration where the fragments have other numbers. -/
def Declaration.moved (ρ : FragmentId → FragmentId) (d : Declaration) : Declaration :=
  { d with owner := d.owner.renumber ρ }

namespace Registry

/-- `q` is `r` with the fragments renumbered. -/
structure Mirrors (ρ : FragmentId → FragmentId) (r q : Registry) : Prop where
  declarations : q.declarations = r.declarations.mapValues (Declaration.moved ρ)
  live : q.live = r.live
  nextId : ∀ k, ρ (r.nextId + k) = q.nextId + k

section Mirrors

variable {ρ : FragmentId → FragmentId} {r q : Registry} (h : r.Mirrors ρ q)

include h

theorem Mirrors.get? (n : Text) : q.get? n = (r.get? n).map (Declaration.moved ρ) := by
  unfold Registry.get?
  rw [h.declarations, Ledger.get?_mapValues]

theorem Mirrors.declared (kind : Kind) :
    q.declared kind = (r.declared kind).map fun (name, owner) ↦ (name, owner.renumber ρ) := by
  unfold Registry.declared
  rw [h.declarations]
  change ((r.declarations.entries.map fun e ↦ (e.1, e.2.moved ρ)).filter _).map _ = _
  rw [List.filter_map, List.map_map, List.map_map]
  rfl

theorem Mirrors.names (kind : Kind) : q.names kind = r.names kind := by
  unfold Registry.names
  rw [h.declared, List.map_map]
  rfl

theorem Mirrors.owner? (kind : Kind) (n : Text) :
    q.owner? kind n = (r.owner? kind n).map (Owner.renumber ρ) := by
  unfold Registry.owner?
  rw [h.get?]
  cases r.get? n with
  | none => rfl
  | some d => by_cases hk : d.kind = kind <;> simp [Option.filter, Declaration.moved, hk]

theorem Mirrors.hasLive : q.hasLive = r.hasLive := by
  unfold Registry.hasLive
  rw [h.live]

theorem Mirrors.isMarkable (kind : Kind) (n : Text) :
    q.isMarkable kind n = r.isMarkable kind n := by
  unfold Registry.isMarkable
  rw [h.owner?, h.live, Option.isSome_map]

theorem Mirrors.markLive (kind : Kind) (n : Text) :
    (r.markLive kind n).Mirrors ρ (q.markLive kind n) := by
  refine ⟨by simpa using h.declarations, ?_, by simpa using h.nextId⟩
  unfold Registry.markLive
  rw [h.isMarkable]
  split
  · exact congrArg (Ledger.put · n kind) h.live
  · exact h.live

theorem Mirrors.markAll (kind : Kind) (names : List Text) :
    (r.markAll kind names).Mirrors ρ (q.markAll kind names) := by
  induction names generalizing r q with
  | nil => exact h
  | cons n names ih => exact ih (h.markLive kind n)

theorem Mirrors.allocate : r.allocate.Mirrors ρ q.allocate := by
  refine ⟨h.declarations, h.live, fun k ↦ ?_⟩
  rw [nextId_allocate, nextId_allocate, Nat.add_assoc, Nat.add_assoc]
  exact h.nextId (1 + k)

theorem Mirrors.record (kind : Kind) (n : Text) (owner : Owner) :
    (r.record kind n owner).Mirrors ρ (q.record kind n (owner.renumber ρ)) := by
  refine ⟨?_, ?_, by simpa using h.nextId⟩
  · rw [declarations_record, declarations_record, h.declarations, Ledger.mapValues_put]
    rfl
  · rw [live_record, live_record, h.live, h.get?]
    cases r.get? n <;> rfl

theorem Mirrors.forget (names : List Text) : (r.forget names).Mirrors ρ (q.forget names) := by
  induction names generalizing r q with
  | nil => exact h
  | cons n names ih =>
    refine ih (r := r.restore n none) (q := q.restore n none) ⟨?_, ?_, h.nextId⟩
    · change q.declarations.erase n = _
      rw [h.declarations, ← Ledger.mapValues_erase]
      rfl
    · exact congrArg (Ledger.erase · n) h.live

theorem Mirrors.resetLiveness : r.resetLiveness.Mirrors ρ q.resetLiveness :=
  ⟨h.declarations, rfl, h.nextId⟩

theorem Mirrors.declareNames (id : FragmentId) (names : List Text) :
    (Workspace.declareNames id names r).1.Mirrors ρ
      (Workspace.declareNames (ρ id) names q).1 := by
  unfold Workspace.declareNames
  refine List.foldl_rel (r := fun (before after : Registry × List (Text × Option Declaration)) ↦
    before.1.Mirrors ρ after.1) h ?_
  rintro name - ⟨r, noted⟩ ⟨q, noted'⟩ hrq
  exact Mirrors.record hrq .var name (.fragment id)

end Mirrors

end Registry

/-! ## Workspaces -/

namespace Workspace

/-- `w` remembers what `v` does, with the fragments renumbered. Which statement is pinned and what
the program consists of are left open. -/
structure Mirrors (ρ : FragmentId → FragmentId) (v w : Workspace) : Prop where
  registry : v.registry.Mirrors ρ w.registry
  entries : List.Forall₂ (Entry.Matches ρ) v.entries w.entries
  specs : w.specs = v.specs
  bodies : ∀ id, w.bodies.get? (ρ id) = v.bodies.get? id

/-- The workspace where a use is stored and pinned, and the program has not been chosen yet. -/
def stored (w : Workspace) (f : Fragment) : Workspace :=
  { w with
    registry := w.registry.allocate
    entries := ⟨w.registry.nextId, f, false, w.pinned, []⟩ :: w.entries
    pinned := some w.registry.nextId }

theorem add_use (w : Workspace) {f : Fragment} (hf : f.isDeclaration = false) :
    w.add f = { w.stored f with
      registry := (w.stored f).registry.markAll .var
        (((w.stored f).liveVariables w.registry.nextId).map Binding.name)
      emission := (w.stored f).select w.registry.nextId } := by
  unfold add stored
  simp [hf]

section Mirrors

variable {ρ : FragmentId → FragmentId} {v w : Workspace} (h : v.Mirrors ρ w)

include h

theorem Mirrors.matches : v.Matches ρ w := ⟨h.entries, h.registry.declared .var⟩

theorem Mirrors.resetLiveness : v.resetLiveness.Mirrors ρ w.resetLiveness :=
  ⟨h.registry.resetLiveness, h.entries, h.specs, h.bodies⟩

theorem Mirrors.markAll (kind : Kind) (names : List Text) :
    ({ v with registry := v.registry.markAll kind names } : Workspace).Mirrors ρ
      { w with registry := w.registry.markAll kind names } :=
  ⟨h.registry.markAll kind names, h.entries, h.specs, h.bodies⟩

theorem Mirrors.declareImport (spec : ImportSpec) :
    (v.declareImport spec).Mirrors ρ (w.declareImport spec) := by
  have hkeeps : w.keepsSpec spec.path = v.keepsSpec spec.path := by
    funext name other
    unfold keepsSpec
    rw [h.registry.owner?, Option.isSome_map]
  unfold Workspace.declareImport
  simp only [hkeeps, h.specs, h.registry.names]
  exact ⟨(h.registry.forget _).record .package _ (.text _), h.entries, rfl, h.bodies⟩

theorem Mirrors.declareImports (specs : List ImportSpec) :
    (specs.foldl Workspace.declareImport v).Mirrors ρ
      (specs.foldl Workspace.declareImport w) := by
  induction specs generalizing v w with
  | nil => exact h
  | cons spec specs ih => exact ih (h.declareImport spec)

theorem Mirrors.declare {f : Fragment} (hf : f.isDeclaration = true) :
    (v.add f).Mirrors ρ (w.add f) := by
  have hid : ρ v.registry.nextId = w.registry.nextId := h.registry.nextId 0
  refine ⟨?_, ?_, by simpa using h.specs, by simpa using h.bodies⟩
  · unfold add
    simp only [hf, if_true, ← hid]
    exact h.registry.allocate.declareNames v.registry.nextId f.declaredNames
  · rw [entries_add, entries_add]
    exact .cons ⟨hid.symm, rfl, rfl⟩ h.entries

theorem Mirrors.body? : body? w.bodies w.registry = body? v.bodies v.registry := by
  funext name
  unfold Workspace.body?
  rw [h.registry.owner?]
  cases v.registry.owner? .func name with
  | none => rfl
  | some owner =>
    cases owner with
    | text t => rfl
    | fragment id => exact h.bodies id

theorem Mirrors.liveBodies : w.liveBodies = v.liveBodies := by
  have hlive : w.registry.isLive .func = v.registry.isLive .func := by
    funext name
    unfold Registry.isLive
    rw [h.registry.live]
  unfold Workspace.liveBodies
  rw [h.registry.names, hlive, h.body?]

theorem Mirrors.scan (hem : w.emitted = v.emitted) : v.scan.Mirrors ρ w.scan := by
  have hfunctions : (v.scanFunctions v.emitted).Mirrors ρ (w.scanFunctions w.emitted) := by
    have hunmarked : unmarked w.registry = unmarked v.registry := by
      unfold unmarked
      rw [h.registry.names, funext (h.registry.isMarkable .func)]
    unfold scanFunctions
    rw [hem, h.liveBodies, h.body?, hunmarked]
    exact h.markAll .func _
  unfold Workspace.scan scanImports
  have hbodies := hfunctions.liveBodies
  have hemitted : (w.scanFunctions w.emitted).emitted = (v.scanFunctions v.emitted).emitted := hem
  simp only [hbodies, hemitted, hfunctions.registry.names]
  exact hfunctions.markAll .package _

theorem Mirrors.regions (hem : w.emitted = v.emitted) : w.regions = v.regions := by
  unfold Workspace.regions importBlock functionBlock statementBlock
  rw [hem, h.liveBodies, h.registry.declared, List.filterMap_map]
  congr 2
  refine List.filterMap_congr fun ⟨name, owner⟩ _ ↦ ?_
  cases owner with
  | fragment id => rfl
  | text t =>
    simp only [Function.comp_apply, Owner.renumber]
    unfold Registry.isLive
    rw [h.registry.live]

section Numbering

variable (hρ : StrictMono ρ)

include hρ

theorem Mirrors.declareFunction {f : Fragment} :
    Option.Rel (fun a b ↦ b.1 = a.1 ∧ a.2.Mirrors ρ b.2) (v.declareFunction? f)
      (w.declareFunction? f) := by
  unfold declareFunction?
  cases f.functionName? with
  | none => exact .none
  | some name =>
    have hid : ρ v.registry.nextId = w.registry.nextId := h.registry.nextId 0
    refine .some ⟨rfl, ?_, h.entries, h.specs, fun id ↦ ?_⟩
    · have hreg := h.registry.allocate.record .func name (.fragment v.registry.nextId)
      simp only [← hid]
      have hnames := hreg.names .func
      simp only [Owner.renumber] at hnames hreg
      rw [hnames]
      exact hreg.markAll _ _
    · simp only [Ledger.get?_put, ← hid, hρ.injective.eq_iff, h.registry.owner?]
      cases v.registry.owner? .func name with
      | none => simp [h.bodies]
      | some owner =>
        cases owner with
        | text t => simp [Owner.renumber, Owner.fragment?, h.bodies]
        | fragment old =>
          simp [Owner.renumber, Owner.fragment?, Ledger.get?_erase, hρ.injective.eq_iff, h.bodies]

/-- A use chooses the program anew, and the choice is the same. -/
theorem Mirrors.use {f : Fragment} (hf : f.isDeclaration = false) :
    (v.add f).Mirrors ρ (w.add f) ∧ (w.add f).emitted = (v.add f).emitted := by
  have hid : ρ v.registry.nextId = w.registry.nextId := h.registry.nextId 0
  have hstored : (v.stored f).Mirrors ρ (w.stored f) :=
    ⟨h.registry.allocate, .cons ⟨hid.symm, rfl, rfl⟩ h.entries, h.specs, h.bodies⟩
  have hnames : ((w.stored f).liveVariables w.registry.nextId).map Binding.name =
      ((v.stored f).liveVariables v.registry.nextId).map Binding.name := by
    rw [← hid, hstored.matches.liveVariables hρ, List.map_map]
    rfl
  have hadded : (v.add f).Mirrors ρ (w.add f) := by
    rw [add_use v hf, add_use w hf, hnames]
    exact ⟨hstored.registry.markAll _ _, hstored.entries, hstored.specs, hstored.bodies⟩
  refine ⟨hadded, hadded.matches.emitted hρ ?_⟩
  rw [add_use v hf, add_use w hf]
  change (w.stored f).select _ = ((v.stored f).select _).map ρ
  rw [← hid]
  exact hstored.matches.select hρ _

end Numbering

/-- Both take the same use back, whatever has been marked since it was stored. -/
theorem Mirrors.rollback_use {v' w' : Workspace} {f : Fragment} (hf : f.isDeclaration = false)
    (h' : v'.Mirrors ρ w') (hv : v'.entries = (v.add f).entries)
    (hw : w'.entries = (w.add f).entries) : v'.rollback.Mirrors ρ w'.rollback := by
  constructor
  · rw [registry_rollback_use hf hv, registry_rollback_use hf hw]
    exact h'.registry
  · rw [entries_rollback (hv.trans (entries_add v f)),
      entries_rollback (hw.trans (entries_add w f))]
    exact h.entries
  · rw [specs_rollback, specs_rollback, h'.specs]
  · rw [bodies_rollback, bodies_rollback]
    exact h'.bodies

end Mirrors

/-! ## Where two sessions begin to differ -/

/-- The numbers in the records and those of the bodies have been given out. -/
structure Numbered (w : Workspace) : Prop where
  records : ∀ n d id, w.registry.get? n = some d → d.owner = .fragment id → id < w.registry.nextId
  bodies : ∀ id f, w.bodies.get? id = some f → id < w.registry.nextId

/-- A workspace that differs in the number of the next fragment and in marks that are gone. -/
theorem KeepsRecords.mirrors {v w : Workspace} (h : v.KeepsRecords w)
    (hes : w.entries = v.entries) (hbounded : ∀ e ∈ v.entries, e.id < v.registry.nextId)
    (hv : v.Numbered) (hmarks : v.registry.hasLive = false) :
    v.Mirrors (shift v.registry.nextId (w.registry.nextId - v.registry.nextId)) w := by
  have hlive : v.registry.live = .empty := by
    refine Ledger.ext ?_
    simpa [Registry.hasLive, Ledger.empty] using hmarks
  refine ⟨⟨?_, ?_, fun k ↦ ?_⟩, ?_, h.specs, fun id ↦ ?_⟩
  · rw [h.declarations]
    refine (Ledger.mapValues_eq_self fun e he ↦ ?_).symm
    obtain ⟨name, kind, owner⟩ := e
    cases owner with
    | text t => rfl
    | fragment id =>
      have hid := hv.records name _ id (Ledger.mem_entries.mp he) rfl
      simp [Declaration.moved, Owner.renumber, shift_of_lt hid]
  · rcases h.live with hw | hw
    · exact hw
    · rw [hw, hlive]
  · rw [shift_add, Nat.add_sub_cancel' h.nextId]
  · rw [hes]
    exact List.forall₂_same.mpr fun e he ↦ ⟨(shift_of_lt (hbounded e he)).symm, rfl, rfl⟩
  · rw [h.bodies]
    by_cases hid : id < v.registry.nextId
    · rw [shift_of_lt hid]
    · have hnone : ∀ i, v.registry.nextId ≤ i → v.bodies.get? i = none := fun i hi ↦ by
        by_contra hne
        obtain ⟨f, hf⟩ := Option.ne_none_iff_exists'.mp hne
        exact absurd (hv.bodies i f hf) (Nat.not_lt.mpr hi)
      rw [hnone id (Nat.not_lt.mp hid), hnone]
      unfold shift
      rw [if_neg hid]
      exact Nat.le_trans (Nat.not_lt.mp hid) (Nat.le_add_right ..)

theorem Numbered.of_records {v w : Workspace} (hv : v.Numbered)
    (hid : v.registry.nextId ≤ w.registry.nextId)
    (hrecords : ∀ n d id, w.registry.get? n = some d → d.owner = .fragment id →
      v.registry.get? n = some d ∨ id < w.registry.nextId)
    (hbodies : ∀ id f, w.bodies.get? id = some f →
      v.bodies.get? id = some f ∨ id < w.registry.nextId) : w.Numbered where
  records := fun n d id hn hd ↦ (hrecords n d id hn hd).elim
    (fun h ↦ Nat.lt_of_lt_of_le (hv.records n d id h hd) hid) fun h ↦ h
  bodies := fun id f hf ↦ (hbodies id f hf).elim
    (fun h ↦ Nat.lt_of_lt_of_le (hv.bodies id f h) hid) fun h ↦ h

end Workspace

/-! ## Sessions -/

namespace Session

open Workspace

theorem Reachable.numbered {s : Session} (hs : s.Reachable) : s.workspace.Numbered := by
  refine hs.records_induction (P := Numbered)
    ?empty ?declareImport ?declareFunction ?declare ?keeps
  case empty => constructor <;> simp [Registry.get?]
  case declareImport =>
    intro w spec _ hw
    refine hw.of_records (hides_declareImport w spec).nextId (fun n d id hn hd ↦ .inl ?_)
      fun _ _ hf ↦ .inl hf
    exact (get?_declareImport hn).resolve_left fun hnew ↦ by simp [hnew] at hd
  case declareFunction =>
    intro w w' f name hdecl hw
    obtain ⟨-, hid, hget, hbodies⟩ := declareFunction?_spec hdecl
    have hnew : w.registry.nextId < w'.registry.nextId := hid ▸ Nat.lt_succ_self _
    refine hw.of_records (Nat.le_of_lt hnew) (fun n d id hn hd ↦ ?_) fun id g hg ↦ ?_
    · rw [hget] at hn
      split at hn
      · cases hn
        cases hd
        exact .inr hnew
      · exact .inl hn
    · have hg := hbodies id g hg
      split at hg
      · rename_i hsame
        exact .inr (hsame ▸ hnew)
      · exact .inl hg
  case declare =>
    intro w f hf hw
    refine hw.of_records (by simp) (fun n d id hn hd ↦ ?_) fun id g hg ↦ .inl (by simpa using hg)
    rw [get?_add] at hn
    split at hn
    · cases hn
      cases hd
      exact .inr (by simp)
    · exact .inl hn
  case keeps =>
    intro v w hkeeps hv
    exact hv.of_records hkeeps.nextId (fun n d id hn _ ↦ .inl (hkeeps.get? n ▸ hn))
      fun id f hf ↦ .inl (hkeeps.bodies ▸ hf)

/-- `t` is `s` with the fragments renumbered. -/
structure Mirrors (ρ : FragmentId → FragmentId) (s t : Session) : Prop where
  workspace : s.workspace.Mirrors ρ t.workspace
  template : t.template = s.template
  programFile : t.programFile = s.programFile

end Session

/-- Both steps demand the same, and with the same answer they come to the same end. -/
inductive Step.Mirrors (ρ : FragmentId → FragmentId) : Step → Step → Prop
  | settled {s t : Session} (o : Outcome) : s.Mirrors ρ t → Mirrors ρ (.settled o s) (.settled o t)
  | demands (d : Demand) {next next' : d.Answer → Outcome × Session} :
      (∀ a, (next' a).1 = (next a).1 ∧ (next a).2.Mirrors ρ (next' a).2) →
      Mirrors ρ (.demands d next) (.demands d next')

theorem Step.Mirrors.settle {ρ : FragmentId → FragmentId} {a b : Step} (h : a.Mirrors ρ b)
    (replies : (d : Demand) → d.Answer) :
    b.demand? = a.demand? ∧ (b.settle replies).1 = (a.settle replies).1 ∧
      (a.settle replies).2.Mirrors ρ (b.settle replies).2 := by
  cases h with
  | settled o hst => exact ⟨rfl, rfl, hst⟩
  | demands d hnext => exact ⟨rfl, hnext (replies d)⟩

/-- A run comes to the one end or the other by what its answer means. -/
theorem Step.Mirrors.run {ρ : FragmentId → FragmentId} {path path' program program' : Text}
    {ran ran' failed failed' : Session} (hpath : path' = path) (hprogram : program' = program)
    (hran : ran.Mirrors ρ ran') (hfailed : failed.Mirrors ρ failed') :
    Step.Mirrors ρ
      (.demands (.run path program) fun answer =>
        match Session.interpretRun path answer with
        | .ok out => (.output out, ran)
        | .error e => (.failed e, failed))
      (.demands (.run path' program') fun answer =>
        match Session.interpretRun path' answer with
        | .ok out => (.output out, ran')
        | .error e => (.failed e, failed')) := by
  subst hpath hprogram
  refine .demands _ fun answer ↦ ?_
  cases Session.interpretRun path' answer with
  | ok out => exact ⟨rfl, hran⟩
  | error e => exact ⟨rfl, hfailed⟩

namespace Session

open Workspace

section Mirrors

variable {ρ : FragmentId → FragmentId} {s t : Session} (h : s.Mirrors ρ t)

include h

theorem Mirrors.withBlock (line : Text) (source : List SourceItem) {go go' : Fragment → Step}
    (hgo : ∀ f, (go f).Mirrors ρ (go' f)) :
    (s.withBlock line source go).step.Mirrors ρ (t.withBlock line source go').step := by
  unfold Session.withBlock
  dsimp only
  cases (Fragment.read line source).result with
  | ok f => exact hgo f
  | error e => exact .settled _ h

theorem Mirrors.of_workspace {v w : Workspace} (hvw : v.Mirrors ρ w) :
    Session.Mirrors ρ { s with workspace := v } { t with workspace := w } :=
  ⟨hvw, h.template, h.programFile⟩

theorem Mirrors.importSpecs (specs : List ImportSpec) :
    (s.importSpecs specs).Mirrors ρ (t.importSpecs specs) :=
  .settled _ (h.of_workspace (h.workspace.declareImports specs))

theorem Mirrors.showValue (line : Text) : (s.showValue line).Mirrors ρ (t.showValue line) := by
  have hreset := h.of_workspace h.workspace.resetLiveness
  exact .run h.programFile (by rw [h.template]) hreset hreset

variable (hρ : StrictMono ρ)

include hρ

theorem Mirrors.storeFunction (line : Text) (f : Fragment) :
    (s.storeFunction line f).Mirrors ρ (t.storeFunction line f) := by
  have hrel := h.workspace.declareFunction hρ (f := f)
  unfold Session.storeFunction
  generalize s.workspace.declareFunction? f = a, t.workspace.declareFunction? f = b at hrel ⊢
  cases hrel with
  | none => exact .settled _ h
  | @some a b hab =>
    obtain ⟨name, v⟩ := a
    obtain ⟨name', w⟩ := b
    obtain ⟨rfl, hvw⟩ := hab
    exact .settled _ (h.of_workspace hvw)

theorem Mirrors.storeStatement (f : Fragment) :
    (s.storeStatement f).Mirrors ρ (t.storeStatement f) := by
  cases hf : f.isDeclaration with
  | true =>
    unfold Session.storeStatement
    simp only [hf, if_true]
    exact .settled _ (h.of_workspace (h.workspace.declare hf))
  | false =>
    obtain ⟨hadded, hem⟩ := h.workspace.use hρ hf
    have hscanned := hadded.scan hem
    have hassembled := (hscanned.scan hem).resetLiveness
    have hprogram := (hscanned.scan hem).regions hem
    rw [storeStatement_use s hf, storeStatement_use t hf, hscanned.entries.length_eq,
      hscanned.registry.hasLive]
    split
    · have hback := h.workspace.rollback_use hf hscanned rfl rfl
      exact .settled _ (h.of_workspace hback.resetLiveness)
    · have hback := h.workspace.rollback_use hf hassembled rfl rfl
      refine .run h.programFile ?_ (h.of_workspace hassembled) (h.of_workspace hback)
      rw [h.template, hprogram]

/-- A line that does not ask for the program as it stands goes on in the same way from both. -/
theorem Mirrors.start {line : Text} (source : List SourceItem)
    (hline : (Command.classify line).exportsProgram = false) :
    (s.start line source).step.Mirrors ρ (t.start line source).step := by
  unfold Session.start
  cases hc : Command.classify line with
  | blank | exit => exact .settled _ h
  | save | publish => simp [hc, Command.exportsProgram] at hline
  | bring text =>
    simp only
    split
    · exact h.withBlock _ _ fun f ↦ h.importSpecs _
    · split
      · exact h.importSpecs _
      · exact .settled _ h
  | function => exact h.withBlock _ _ (h.storeFunction hρ _)
  | direct => exact h.showValue _
  | statement => exact h.withBlock _ _ (h.storeStatement hρ)

theorem Mirrors.converse (replies : (d : Demand) → d.Answer)
    {later : List (Text × List SourceItem)}
    (hlater : ∀ turn ∈ later, (Command.classify turn.1).exportsProgram = false) :
    (t.converse replies later).1 = (s.converse replies later).1 := by
  induction later generalizing s t with
  | nil => rfl
  | cons turn later ih =>
    obtain ⟨line, source⟩ := turn
    obtain ⟨hdemand, hout, hnext⟩ :=
      (h.start hρ source (hlater _ List.mem_cons_self)).settle replies
    have hrest := ih hnext fun turn hturn ↦ hlater turn (List.mem_cons_of_mem _ hturn)
    simp only [Session.converse, hdemand, hout, hrest]

end Mirrors

/-! ## Turns without a trace -/

variable {s s' : Session} {line : Text} {source : List SourceItem} {o : Outcome}

/-- A turn that fails, shows a value or asks for the program as it stands ends with no declaration,
and accepts no statement. -/
theorem Turn.traceless (h : s.Turn line source o s')
    (hkind : o.isFailure = true ∨ Command.classify line = .direct ∨
      (Command.classify line).exportsProgram = true) :
    s.workspace.KeepsRecords s'.workspace ∧ s'.workspace.entries = s.workspace.entries ∧
      s'.template = s.template ∧ s'.programFile = s.programFile := by
  have hkeeps : s.workspace.KeepsRecords s'.workspace := by
    refine h.keepsRecords fun names ho ↦ ?_
    subst ho
    obtain ⟨-, hdirect, hexports⟩ := h.of_declared
    simp [Outcome.isFailure, hdirect, hexports] at hkind
  have hes : s'.workspace.entries = s.workspace.entries := by
    rw [h.entries none, Exchange.accepted?_eq_none]
    rcases hkind with ho | hc | hc
    · exact .inl (Outcome.not_isAccepted ho)
    · exact .inr (by simp [hc])
    · exact .inr fun hstatement ↦ by simp [hstatement, Command.exportsProgram] at hc
  refine ⟨hkeeps, hes, ?_⟩
  cases h <;> exact ⟨rfl, rfl⟩

/-- Where no mark is pending, a turn that fails, shows a value, saves the program or publishes it
changes nothing in the log of the turns after it, as long as these do not ask for the program as it
stands. -/
theorem invisible_turn (hs : s.Reachable) (hmarks : s.workspace.registry.hasLive = false)
    (h : (s.start line source).step.Ends o s')
    (hkind : o.isFailure = true ∨ Command.classify line = .direct ∨
      (Command.classify line).exportsProgram = true)
    (replies : (d : Demand) → d.Answer) {later : List (Text × List SourceItem)}
    (hlater : ∀ turn ∈ later, (Command.classify turn.1).exportsProgram = false) :
    (s'.converse replies later).1 = (s.converse replies later).1 := by
  obtain ⟨hkeeps, hes, htemplate, hfile⟩ := (turn_of_ends h).traceless hkind
  have hmirrors := hkeeps.mirrors hes hs.workspace.wellFormed.bounded hs.numbered hmarks
  exact Mirrors.converse ⟨hmirrors, htemplate, hfile⟩ (strictMono_shift ..) replies hlater

/-- The failed use selects the program anew, and the declaration of a variable whose name has become
a function's is no longer in it.  The uses after it do not notice. -/
theorem invisible_turn_failed_use :
    let s := played "a, b := 1, 2\nfmt.Println(a)\nfunc a() \x7b\n\x7d\n1\n"
    let replies := Demand.compiled (rejectingText "missing".toList)
    let failed := (s.start "b = missing".toList []).step.settle replies
    let later : List (Text × List SourceItem) :=
      [("fmt.Println(b)".toList, []), ("missing(b)".toList, []), ("b++".toList, []),
        ("import \"os\"".toList, []),
        ("func g() \x7b".toList, [.line "a()".toList, .line "\x7d".toList]),
        ("os.Exit(b, g)".toList, [])]
    failed.1.isFailure = true ∧ s.workspace.registry.hasLive = false ∧
      failed.2.workspace.registry.nextId ≠ s.workspace.registry.nextId ∧
      failed.2.workspace.emitted ≠ s.workspace.emitted ∧
      (failed.2.converse replies later).1 = (s.converse replies later).1 := by
  intro s replies failed later
  have hfails : failed.1.isFailure = true := by decide +kernel
  have hmarks : s.workspace.registry.hasLive = false := by decide +kernel
  refine ⟨hfails, hmarks, by decide +kernel, by decide +kernel, ?_⟩
  exact invisible_turn (reachable_played _) hmarks (Step.ends_settle replies _) (.inl hfails)
    replies (by decide +kernel)

end Session
end GoRepl
