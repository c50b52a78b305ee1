import Mathlib.Data.List.Nodup
import GoRepl.Proofs.Records

/-!
# The history

A statement is stored with what is needed to take it back: the statement that was pinned before,
and the records its names had.  `Stacked` says that these notes fit the statements below them, and
`WellFormed` that the workspace fits its history: identifiers grow, the pinned statement is the
latest one unless that is a declaration, and each variable is owned by a statement that declares
it.  What looking owners up takes of this is `Grounded`, which says nothing of the notes.

Storing a statement and taking it back preserve this (`WellFormed.add`, `WellFormed.rollback`).
All other operations leave the statements alone and at most hide variables behind functions and
packages; `Hides` is what they have in common, and `WellFormed.of_hides` treats them at once.
-/

namespace GoRepl

/-- The record that a name had before the statement, if the statement displaced it. -/
def Entry.before? (e : Entry) (name : Text) : Option (Option Declaration) :=
  e.displaced.reverse.lookup name

/-- Numbers that grow tell statements apart. -/
theorem Entry.eq_of_id_eq {es : List Entry} (h : (es.map Entry.id).Pairwise (· > ·)) {d e : Entry}
    (hd : d ∈ es) (he : e ∈ es) (hid : d.id = e.id) : d = e :=
  List.inj_on_of_nodup_map (h.imp Nat.ne_of_gt) hd he hid

namespace Workspace

/-- The latest statement, unless it is a declaration. -/
def latestUse? : List Entry → Option FragmentId
  | [] => none
  | e :: _ => if e.declares then none else some e.id

/-- If the record is a variable's, one of the statements declares the name and owns it. -/
def Accounted (es : List Entry) (name : Text) (record : Option Declaration) : Prop :=
  ∀ owner, record = some ⟨.var, owner⟩ →
    ∃ e ∈ es, owner = .fragment e.id ∧ e.declares = true ∧ name ∈ e.fragment.declaredNames

/-- The notes of each statement, latest first, fit the statements below it. -/
inductive Stacked : List Entry → Prop
  | nil : Stacked []
  | cons {e : Entry} {es : List Entry}
      (later : ∀ e' ∈ es, e'.id < e.id)
      (declares : e.declares = e.fragment.isDeclaration)
      (pinned : e.pinnedBefore = latestUse? es)
      (uses : e.declares = false → e.displaced = [])
      (noted : e.declares = true → ∀ n ∈ e.fragment.declaredNames, (e.before? n).isSome)
      (before : ∀ n p, e.before? n = some p → Accounted es n p)
      (below : Stacked es) : Stacked (e :: es)

structure WellFormed (w : Workspace) : Prop where
  stacked : Stacked w.entries
  bounded : ∀ e ∈ w.entries, e.id < w.registry.nextId
  pinned : w.pinned = latestUse? w.entries
  owned : ∀ n, Accounted w.entries n (w.registry.get? n)

/-- What looking owners up relies on: statements are numbered upwards, and each variable is owned by
one that declares it. -/
structure Grounded (w : Workspace) : Prop where
  increasing : (w.entries.map Entry.id).Pairwise (· > ·)
  bounded : ∀ e ∈ w.entries, e.id < w.registry.nextId
  owned : ∀ n, Accounted w.entries n (w.registry.get? n)

theorem Accounted.cons {es : List Entry} {name : Text} {record : Option Declaration}
    (h : Accounted es name record) (e : Entry) : Accounted (e :: es) name record := by
  intro owner hr
  obtain ⟨d, hd, hrest⟩ := h owner hr
  exact ⟨d, List.mem_cons_of_mem e hd, hrest⟩

namespace Stacked

theorem pairwise_id {es : List Entry} (h : Stacked es) : (es.map Entry.id).Pairwise (· > ·) := by
  induction h with
  | nil => exact .nil
  | cons later _ _ _ _ _ _ ih =>
    refine List.pairwise_cons.mpr ⟨?_, ih⟩
    intro id hid
    obtain ⟨e, he, rfl⟩ := List.mem_map.mp hid
    exact later e he

/-- Identifiers tell the statements apart. -/
theorem eq_of_id_eq {es : List Entry} (h : Stacked es) {d e : Entry} (hd : d ∈ es) (he : e ∈ es)
    (hid : d.id = e.id) : d = e := Entry.eq_of_id_eq h.pairwise_id hd he hid

/-- The use that is the latest statement stands on top and is later than all others. -/
theorem le_of_latestUse? {es : List Entry} (h : Stacked es) {p : FragmentId}
    (hp : latestUse? es = some p) :
    ∃ e ∈ es, e.id = p ∧ e.declares = false ∧ ∀ d ∈ es, d.id ≤ p := by
  cases h with
  | nil => simp [latestUse?] at hp
  | @cons e es later =>
    unfold latestUse? at hp
    cases hd : e.declares with
    | true => simp [hd] at hp
    | false =>
      obtain rfl : e.id = p := by simpa [hd] using hp
      refine ⟨e, List.mem_cons_self, rfl, hd, fun d hm ↦ ?_⟩
      rcases List.mem_cons.mp hm with rfl | hm
      · exact Nat.le_refl _
      · exact Nat.le_of_lt (later d hm)

end Stacked

theorem Grounded.eq_of_id_eq {w : Workspace} (hw : w.Grounded) {d e : Entry} (hd : d ∈ w.entries)
    (he : e ∈ w.entries) (hid : d.id = e.id) : d = e := Entry.eq_of_id_eq hw.increasing hd he hid

theorem WellFormed.grounded {w : Workspace} (hw : w.WellFormed) : w.Grounded :=
  ⟨hw.stacked.pairwise_id, hw.bounded, hw.owned⟩

instance (w : Workspace) : Coe w.WellFormed w.Grounded := ⟨WellFormed.grounded⟩

/-! ## Storing a statement -/

@[simp] theorem entries_add (w : Workspace) (f : Fragment) :
    (w.add f).entries = ⟨w.registry.nextId, f, f.isDeclaration, w.pinned,
      if f.isDeclaration then
        (declareNames w.registry.nextId f.declaredNames w.registry.allocate).2 else []⟩
      :: w.entries := by
  unfold add
  cases f.isDeclaration <;> rfl

theorem exists_entry_add (w : Workspace) (f : Fragment) :
    ∃ e, (w.add f).entries = e :: w.entries ∧ e.id = w.registry.nextId ∧ e.fragment = f ∧
      e.declares = f.isDeclaration :=
  ⟨_, entries_add w f, rfl, rfl, rfl⟩

theorem pinned_add (w : Workspace) (f : Fragment) :
    (w.add f).pinned = if f.isDeclaration then none else some w.registry.nextId := by
  unfold add
  cases f.isDeclaration <;> rfl

/-- A declaration takes its names over; a use changes no record. -/
theorem get?_add (w : Workspace) (f : Fragment) (n : Text) :
    (w.add f).registry.get? n =
      if f.isDeclaration ∧ n ∈ f.declaredNames then some ⟨.var, .fragment w.registry.nextId⟩
      else w.registry.get? n := by
  unfold add
  cases f.isDeclaration with
  | true => simpa using get?_declareNames w.registry.nextId f.declaredNames w.registry.allocate n
  | false => exact Registry.get?_congr (by simp) n

@[simp] theorem nextId_add (w : Workspace) (f : Fragment) :
    (w.add f).registry.nextId = w.registry.nextId + 1 := by
  unfold add
  cases f.isDeclaration <;> simp

/-- A declaration notes the records that its names had. -/
theorem before?_add_eq (w : Workspace) (f : Fragment) (name : Text) :
    Entry.before? ⟨w.registry.nextId, f, f.isDeclaration, w.pinned,
      if f.isDeclaration then
        (declareNames w.registry.nextId f.declaredNames w.registry.allocate).2 else []⟩ name =
      if f.isDeclaration ∧ name ∈ f.declaredNames then some (w.registry.get? name) else none := by
  unfold Entry.before?
  cases f.isDeclaration with
  | true => simp [declareNames_displaced]
  | false => simp

/-- What a statement notes of its names is what the registry held before it. -/
theorem before?_add (w : Workspace) (f : Fragment) (n : Text) {p : Option Declaration}
    (h : Entry.before? ⟨w.registry.nextId, f, f.isDeclaration, w.pinned,
      if f.isDeclaration then
        (declareNames w.registry.nextId f.declaredNames w.registry.allocate).2 else []⟩ n =
      some p) : p = w.registry.get? n := by
  rw [before?_add_eq] at h
  split at h
  · exact (Option.some.inj h).symm
  · cases h

theorem Grounded.add {w : Workspace} (hw : w.Grounded) (f : Fragment) : (w.add f).Grounded where
  increasing := by
    rw [entries_add, List.map_cons, List.pairwise_cons]
    refine ⟨fun id hid ↦ ?_, hw.increasing⟩
    obtain ⟨e, he, rfl⟩ := List.mem_map.mp hid
    exact hw.bounded e he
  bounded := by
    intro e he
    rw [entries_add] at he
    rw [nextId_add]
    rcases List.mem_cons.mp he with rfl | he
    · exact Nat.lt_succ_self _
    · exact Nat.lt_succ_of_lt (hw.bounded e he)
  owned := by
    intro n
    rw [get?_add, entries_add]
    by_cases h : f.isDeclaration = true ∧ n ∈ f.declaredNames
    · rw [if_pos h]
      intro owner ho
      cases ho
      exact ⟨_, List.mem_cons_self, rfl, h.1, h.2⟩
    · rw [if_neg h]
      exact (hw.owned n).cons _

theorem WellFormed.add {w : Workspace} (hw : w.WellFormed) (f : Fragment) :
    (w.add f).WellFormed where
  stacked := by
    rw [entries_add]
    refine .cons hw.bounded rfl hw.pinned (fun hf ↦ ?_) (fun hf n hn ↦ ?_) (fun n p hp ↦ ?_)
      hw.stacked
    · simp only at hf
      simp [hf]
    · simp only at hf hn
      simp [Entry.before?, hf, declareNames_displaced, hn]
    · rw [before?_add w f n hp]
      exact hw.owned n
  bounded := (hw.grounded.add f).bounded
  pinned := by
    rw [entries_add, pinned_add]
    rfl
  owned := (hw.grounded.add f).owned

/-! ## Taking it back -/

theorem rollback_nil {w : Workspace} (h : w.entries = []) : w.rollback = w := by
  unfold rollback
  rw [h]

section Rollback

variable {w : Workspace} {e : Entry} {es : List Entry}

theorem entries_rollback (h : w.entries = e :: es) : w.rollback.entries = es := by
  unfold rollback
  rw [h]

theorem pinned_rollback (h : w.entries = e :: es) : w.rollback.pinned = e.pinnedBefore := by
  unfold rollback
  rw [h]

theorem registry_rollback (h : w.entries = e :: es) :
    w.rollback.registry = w.registry.restoreAll e.displaced := by
  unfold rollback
  rw [h]
  rfl

/-- Each record is the one noted by the statement, or else the present one. -/
theorem get?_rollback (h : w.entries = e :: es) (n : Text) :
    w.rollback.registry.get? n = (e.before? n).getD (w.registry.get? n) := by
  rw [registry_rollback h]
  exact Registry.get?_restoreAll ..

end Rollback

theorem WellFormed.rollback {w : Workspace} (hw : w.WellFormed) : w.rollback.WellFormed := by
  cases hes : w.entries with
  | nil => rwa [rollback_nil hes]
  | cons e es =>
    have hst := hes ▸ hw.stacked
    cases hst with
    | cons later declares pinned uses noted before below =>
    constructor
    · rwa [entries_rollback hes]
    · rw [entries_rollback hes, registry_rollback hes, Registry.nextId_restoreAll]
      exact fun d hd ↦ hw.bounded d (hes ▸ List.mem_cons_of_mem e hd)
    · rw [pinned_rollback hes, entries_rollback hes, pinned]
    · intro n
      rw [get?_rollback hes, entries_rollback hes]
      cases hn : e.before? n with
      | some p => exact before n p hn
      | none =>
        -- the statement does not own the name, so whoever owns it stands below
        intro owner ho
        obtain ⟨d, hd, hown, hdecl, hmem⟩ := hw.owned n owner ho
        rcases List.mem_cons.mp (hes ▸ hd) with rfl | hd
        · exact absurd (noted hdecl n hmem) (by simp [hn])
        · exact ⟨d, hd, hown, hdecl, hmem⟩

/-! ## The other operations -/

/-- `w` has the statements of `v` and no variables that `v` does not have: it may hide some of them
behind functions and packages. -/
structure Hides (v w : Workspace) : Prop where
  entries : w.entries = v.entries
  pinned : w.pinned = v.pinned
  emission : w.emission = v.emission
  nextId : v.registry.nextId ≤ w.registry.nextId
  vars : ∀ n owner, w.registry.get? n = some ⟨.var, owner⟩ →
    v.registry.get? n = some ⟨.var, owner⟩

theorem Hides.refl (w : Workspace) : w.Hides w :=
  ⟨rfl, rfl, rfl, Nat.le_refl _, fun _ _ h ↦ h⟩

theorem Hides.trans {u v w : Workspace} (h : u.Hides v) (h' : v.Hides w) : u.Hides w :=
  ⟨h'.entries.trans h.entries, h'.pinned.trans h.pinned, h'.emission.trans h.emission,
    Nat.le_trans h.nextId h'.nextId, fun n owner hn ↦ h.vars n owner (h'.vars n owner hn)⟩

theorem WellFormed.of_hides {v w : Workspace} (hv : v.WellFormed) (h : v.Hides w) :
    w.WellFormed where
  stacked := h.entries ▸ hv.stacked
  bounded := fun e he ↦ Nat.lt_of_lt_of_le (hv.bounded e (h.entries ▸ he)) h.nextId
  pinned := by rw [h.pinned, h.entries, hv.pinned]
  owned := by
    intro n owner ho
    rw [h.entries]
    exact hv.owned n owner (h.vars n owner ho)

theorem hides_declareFunction {w w' : Workspace} {f : Fragment} {name : Text}
    (h : w.declareFunction? f = some (name, w')) : w.Hides w' := by
  unfold declareFunction? at h
  obtain ⟨m, -, hm⟩ := Option.map_eq_some_iff.mp h
  cases hm
  refine ⟨rfl, rfl, rfl, by simp, fun n owner hn ↦ ?_⟩
  rw [Registry.get?_markAll, Registry.get?_record] at hn
  split at hn
  · simp at hn
  · exact hn

/-- An import records its package and takes records away. -/
theorem get?_declareImport {w : Workspace} {spec : ImportSpec} {n : Text} {d : Declaration}
    (h : (w.declareImport spec).registry.get? n = some d) :
    d = ⟨.package, .text spec.render⟩ ∨ w.registry.get? n = some d := by
  unfold declareImport at h
  simp only [Registry.get?_record, Registry.get?_forget] at h
  split at h
  · exact .inl (Option.some.inj h).symm
  · split at h
    · cases h
    · exact .inr h

theorem hides_declareImport (w : Workspace) (spec : ImportSpec) :
    w.Hides (w.declareImport spec) :=
  ⟨rfl, rfl, rfl, by simp [declareImport], fun _ _ hn ↦
    (get?_declareImport hn).resolve_left (by simp)⟩

theorem hides_scanFunctions (w : Workspace) (users : List Fragment) :
    w.Hides (w.scanFunctions users) :=
  ⟨rfl, rfl, rfl, by simp [scanFunctions], fun n owner hn ↦ by simpa [scanFunctions] using hn⟩

theorem hides_scanImports (w : Workspace) (users : List Fragment) :
    w.Hides (w.scanImports users) :=
  ⟨rfl, rfl, rfl, by simp [scanImports], fun n owner hn ↦ by simpa [scanImports] using hn⟩

theorem hides_resetLiveness (w : Workspace) : w.Hides w.resetLiveness :=
  ⟨rfl, rfl, rfl, Nat.le_refl _, fun _ _ h ↦ h⟩

/-! ## Runs -/

/-- A workspace without statements, as it is before the first one is stored.  Functions and
packages may be declared in it. -/
structure Bare (w : Workspace) : Prop where
  entries : w.entries = []
  pinned : w.pinned = none
  emission : w.emission = []
  vars : w.registry.names .var = []

/-- The workspaces to which storing statements and taking them back lead, in any order. -/
inductive Edited (start : Workspace) : Workspace → Prop
  | start : Edited start start
  | add {w : Workspace} (f : Fragment) : Edited start w → Edited start (w.add f)
  | rollback {w : Workspace} : Edited start w → Edited start w.rollback

/-- The workspaces to which all operations together lead, in any order. -/
inductive Reachable : Workspace → Prop
  | empty : Reachable {}
  | add {w : Workspace} (f : Fragment) : Reachable w → Reachable (w.add f)
  | rollback {w : Workspace} : Reachable w → Reachable w.rollback
  | declareFunction {w w' : Workspace} {f : Fragment} {name : Text} :
      Reachable w → w.declareFunction? f = some (name, w') → Reachable w'
  | declareImport {w : Workspace} (spec : ImportSpec) :
      Reachable w → Reachable (w.declareImport spec)
  | scanFunctions {w : Workspace} (users : List Fragment) :
      Reachable w → Reachable (w.scanFunctions users)
  | scanImports {w : Workspace} (users : List Fragment) :
      Reachable w → Reachable (w.scanImports users)
  | resetLiveness {w : Workspace} : Reachable w → Reachable w.resetLiveness

theorem bare_empty : Bare {} := ⟨rfl, rfl, rfl, rfl⟩

theorem Bare.wellFormed {w : Workspace} (hw : w.Bare) : w.WellFormed where
  stacked := hw.entries ▸ .nil
  bounded := by simp [hw.entries]
  pinned := by rw [hw.pinned, hw.entries]; rfl
  owned := by
    intro n owner ho
    have : n ∈ w.registry.names .var := Registry.mem_names.mpr ⟨owner, ho⟩
    simp [hw.vars] at this

theorem Edited.wellFormed {start w : Workspace} (hs : start.Bare) (hw : Edited start w) :
    w.WellFormed := by
  induction hw with
  | start => exact hs.wellFormed
  | add f _ ih => exact ih.add f
  | rollback _ ih => exact ih.rollback

/-- A property of all reachable workspaces, by what it takes of the other operations that they do
no more than hide variables. -/
theorem Reachable.induction {P : Workspace → Prop} (empty : P {})
    (add : ∀ {w}, Reachable w → P w → ∀ f, P (w.add f))
    (rollback : ∀ {w}, Reachable w → P w → P w.rollback)
    (hides : ∀ {v w}, v.Hides w → P v → P w) {w : Workspace} (hw : Reachable w) : P w := by
  induction hw with
  | empty => exact empty
  | add f hw ih => exact add hw ih f
  | rollback hw ih => exact rollback hw ih
  | declareFunction _ h ih => exact hides (hides_declareFunction h) ih
  | declareImport spec _ ih => exact hides (hides_declareImport _ spec) ih
  | scanFunctions users _ ih => exact hides (hides_scanFunctions _ users) ih
  | scanImports users _ ih => exact hides (hides_scanImports _ users) ih
  | resetLiveness _ ih => exact hides (hides_resetLiveness _) ih

theorem Reachable.wellFormed {w : Workspace} (hw : Reachable w) : w.WellFormed :=
  hw.induction bare_empty.wellFormed (fun _ ih f ↦ ih.add f) (fun _ ih ↦ ih.rollback)
    (fun h ih ↦ ih.of_hides h)

end Workspace
end GoRepl
