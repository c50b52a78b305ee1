import Mathlib.Data.List.Basic
import Mathlib.Data.List.Forall2
import Mathlib.Data.Nat.Basic
import Mathlib.Order.Monotone.Basic
import GoRepl.Proofs.Selection

/-!
# Undoing

Taking statements back leaves a workspace as it was before they were stored, but for the number of
the next statement and for the marks of live names, which no selection reads.  That the number does
not matter is a simulation: `Renumbers` says that the statements and variables of two workspaces
differ only in how the statements are numbered, storing and taking back preserve it, and where the
renumbering keeps the order both select the same statements.

A renumbering that leaves the numbers given out so far alone leaves the workspace alone
(`Edited.settled`).  So the workspace before and the one after may go on together, and what is
stored in either from then on corresponds by a shift.
-/

namespace GoRepl

/-! ## Tables -/

namespace Ledger

variable {κ α β : Type}

/-- Change the values, whatever their keys. -/
def mapValues (g : α → β) (l : Ledger κ α) : Ledger κ β where
  entries := l.entries.map fun e ↦ (e.1, g e.2)
  nodup_keys := by
    rw [List.map_map]
    exact l.nodup_keys

theorem mapValues_eq_self {g : α → α} {l : Ledger κ α} (h : ∀ e ∈ l.entries, g e.2 = e.2) :
    l.mapValues g = l := by
  refine ext ((List.map_congr_left fun e he ↦ ?_).trans (List.map_id _))
  rw [h e he]
  rfl

variable [DecidableEq κ]

theorem get?_mapValues (g : α → β) (l : Ledger κ α) (k : κ) :
    (l.mapValues g).get? k = (l.get? k).map g := by
  unfold get? mapValues
  rw [List.find?_map, Option.map_map, Option.map_map]
  rfl

theorem mapValues_put (g : α → β) (l : Ledger κ α) (k : κ) (v : α) :
    (l.put k v).mapValues g = (l.mapValues g).put k (g v) := by
  refine ext ?_
  unfold put mapValues
  simp only
  induction l.entries with
  | nil => rfl
  | cons e es ih => by_cases h : e.1 = k <;> simp [putEntries, h, ih]

theorem mapValues_erase (g : α → β) (l : Ledger κ α) (k : κ) :
    (l.erase k).mapValues g = (l.mapValues g).erase k := by
  refine ext ?_
  change (l.entries.filter fun e ↦ e.1 ≠ k).map (fun e ↦ (e.1, g e.2)) =
    (l.entries.map fun e ↦ (e.1, g e.2)).filter fun e ↦ e.1 ≠ k
  rw [List.filter_map]
  rfl

/-- Give a key the value back that it had before, or none. -/
def putBack (l : Ledger κ α) (k : κ) : (previous : Option α) → Ledger κ α
  | some v => l.put k v
  | none => l.erase k

theorem mapValues_putBack (g : α → β) (l : Ledger κ α) (k : κ) (previous : Option α) :
    (l.putBack k previous).mapValues g = (l.mapValues g).putBack k (previous.map g) := by
  cases previous with
  | some v => exact mapValues_put g l k v
  | none => exact mapValues_erase g l k

/-- Give values back to keys, in the order of the list. -/
def putBackAll (l : Ledger κ α) (notes : List (κ × Option α)) : Ledger κ α :=
  notes.foldl (fun l note ↦ l.putBack note.1 note.2) l

theorem mapValues_putBackAll (g : α → β) (l : Ledger κ α) (notes : List (κ × Option α)) :
    (l.putBackAll notes).mapValues g =
      (l.mapValues g).putBackAll (notes.map fun note ↦ (note.1, note.2.map g)) := by
  induction notes generalizing l with
  | nil => rfl
  | cons note notes ih =>
    refine (ih (l.putBack note.1 note.2)).trans ?_
    rw [mapValues_putBack]
    rfl

theorem putEntries_putEntries {es : List (κ × α)} {k : κ} {u : α}
    (h : (es.find? fun e ↦ e.1 = k).map Prod.snd = some u) (v : α) :
    putEntries k u (putEntries k v es) = es := by
  induction es with
  | nil => cases h
  | cons e es ih =>
    rw [List.find?_cons] at h
    by_cases hk : e.1 = k
    · simp only [hk, decide_true, Option.map_some, Option.some.injEq] at h
      subst hk h
      simp [putEntries]
    · simp only [hk, decide_false] at h
      simp [putEntries, hk, ih h]

theorem filter_putEntries {es : List (κ × α)} {k : κ}
    (h : (es.find? fun e ↦ e.1 = k).map Prod.snd = none) (v : α) :
    (putEntries k v es).filter (fun e ↦ e.1 ≠ k) = es := by
  induction es with
  | nil => simp [putEntries]
  | cons e es ih =>
    rw [List.find?_cons] at h
    by_cases hk : e.1 = k
    · simp [hk] at h
    · simp only [hk, decide_false] at h
      rw [putEntries, if_neg hk, List.filter_cons, if_pos (by simpa using hk), ih h]

/-- A key that was there before has kept its place, and a new one stands at the end. -/
theorem putBack_put (l : Ledger κ α) (k : κ) (v : α) :
    (l.put k v).putBack k (l.get? k) = l := by
  cases h : l.get? k with
  | some u => exact ext (putEntries_putEntries h v)
  | none => exact ext (filter_putEntries h v)

end Ledger

/-! ## Records -/

namespace Registry

theorem declarations_restore (r : Registry) (name : Text) (previous : Option Declaration) :
    (r.restore name previous).declarations = r.declarations.putBack name previous := by
  cases previous <;> rfl

theorem declarations_restoreAll (r : Registry) (displaced : List (Text × Option Declaration)) :
    (r.restoreAll displaced).declarations = r.declarations.putBackAll displaced := by
  induction displaced generalizing r with
  | nil => rfl
  | cons e displaced ih =>
    refine (ih (r.restore e.1 e.2)).trans ?_
    rw [declarations_restore]
    rfl

end Registry

/-! ## Renumbering -/

section Renumber

variable (ρ : FragmentId → FragmentId)

def Owner.renumber : Owner → Owner
  | .fragment id => .fragment (ρ id)
  | .text t => .text t

/-- The owners of variables are statements; the fragments that own functions are none. -/
def Declaration.renumber (d : Declaration) : Declaration :=
  if d.kind = .var then { d with owner := d.owner.renumber ρ } else d

/-- A name with the record that it had before. -/
def renumberNote (note : Text × Option Declaration) : Text × Option Declaration :=
  (note.1, note.2.map (Declaration.renumber ρ))

def Entry.renumber (e : Entry) : Entry :=
  { e with
    id := ρ e.id
    pinnedBefore := e.pinnedBefore.map ρ
    displaced := e.displaced.map (renumberNote ρ) }

def Binding.renumber (b : Binding) : Binding := { b with owner := ρ b.owner }

end Renumber

namespace Workspace

variable {ρ : FragmentId → FragmentId}

/-- The statements and the variables of one workspace are those of the other, renumbered. -/
structure Renumbers (ρ : FragmentId → FragmentId) (v w : Workspace) : Prop where
  entries : w.entries = v.entries.map (Entry.renumber ρ)
  pinned : w.pinned = v.pinned.map ρ
  declarations : w.registry.declarations =
    v.registry.declarations.mapValues (Declaration.renumber ρ)

/-! ## Storing and taking back -/

theorem declareNames_renumber {r s : Registry}
    (h : s.declarations = r.declarations.mapValues (Declaration.renumber ρ)) (id : FragmentId)
    (names : List Text) :
    (declareNames (ρ id) names s).1.declarations =
        (declareNames id names r).1.declarations.mapValues (Declaration.renumber ρ) ∧
      (declareNames (ρ id) names s).2 = (declareNames id names r).2.map (renumberNote ρ) := by
  unfold declareNames
  refine List.foldl_rel (r := fun (before after : Registry × List (Text × Option Declaration)) ↦
    after.1.declarations = before.1.declarations.mapValues (Declaration.renumber ρ) ∧
      after.2 = before.2.map (renumberNote ρ)) ⟨h, rfl⟩ ?_
  rintro name - ⟨r, noted⟩ ⟨s, noted'⟩ ⟨hr, rfl⟩
  constructor
  · simp only [Registry.declarations_record]
    rw [hr, Ledger.mapValues_put]
    rfl
  · have hget : s.get? name = (r.get? name).map (Declaration.renumber ρ) := by
      unfold Registry.get?
      rw [hr, Ledger.get?_mapValues]
    change (name, s.get? name) :: noted.map (renumberNote ρ) = _
    rw [hget]
    rfl

theorem Renumbers.add {v w : Workspace} (h : Renumbers ρ v w)
    (hid : ρ v.registry.nextId = w.registry.nextId) (f : Fragment) :
    Renumbers ρ (v.add f) (w.add f) := by
  obtain ⟨hrecords, hnotes⟩ := declareNames_renumber (r := v.registry.allocate)
    (s := w.registry.allocate) h.declarations v.registry.nextId f.declaredNames
  refine ⟨?_, ?_, ?_⟩
  · rw [entries_add, entries_add, h.entries, h.pinned, ← hid, hnotes]
    cases f.isDeclaration <;> rfl
  · rw [pinned_add, pinned_add, ← hid]
    cases f.isDeclaration <;> rfl
  · unfold Workspace.add
    rw [← hid]
    cases f.isDeclaration with
    | true => exact hrecords
    | false => simpa using h.declarations

theorem Renumbers.rollback {v w : Workspace} (h : Renumbers ρ v w) :
    Renumbers ρ v.rollback w.rollback := by
  cases hv : v.entries with
  | nil =>
    have hw : w.entries = [] := by rw [h.entries, hv]; rfl
    rwa [rollback_nil hv, rollback_nil hw]
  | cons e es =>
    have hw : w.entries = e.renumber ρ :: es.map (Entry.renumber ρ) := by rw [h.entries, hv]; rfl
    refine ⟨?_, ?_, ?_⟩
    · rw [entries_rollback hv, entries_rollback hw]
    · rw [pinned_rollback hv, pinned_rollback hw]
      rfl
    · rw [registry_rollback hv, registry_rollback hw, Registry.declarations_restoreAll,
        Registry.declarations_restoreAll, h.declarations, Ledger.mapValues_putBackAll]
      rfl

end Workspace

/-! ## Selecting -/

namespace Binding

variable (ρ : FragmentId → FragmentId)

theorem partition_renumber (p : Binding → Bool) (hp : ∀ b, p (b.renumber ρ) = p b)
    (bs : List Binding) :
    (bs.map (renumber ρ)).partition p =
      ((bs.partition p).1.map (renumber ρ), (bs.partition p).2.map (renumber ρ)) := by
  rw [List.partition_eq_filter_filter, List.partition_eq_filter_filter, List.filter_map,
    List.filter_map]
  have h : p ∘ renumber ρ = p := funext hp
  rw [h, Function.comp_assoc, h]

theorem closure_renumber (unseen pending : List Binding) :
    closure (unseen.map (renumber ρ)) (pending.map (renumber ρ)) =
      (closure unseen pending).map (renumber ρ) := by
  fun_induction closure unseen pending with
  | case1 => simp [closure]
  | case2 unseen b pending brought ih =>
    rw [List.map_cons, closure, partition_renumber ρ _ (fun _ ↦ rfl), ← List.map_append]
    exact congrArg (renumber ρ b :: ·) ih

theorem liveFrom_renumber (all : List Binding) (tokens : List Text) :
    liveFrom (all.map (renumber ρ)) tokens = (liveFrom all tokens).map (renumber ρ) := by
  unfold liveFrom
  rw [partition_renumber ρ _ (fun _ ↦ rfl)]
  exact closure_renumber ρ ..

end Binding

/-- The same statement under another number, whatever each of the two has noted. -/
structure Entry.Matches (ρ : FragmentId → FragmentId) (d e : Entry) : Prop where
  id : e.id = ρ d.id
  fragment : e.fragment = d.fragment
  declares : e.declares = d.declares

theorem Entry.Matches.isNeeded {ρ : FragmentId → FragmentId} (hρ : StrictMono ρ) {d e : Entry}
    (h : d.Matches ρ e) (p : FragmentId) (live : List Binding) :
    e.isNeeded (ρ p) (live.map (Binding.renumber ρ)) = d.isNeeded p live := by
  simp only [Entry.isNeeded, h.id, h.fragment, h.declares, Binding.renumber, List.any_map,
    Function.comp_def, hρ.injective.eq_iff, hρ.le_iff_le]

theorem Entry.map_filter_of_matches {β : Type} {ρ : FragmentId → FragmentId} {ds es : List Entry}
    (h : List.Forall₂ (Entry.Matches ρ) ds es) {p q : Entry → Bool} {f g : Entry → β}
    (hpq : ∀ d e, d.Matches ρ e → q e = p d) (hfg : ∀ d e, d.Matches ρ e → g e = f d) :
    (es.filter q).map g = (ds.filter p).map f := by
  induction h with
  | nil => rfl
  | @cons d e ds es hde _ ih =>
    rw [List.filter_cons, List.filter_cons, hpq d e hde]
    split
    · rw [List.map_cons, List.map_cons, hfg d e hde, ih]
    · exact ih

namespace Registry

theorem declared_var_renumber {r s : Registry} {ρ : FragmentId → FragmentId}
    (h : s.declarations = r.declarations.mapValues (Declaration.renumber ρ)) :
    s.declared .var = (r.declared .var).map fun (name, owner) ↦ (name, owner.renumber ρ) := by
  have hkind : ∀ d : Declaration, (d.renumber ρ).kind = d.kind := by
    intro d
    unfold Declaration.renumber
    split <;> rfl
  unfold declared
  rw [h]
  change ((r.declarations.entries.map fun e ↦ (e.1, e.2.renumber ρ)).filter _).map _ = _
  rw [List.filter_map, List.map_map, List.map_map]
  simp only [Function.comp_def, hkind]
  refine List.map_congr_left fun e he ↦ ?_
  have hvar : e.2.kind = .var := by simpa using (List.mem_filter.mp he).2
  simp [Declaration.renumber, hvar]

end Registry

namespace Workspace

theorem lookup_tokens (w : Workspace) (id : FragmentId) :
    (w.entries.map fun e ↦ (e.id, e.fragment.tokens)).lookup id =
      (w.fragment? id).map Fragment.tokens := by
  rw [lookup_map_tokens, fragment?, Option.map_map]
  rfl

/-- All that a selection reads of two workspaces differs only in how the statements are
numbered. -/
structure Matches (ρ : FragmentId → FragmentId) (v w : Workspace) : Prop where
  entries : List.Forall₂ (Entry.Matches ρ) v.entries w.entries
  vars : w.registry.declared .var =
    (v.registry.declared .var).map fun (name, owner) ↦ (name, owner.renumber ρ)

section Matches

variable {v w : Workspace} {ρ : FragmentId → FragmentId} (h : v.Matches ρ w) (hρ : StrictMono ρ)

include h hρ

theorem Matches.fragment? (id : FragmentId) : w.fragment? (ρ id) = v.fragment? id := by
  have hes := h.entries
  unfold Workspace.fragment?
  generalize v.entries = ds, w.entries = es at hes
  induction hes with
  | nil => rfl
  | @cons d e ds es hde _ ih =>
    rw [List.find?_cons, List.find?_cons, hde.id]
    by_cases hid : d.id = id
    · simp [hid, hde.fragment]
    · simpa [hid, hρ.injective.eq_iff] using ih

theorem Matches.liveVariables (p : FragmentId) :
    w.liveVariables (ρ p) = (v.liveVariables p).map (Binding.renumber ρ) := by
  have hbindings : w.bindings = v.bindings.map (Binding.renumber ρ) := by
    unfold bindings
    rw [h.vars]
    simp only [List.filterMap_map, List.map_filterMap]
    refine List.filterMap_congr fun ⟨name, owner⟩ _ ↦ ?_
    cases owner with
    | text t => rfl
    | fragment id =>
      simp [Owner.renumber, Owner.fragment?, Binding.renumber, lookup_tokens, h.fragment? hρ]
  unfold Workspace.liveVariables
  rw [h.fragment? hρ, hbindings, Binding.liveFrom_renumber]

theorem Matches.select (p : FragmentId) : w.select (ρ p) = (v.select p).map ρ := by
  unfold Workspace.select
  simp only [h.liveVariables hρ, List.map_map]
  exact Entry.map_filter_of_matches h.entries (fun d e hde ↦ hde.isNeeded hρ p _)
    fun d e hde ↦ hde.id

theorem Matches.emitted (hem : w.emission = v.emission.map ρ) : w.emitted = v.emitted := by
  unfold Workspace.emitted
  refine Entry.map_filter_of_matches (List.forall₂_reverse_iff.mpr h.entries)
    (fun d e hde ↦ ?_) fun d e hde ↦ hde.fragment
  rw [hem, hde.id, Bool.eq_iff_iff, List.contains_iff_mem, List.contains_iff_mem,
    List.mem_map_of_injective hρ.injective]

end Matches

theorem Renumbers.matches {v w : Workspace} (h : Renumbers ρ v w) : v.Matches ρ w where
  entries := by
    rw [h.entries, List.forall₂_map_right_iff]
    exact List.forall₂_same.mpr fun _ _ ↦ ⟨rfl, rfl, rfl⟩
  vars := Registry.declared_var_renumber h.declarations

section Renumbers

variable {v w : Workspace} {ρ : FragmentId → FragmentId} (h : Renumbers ρ v w) (hρ : StrictMono ρ)

include h hρ

theorem Renumbers.demanded : w.demanded = v.demanded.map ρ := by
  unfold Workspace.demanded
  rw [h.pinned]
  cases v.pinned with
  | none => rfl
  | some p => exact h.matches.select hρ p

theorem Renumbers.emitted (hv : v.IsCurrent) (hw : w.IsCurrent) : w.emitted = v.emitted := by
  refine h.matches.emitted hρ ?_
  rw [hv, hw, h.demanded hρ]

end Renumbers

/-! ## Taking back what was stored -/

theorem renumbers_id {v w : Workspace} : Renumbers id v w ↔ w.entries = v.entries ∧
    w.pinned = v.pinned ∧ w.registry.declarations = v.registry.declarations := by
  have hd : Declaration.renumber id = id := by
    funext ⟨kind, owner⟩
    cases kind <;> cases owner <;> rfl
  have hn : renumberNote id = id := by
    funext ⟨name, previous⟩
    simp [renumberNote, hd]
  have he : Entry.renumber id = id := by
    funext e
    simp [Entry.renumber, hn]
  have hds : v.registry.declarations.mapValues id = v.registry.declarations :=
    Ledger.mapValues_eq_self fun _ _ ↦ rfl
  constructor
  · rintro ⟨hes, hp, hr⟩
    rw [he, List.map_id] at hes
    rw [Option.map_id] at hp
    rw [hd, hds] at hr
    exact ⟨hes, hp, hr⟩
  · rintro ⟨hes, hp, hr⟩
    refine ⟨?_, ?_, ?_⟩
    · rw [he, List.map_id, hes]
    · rw [Option.map_id, hp, id]
    · rw [hd, hds, hr]

theorem Renumbers.trans_id {u v w : Workspace} {ρ : FragmentId → FragmentId}
    (h : Renumbers ρ u v) (h' : Renumbers id v w) : Renumbers ρ u w := by
  obtain ⟨hes, hp, hr⟩ := renumbers_id.mp h'
  exact ⟨hes.trans h.entries, hp.trans h.pinned, hr.trans h.declarations⟩

/-- The notes are put back in reverse, so each finds the records as they were when it was taken. -/
theorem declarations_restoreAll_declareNames (id : FragmentId) (names : List Text) (r : Registry) :
    ((declareNames id names r).1.restoreAll (declareNames id names r).2).declarations =
      r.declarations := by
  rw [Registry.declarations_restoreAll]
  unfold declareNames
  refine List.foldlRecOn (motive := fun after : Registry × List (Text × Option Declaration) ↦
    after.1.declarations.putBackAll after.2 = r.declarations) names _ rfl ?_
  rintro ⟨s, noted⟩ hs name -
  change ((s.record .var name (.fragment id)).declarations.putBack name (s.get? name)).putBackAll
    noted = r.declarations
  rw [Registry.declarations_record, show s.get? name = s.declarations.get? name from rfl,
    Ledger.putBack_put]
  exact hs

theorem rollback_add (w : Workspace) (f : Fragment) : Renumbers id w (w.add f).rollback := by
  have hes := entries_add w f
  refine renumbers_id.mpr ⟨entries_rollback hes, pinned_rollback hes, ?_⟩
  rw [registry_rollback hes]
  unfold add
  cases f.isDeclaration with
  | true => exact declarations_restoreAll_declareNames ..
  | false => simp [Registry.restoreAll]

theorem nextId_rollback (w : Workspace) : w.rollback.registry.nextId = w.registry.nextId := by
  cases h : w.entries with
  | nil => rw [rollback_nil h]
  | cons e es => rw [registry_rollback h, Registry.nextId_restoreAll]

/-! ## Edits -/

/-- What changes the statements. -/
inductive Edit where
  | add (f : Fragment)
  | rollback
deriving DecidableEq, Repr

def Edit.apply (w : Workspace) : Edit → Workspace
  | .add f => w.add f
  | .rollback => w.rollback

def edit (w : Workspace) (edits : List Edit) : Workspace := edits.foldl Edit.apply w

/-- The statement that is taken back next. -/
def latest? (w : Workspace) : Option Fragment := w.entries.head?.map Entry.fragment

/-- Take back that many statements, and list them. -/
def undo (w : Workspace) : Nat → List (Option Fragment) × Workspace
  | 0 => ([], w)
  | n + 1 =>
    let (taken, w) := w.undo n
    (taken ++ [w.latest?], w.rollback)

theorem Edited.edit {start w : Workspace} (hw : Edited start w) (edits : List Edit) :
    Edited start (w.edit edits) := by
  induction edits generalizing w with
  | nil => exact hw
  | cons e edits ih =>
    cases e with
    | add f => exact ih (hw.add f)
    | rollback => exact ih hw.rollback

theorem Edited.undo {start w : Workspace} (hw : Edited start w) (n : Nat) :
    Edited start (w.undo n).2 := by
  induction n with
  | zero => exact hw
  | succ n ih => exact ih.rollback

/-- Taking back as many statements as were stored.  The induction is on the statement stored first,
which is taken back last. -/
theorem undo_adds (w : Workspace) (fs : List Fragment) :
    let after := (w.edit (fs.map .add)).undo fs.length
    after.1 = fs.reverse.map some ∧ Renumbers id w after.2 ∧
      after.2.registry.nextId = w.registry.nextId + fs.length := by
  induction fs generalizing w with
  | nil => exact ⟨rfl, renumbers_id.mpr ⟨rfl, rfl, rfl⟩, rfl⟩
  | cons f fs ih =>
    obtain ⟨htaken, hback, hnext⟩ := ih (w.add f)
    have hes := (renumbers_id.mp hback).1
    rw [entries_add] at hes
    refine ⟨?_, (rollback_add w f).trans_id hback.rollback, ?_⟩
    · change (((w.add f).edit (fs.map .add)).undo fs.length).1 ++
        [(((w.add f).edit (fs.map .add)).undo fs.length).2.latest?] = _
      rw [htaken, latest?, hes, List.reverse_cons, List.map_append]
      rfl
    · refine (nextId_rollback _).trans (hnext.trans ?_)
      rw [nextId_add, List.length_cons, Nat.add_assoc, Nat.add_comm 1]

/-! ## Going on from there -/

/-- The workspaces go on together while the renumbering leads from the numbers that the one gives
out to those that the other gives out. -/
theorem Renumbers.edit {v w : Workspace} {ρ : FragmentId → FragmentId} (h : Renumbers ρ v w)
    (hid : ∀ k, ρ (v.registry.nextId + k) = w.registry.nextId + k) (edits : List Edit) :
    Renumbers ρ (v.edit edits) (w.edit edits) := by
  induction edits generalizing v w with
  | nil => exact h
  | cons e edits ih =>
    cases e with
    | add f =>
      refine ih (h.add (hid 0) f) fun k ↦ ?_
      change ρ ((v.add f).registry.nextId + k) = (w.add f).registry.nextId + k
      rw [nextId_add, nextId_add, Nat.add_assoc, Nat.add_assoc]
      exact hid (1 + k)
    | rollback =>
      refine ih h.rollback fun k ↦ ?_
      change ρ (v.rollback.registry.nextId + k) = w.rollback.registry.nextId + k
      rw [nextId_rollback, nextId_rollback]
      exact hid k

/-- All numbers in the statements and variables of a workspace have been given out. -/
theorem Edited.settled {start w : Workspace} (hs : start.Bare) (hw : Edited start w)
    {ρ : FragmentId → FragmentId} (hρ : ∀ id < w.registry.nextId, ρ id = id) :
    Renumbers ρ w w := by
  induction hw with
  | start =>
    have hfixed : ∀ e ∈ start.registry.declarations.entries, e.2.renumber ρ = e.2 := by
      rintro ⟨name, kind, owner⟩ he
      refine if_neg ?_
      rintro rfl
      have hname : name ∈ start.registry.names .var :=
        Registry.mem_names.mpr ⟨owner, Ledger.mem_entries.mp he⟩
      simp [hs.vars] at hname
    exact ⟨by simp [hs.entries], by simp [hs.pinned], (Ledger.mapValues_eq_self hfixed).symm⟩
  | add f _ ih =>
    rw [nextId_add] at hρ
    exact (ih fun id hid ↦ hρ id (Nat.lt_succ_of_lt hid)).add (hρ _ (Nat.lt_succ_self _)) f
  | rollback _ ih =>
    rw [nextId_rollback] at hρ
    exact (ih hρ).rollback

/-- Numbers from `m` on are raised by `d`. -/
def shift (m d i : Nat) : Nat := if i < m then i else i + d

theorem strictMono_shift (m d : Nat) : StrictMono (shift m d) := by
  intro i j hij
  unfold shift
  split <;> split <;> omega

theorem shift_of_lt {m d i : Nat} (h : i < m) : shift m d i = i := if_pos h

theorem shift_add (m d k : Nat) : shift m d (m + k) = m + d + k := by
  unfold shift
  rw [if_neg (by omega)]
  omega

/-- Taking back what was stored hands the fragments over in reverse and restores the workspace, and
from there on the program is the same as if nothing had been stored, although the statements get
other numbers. -/
theorem undo_restores {start w : Workspace} (hs : start.Bare) (hw : Edited start w)
    (fs : List Fragment) :
    let after := (w.edit (fs.map .add)).undo fs.length
    after.1 = fs.reverse.map some ∧
      after.2.entries = w.entries ∧ after.2.pinned = w.pinned ∧
      after.2.registry.declarations = w.registry.declarations ∧
      after.2.registry.nextId = w.registry.nextId + fs.length ∧
      after.2.emitted = w.emitted ∧ after.2.statementBlock = w.statementBlock ∧
      ∀ edits, (after.2.edit edits).emitted = (w.edit edits).emitted ∧
        (after.2.edit edits).statementBlock = (w.edit edits).statementBlock := by
  intro after
  obtain ⟨htaken, hback, hnext⟩ := undo_adds w fs
  obtain ⟨hes, hpin, hds⟩ := renumbers_id.mp hback
  suffices hedits : ∀ edits, (after.2.edit edits).emitted = (w.edit edits).emitted ∧
      (after.2.edit edits).statementBlock = (w.edit edits).statementBlock from
    ⟨htaken, hes, hpin, hds, hnext, (hedits []).1, (hedits []).2, hedits⟩
  intro edits
  let ρ := shift w.registry.nextId fs.length
  have hsettled : Renumbers ρ w after.2 := (hw.settled hs fun _ ↦ shift_of_lt).trans_id hback
  have hedit : Renumbers ρ (w.edit edits) (after.2.edit edits) := by
    refine hsettled.edit (fun k ↦ ?_) edits
    rw [hnext]
    exact shift_add ..
  have hafter : Edited start after.2 := (hw.edit _).undo _
  have hemitted : (after.2.edit edits).emitted = (w.edit edits).emitted :=
    hedit.emitted (strictMono_shift ..) ((hw.edit edits).isCurrent hs)
      ((hafter.edit edits).isCurrent hs)
  refine ⟨hemitted, ?_⟩
  unfold statementBlock
  rw [hemitted]

/-- A declaration that names a variable twice, one that takes over the names of a function and of a
package, and a use. -/
theorem undo_restores_shadowed :
    let start := (((ofImports ["fmt".toList]).declareFunction?
      (.ofLine "func f() \x7b \x7d".toList)).map Prod.snd).getD {}
    let w := start.edit [.add (.ofLine "a := 1".toList), .add (.ofLine "show(a)".toList)]
    let fs := ["b, b := a, a", "f, fmt := b, b", "show(f)"].map fun line ↦
      Fragment.ofLine line.toList
    let after := ((w.edit (fs.map .add)).undo 3).2
    start.Bare ∧ Edited start w ∧ after.registry.declarations = w.registry.declarations ∧
      after.registry.nextId = w.registry.nextId + 3 ∧
      (after.edit [.rollback, .add (.ofLine "a".toList)]).emitted =
        (w.edit [.rollback, .add (.ofLine "a".toList)]).emitted := by
  intro start w fs after
  have hs : start.Bare := ⟨by decide +kernel, by decide +kernel, by decide +kernel,
    by decide +kernel⟩
  have hw : Edited start w := Edited.start.edit _
  obtain ⟨-, -, -, hds, hnext, -, -, hedits⟩ := undo_restores hs hw fs
  exact ⟨hs, hw, hds, hnext, (hedits _).1⟩

end Workspace
end GoRepl
