import GoRepl.Workspace.Program

/-!
# Records

What the operations of the registry do to the record of a single name.  The registry is a table in
declaration order; `Registry.get?` is the view of it through which everything else is stated, and
each operation has one equation in that view.

Storing a declaration overwrites the record of each of its names and notes what it overwrote;
taking it back restores these notes, the latest first.  A name may occur twice in one declaration,
so what counts is the note taken first: `declareNames_displaced` says which one that is, and
`get?_restoreAll` that it is the one to survive.
-/

namespace GoRepl

namespace Ledger

variable {κ α : Type} [DecidableEq κ]

/-- Each key stands once, so an entry is what its key is looked up to. -/
theorem mem_entries {l : Ledger κ α} {k : κ} {v : α} : (k, v) ∈ l.entries ↔ l.get? k = some v := by
  obtain ⟨es, hes⟩ := l
  unfold get?
  simp only
  induction es with
  | nil => simp
  | cons e es ih =>
    obtain ⟨hne, hes⟩ := List.nodup_cons.mp hes
    rw [List.find?_cons, List.mem_cons]
    by_cases hk : e.1 = k
    · have hnot : (k, v) ∉ es := fun h ↦ hne (hk ▸ List.mem_map.mpr ⟨_, h, rfl⟩)
      simp only [hk, decide_true, Option.map_some, Option.some.injEq]
      refine ⟨fun h ↦ ?_, fun h ↦ Or.inl (Prod.ext hk.symm h.symm)⟩
      rcases h with rfl | h
      · rfl
      · exact absurd h hnot
    · have hke : (k, v) ≠ e := fun h ↦ hk (h ▸ rfl)
      simp only [hk, decide_false, hke, false_or]
      exact ih hes

/-- Writing to a key changes nothing among the other entries. -/
theorem filter_entries_put {l : Ledger κ α} {k : κ} {v : α} {p : κ × α → Bool}
    (hv : p (k, v) = false) (hl : ∀ u, l.get? k = some u → p (k, u) = false) :
    (l.put k v).entries.filter p = l.entries.filter p := by
  obtain ⟨es, hes⟩ := l
  unfold get? at hl
  unfold put
  simp only at hl ⊢
  clear hes
  induction es with
  | nil => simp [putEntries, hv]
  | cons e es ih =>
    rw [List.find?_cons] at hl
    by_cases hk : e.1 = k
    · have he : p e = false := by
        subst hk
        exact hl e.2 (by simp)
      simp [putEntries, hk, hv, he]
    · simp only [hk, decide_false] at hl
      rw [putEntries, if_neg hk, List.filter_cons, List.filter_cons, ih hl]

/-- Writing what stands there changes nothing. -/
theorem put_eq_self {l : Ledger κ α} {k : κ} {v : α} (h : l.get? k = some v) : l.put k v = l := by
  obtain ⟨es, hes⟩ := l
  unfold get? at h
  unfold put
  apply ext
  simp only at h ⊢
  clear hes
  induction es with
  | nil => cases h
  | cons e es ih =>
    rw [List.find?_cons] at h
    by_cases hk : e.1 = k
    · obtain rfl : e.2 = v := by simpa [hk] using h
      rw [putEntries, if_pos hk, ← hk]
    · simp only [hk, decide_false] at h
      rw [putEntries, if_neg hk, ih h]

end Ledger

namespace Registry

theorem get?_congr {r s : Registry} (h : r.declarations = s.declarations) (name : Text) :
    r.get? name = s.get? name := congrArg (Ledger.get? · name) h

theorem owner?_eq_some {r : Registry} {kind : Kind} {name : Text} {owner : Owner} :
    r.owner? kind name = some owner ↔ r.get? name = some ⟨kind, owner⟩ := by
  unfold owner?
  rcases r.get? name with - | ⟨k, o⟩
  · simp
  · by_cases h : k = kind <;> simp [Option.filter, h]

theorem mem_declared {r : Registry} {kind : Kind} {name : Text} {owner : Owner} :
    (name, owner) ∈ r.declared kind ↔ r.get? name = some ⟨kind, owner⟩ := by
  unfold declared get?
  rw [← Ledger.mem_entries, List.mem_map]
  constructor
  · rintro ⟨⟨n, k, o⟩, h, he⟩
    obtain ⟨hm, hk⟩ := List.mem_filter.mp h
    obtain ⟨rfl, rfl⟩ := Prod.mk.inj he
    obtain rfl : k = kind := by simpa using hk
    exact hm
  · intro h
    exact ⟨(name, ⟨kind, owner⟩), List.mem_filter.mpr ⟨h, by simp⟩, rfl⟩

theorem mem_names {r : Registry} {kind : Kind} {name : Text} :
    name ∈ r.names kind ↔ ∃ owner, r.get? name = some ⟨kind, owner⟩ := by
  unfold names
  rw [List.mem_map]
  constructor
  · rintro ⟨⟨n, o⟩, h, rfl⟩
    exact ⟨o, mem_declared.mp h⟩
  · rintro ⟨o, h⟩
    exact ⟨(name, o), mem_declared.mpr h, rfl⟩

theorem nodup_names (r : Registry) (kind : Kind) : (r.names kind).Nodup := by
  unfold names declared
  rw [List.map_map]
  exact r.declarations.nodup_keys.sublist (List.filter_sublist.map _)

@[simp] theorem get?_allocate (r : Registry) (name : Text) :
    r.allocate.get? name = r.get? name := rfl

@[simp] theorem get?_markAll (r : Registry) (kind : Kind) (names : List Text) (name : Text) :
    (r.markAll kind names).get? name = r.get? name := get?_congr (by simp) name

/-! ## Numbering

Only `Registry.allocate` moves the number of the next fragment. -/

@[simp] theorem nextId_allocate (r : Registry) : r.allocate.nextId = r.nextId + 1 := rfl

@[simp] theorem nextId_record (r : Registry) (kind : Kind) (name : Text) (owner : Owner) :
    (r.record kind name owner).nextId = r.nextId := by
  unfold record
  split
  · split <;> rfl
  · rfl

@[simp] theorem nextId_restore (r : Registry) (name : Text) (previous : Option Declaration) :
    (r.restore name previous).nextId = r.nextId := by
  cases previous <;> rfl

@[simp] theorem nextId_markLive (r : Registry) (kind : Kind) (name : Text) :
    (r.markLive kind name).nextId = r.nextId := by
  unfold markLive
  split <;> rfl

@[simp] theorem nextId_markAll (r : Registry) (kind : Kind) (names : List Text) :
    (r.markAll kind names).nextId = r.nextId := by
  induction names generalizing r with
  | nil => rfl
  | cons n names ih => exact (ih _).trans (nextId_markLive ..)

@[simp] theorem nextId_forget (r : Registry) (names : List Text) :
    (r.forget names).nextId = r.nextId := by
  induction names generalizing r with
  | nil => rfl
  | cons n names ih => exact (ih _).trans (nextId_restore ..)

/-! ## Putting records back -/

theorem get?_restore (r : Registry) (name n : Text) (previous : Option Declaration) :
    (r.restore name previous).get? n = if name = n then previous else r.get? n := by
  cases previous with
  | some d => exact Ledger.get?_put ..
  | none => exact Ledger.get?_erase ..

theorem get?_forget (r : Registry) (names : List Text) (n : Text) :
    (r.forget names).get? n = if n ∈ names then none else r.get? n := by
  induction names generalizing r with
  | nil => simp [forget]
  | cons m names ih =>
    refine (ih (r.restore m none)).trans ?_
    rw [get?_restore]
    by_cases h : m = n
    · simp [h]
    · simp [h, Ne.symm h]

/-- Put back the records of a list, in its order. -/
def restoreAll (r : Registry) (displaced : List (Text × Option Declaration)) : Registry :=
  displaced.foldl (fun r e ↦ r.restore e.1 e.2) r

/-- The record that survives is the one put back last. -/
theorem get?_restoreAll (r : Registry) (displaced : List (Text × Option Declaration)) (n : Text) :
    (r.restoreAll displaced).get? n = (displaced.reverse.lookup n).getD (r.get? n) := by
  induction displaced generalizing r with
  | nil => rfl
  | cons e displaced ih =>
    obtain ⟨m, p⟩ := e
    refine (ih (r.restore m p)).trans ?_
    rw [get?_restore, List.reverse_cons, List.lookup_append]
    rcases displaced.reverse.lookup n with - | q
    · by_cases h : m = n
      · simp [h]
      · have h' : (n == m) = false := beq_eq_false_iff_ne.mpr (Ne.symm h)
        simp [List.lookup_cons, h, h']
    · rfl

@[simp] theorem nextId_restoreAll (r : Registry)
    (displaced : List (Text × Option Declaration)) :
    (r.restoreAll displaced).nextId = r.nextId := by
  induction displaced generalizing r with
  | nil => rfl
  | cons e displaced ih => exact (ih _).trans (nextId_restore ..)

end Registry

/-! ## Declaring names -/

namespace Workspace

/-- The notes of a declaration whose names come after those already noted. -/
theorem declareNames_aux (id : FragmentId) (names : List Text) (r : Registry)
    (noted : List (Text × Option Declaration)) :
    let after := names.foldl (fun (r, displaced) name =>
      (r.record .var name (.fragment id), (name, r.get? name) :: displaced)) (r, noted)
    after.1.nextId = r.nextId ∧
      (∀ n, after.1.get? n = if n ∈ names then some ⟨.var, .fragment id⟩ else r.get? n) ∧
      ∀ n, after.2.reverse.lookup n =
        (noted.reverse.lookup n).or (if n ∈ names then some (r.get? n) else none) := by
  induction names generalizing r noted with
  | nil => simp
  | cons m names ih =>
    obtain ⟨hid, hget, hnotes⟩ := ih (r.record .var m (.fragment id)) ((m, r.get? m) :: noted)
    refine ⟨hid.trans (Registry.nextId_record ..), fun n ↦ (hget n).trans ?_,
      fun n ↦ (hnotes n).trans ?_⟩
    · rw [Registry.get?_record]
      by_cases h : m = n
      · simp [h]
      · simp [h, Ne.symm h]
    · rw [Registry.get?_record, List.reverse_cons, List.lookup_append]
      rcases noted.reverse.lookup n with - | p
      · by_cases h : m = n
        · subst h
          simp
        · have h' : (n == m) = false := beq_eq_false_iff_ne.mpr (Ne.symm h)
          simp [List.lookup_cons, h, h', Ne.symm h]
      · rfl

/-- Every name of a declaration is a variable that the declaration owns; others are untouched. -/
theorem get?_declareNames (id : FragmentId) (names : List Text) (r : Registry) (n : Text) :
    (declareNames id names r).1.get? n =
      if n ∈ names then some ⟨.var, .fragment id⟩ else r.get? n :=
  (declareNames_aux id names r []).2.1 n

@[simp] theorem nextId_declareNames (id : FragmentId) (names : List Text) (r : Registry) :
    (declareNames id names r).1.nextId = r.nextId :=
  (declareNames_aux id names r []).1

/-- What is noted first of a name is the record it had before the declaration. -/
theorem declareNames_displaced (id : FragmentId) (names : List Text) (r : Registry) (n : Text) :
    (declareNames id names r).2.reverse.lookup n =
      if n ∈ names then some (r.get? n) else none :=
  ((declareNames_aux id names r []).2.2 n).trans (Option.none_or ..)

end Workspace
end GoRepl
