import GoRepl.Proofs.History
import GoRepl.Proofs.Liveness

/-!
# The selection

Which statements the program needs, said without the worklist that finds them.  A variable is owned
by the statement whose declaration of it is in force (`Owns`); a fragment depends on the variables
that it references and on those that their owners depend on (`DependsOn`).  `Needs` then lists the
three reasons for which a statement belongs to the program of a pinned one, and `mem_select` says
that `Workspace.select` keeps exactly the statements that have such a reason.

The emission is chosen when a statement is stored or taken back, and it stays when functions or
packages are declared later.  It is therefore always the selection of an earlier workspace, which
the present one hides variables of (`Reachable.hides_current`).
-/

namespace GoRepl

/-- The binding of a name to the statement that owns it. -/
def Binding.ofEntry (name : Text) (e : Entry) : Binding := ⟨name, e.id, e.fragment.tokens⟩

namespace Workspace

/-- The statement's declaration of the name is in force. -/
def Owns (w : Workspace) (e : Entry) (name : Text) : Prop :=
  e ∈ w.entries ∧ w.registry.get? name = some ⟨.var, .fragment e.id⟩

/-- The variables that a fragment needs: those that it references, and those that the owner of a
variable it needs references. -/
inductive DependsOn (w : Workspace) (f : Fragment) : Text → Prop
  | references {n : Text} {e : Entry} : w.Owns e n → f.references n = true → DependsOn w f n
  | through {m n : Text} {d e : Entry} : DependsOn w f m → w.Owns d m →
      d.fragment.references n = true → w.Owns e n → DependsOn w f n

/-- Why a statement `e` belongs to the program when `p` is pinned. -/
inductive Needs (w : Workspace) (p e : Entry) : Prop
  /-- It is the pinned statement. -/
  | pinned : e = p → Needs w p e
  /-- It owns a variable that the pinned statement depends on. -/
  | owner {n : Text} : w.Owns e n → w.DependsOn p.fragment n → Needs w p e
  /-- It is a use of such a variable, and not earlier than the declaration in force. -/
  | user {n : Text} {d : Entry} : e.declares = false → w.Owns d n → w.DependsOn p.fragment n →
      d.id ≤ e.id → e.fragment.references n = true → Needs w p e

/-- The statement belongs to the program. -/
def Emits (w : Workspace) (e : Entry) : Prop := e ∈ w.entries ∧ e.id ∈ w.emission

instance (w : Workspace) (e : Entry) (name : Text) : Decidable (w.Owns e name) :=
  inferInstanceAs (Decidable (_ ∧ _))

instance (w : Workspace) (e : Entry) : Decidable (w.Emits e) :=
  inferInstanceAs (Decidable (_ ∧ _))

theorem Owns.unique {w : Workspace} (hw : w.Grounded) {d e : Entry} {n : Text} (hd : w.Owns d n)
    (he : w.Owns e n) : d = e := by
  have h := hd.2.symm.trans he.2
  exact hw.eq_of_id_eq hd.1 he.1 (by simpa using h)

theorem Owns.declares {w : Workspace} (hw : w.Grounded) {e : Entry} {n : Text}
    (he : w.Owns e n) : e.declares = true ∧ n ∈ e.fragment.declaredNames := by
  obtain ⟨d, hd, hown, hdecl, hmem⟩ := hw.owned n _ he.2
  obtain rfl : e = d := hw.eq_of_id_eq he.1 hd (by simpa using hown)
  exact ⟨hdecl, hmem⟩

theorem exists_owns {w : Workspace} (hw : w.Grounded) {n : Text} {owner : Owner}
    (h : w.registry.get? n = some ⟨.var, owner⟩) : ∃ e, w.Owns e n ∧ owner = .fragment e.id := by
  obtain ⟨e, he, rfl, -⟩ := hw.owned n owner h
  exact ⟨e, ⟨he, h⟩, rfl⟩

/-! ## Looking statements up -/

theorem Grounded.find? {w : Workspace} (hw : w.Grounded) {e : Entry} (he : e ∈ w.entries) :
    w.entries.find? (·.id = e.id) = some e := by
  obtain ⟨d, hd⟩ := Option.isSome_iff_exists.mp
    (List.find?_isSome.mpr ⟨e, he, by simp⟩ : (w.entries.find? (·.id = e.id)).isSome)
  have hid : d.id = e.id := by simpa using List.find?_some hd
  rw [hd, hw.eq_of_id_eq (List.mem_of_find?_eq_some hd) he hid]

theorem lookup_map_tokens (es : List Entry) (id : FragmentId) :
    (es.map fun e ↦ (e.id, e.fragment.tokens)).lookup id =
      (es.find? (·.id = id)).map fun e ↦ e.fragment.tokens := by
  induction es with
  | nil => rfl
  | cons e es ih =>
    by_cases h : e.id = id
    · simp [h]
    · have h' : (id == e.id) = false := beq_eq_false_iff_ne.mpr (Ne.symm h)
      simp [List.lookup_cons, h, h', ih]

theorem fragment?_eq {w : Workspace} (hw : w.Grounded) {e : Entry} (he : e ∈ w.entries) :
    w.fragment? e.id = some e.fragment := by
  unfold fragment?
  rw [hw.find? he]
  rfl

theorem mem_bindings {w : Workspace} (hw : w.Grounded) {b : Binding} :
    b ∈ w.bindings ↔ ∃ n e, w.Owns e n ∧ b = .ofEntry n e := by
  have htokens : ∀ {e : Entry}, e ∈ w.entries →
      ((w.entries.map fun e ↦ (e.id, e.fragment.tokens)).lookup e.id).getD [] =
        e.fragment.tokens := by
    intro e he
    rw [lookup_map_tokens, hw.find? he]
    rfl
  unfold bindings
  simp only [List.mem_filterMap]
  constructor
  · rintro ⟨⟨n, owner⟩, hn, hb⟩
    obtain ⟨e, he, rfl⟩ := Workspace.exists_owns hw (Registry.mem_declared.mp hn)
    refine ⟨n, e, he, ?_⟩
    simp only [Owner.fragment?, Option.map_some, Option.some.injEq] at hb
    rw [← hb, htokens he.1]
    rfl
  · rintro ⟨n, e, he, rfl⟩
    refine ⟨(n, .fragment e.id), Registry.mem_declared.mpr he.2, ?_⟩
    simp only [Owner.fragment?, Option.map_some, htokens he.1]
    rfl

/-- All variables are bound, in order. -/
theorem Grounded.map_name_bindings {w : Workspace} (hw : w.Grounded) :
    w.bindings.map Binding.name = w.registry.names .var := by
  unfold bindings Registry.names
  rw [List.map_filterMap, ← List.filterMap_eq_map (f := Prod.fst)]
  refine List.filterMap_congr fun ⟨n, owner⟩ hn ↦ ?_
  obtain ⟨e, -, rfl⟩ := exists_owns hw (Registry.mem_declared.mp hn)
  rfl

/-! ## The selection keeps what is needed -/

/-- The worklist finds the variables that the pinned statement depends on. -/
theorem mem_liveVariables {w : Workspace} (hw : w.Grounded) {p : Entry} (hp : p ∈ w.entries)
    {b : Binding} :
    b ∈ w.liveVariables p.id ↔
      ∃ n e, w.Owns e n ∧ w.DependsOn p.fragment n ∧ b = .ofEntry n e := by
  unfold liveVariables
  rw [fragment?_eq hw hp, Binding.mem_liveFrom]
  simp only [Option.map_some, Option.getD_some]
  constructor
  · intro h
    induction h with
    | mentioned hb ht =>
      obtain ⟨n, e, he, rfl⟩ := (mem_bindings hw).mp hb
      exact ⟨n, e, he, .references he ht, rfl⟩
    | brought _ hb hab ih =>
      obtain ⟨m, d, hd, hm, rfl⟩ := ih
      obtain ⟨n, e, he, rfl⟩ := (mem_bindings hw).mp hb
      exact ⟨n, e, he, .through hm hd hab he, rfl⟩
  · rintro ⟨n, e, he, hn, rfl⟩
    induction hn generalizing e with
    | references _ ht => exact .mentioned ((mem_bindings hw).mpr ⟨_, e, he, rfl⟩) ht
    | through _ hd hdn _ ih =>
      exact .brought (ih _ hd) ((mem_bindings hw).mpr ⟨_, e, he, rfl⟩) hdn

theorem isNeeded_iff {w : Workspace} (hw : w.Grounded) {p e : Entry} (hp : p ∈ w.entries)
    (he : e ∈ w.entries) :
    e.isNeeded p.id (w.liveVariables p.id) = true ↔ w.Needs p e := by
  unfold Entry.isNeeded
  by_cases hid : e.id = p.id
  · simp only [hid, if_true, true_iff]
    exact .pinned (hw.eq_of_id_eq he hp hid)
  · rw [if_neg hid]
    cases hdecl : e.declares with
    | true =>
      simp only [if_true, List.any_eq_true, Bool.and_eq_true, decide_eq_true_eq,
        List.contains_iff_mem]
      constructor
      · rintro ⟨b, hb, hown, -⟩
        obtain ⟨n, d, hd, hn, rfl⟩ := (mem_liveVariables hw hp).mp hb
        obtain rfl : d = e := hw.eq_of_id_eq hd.1 he hown
        exact .owner hd hn
      · intro h
        cases h with
        | pinned h => exact absurd (congrArg Entry.id h) hid
        | owner hown hn =>
          exact ⟨_, (mem_liveVariables hw hp).mpr ⟨_, e, hown, hn, rfl⟩, rfl,
            (hown.declares hw).2⟩
        | user hd => simp [hdecl] at hd
    | false =>
      simp only [Bool.false_eq_true, if_false, List.any_eq_true, Bool.and_eq_true,
        decide_eq_true_eq]
      constructor
      · rintro ⟨b, hb, hle, href⟩
        obtain ⟨n, d, hd, hn, rfl⟩ := (mem_liveVariables hw hp).mp hb
        exact .user hdecl hd hn hle (List.any_eq_true.mpr href)
      · intro h
        cases h with
        | pinned h => exact absurd (congrArg Entry.id h) hid
        | owner hown _ => exact absurd (hown.declares hw).1 (by simp [hdecl])
        | user _ hd hn hle href =>
          exact ⟨_, (mem_liveVariables hw hp).mpr ⟨_, _, hd, hn, rfl⟩, hle,
            List.any_eq_true.mp href⟩

theorem mem_select {w : Workspace} (hw : w.Grounded) {p e : Entry} (hp : p ∈ w.entries)
    (he : e ∈ w.entries) : e.id ∈ w.select p.id ↔ w.Needs p e := by
  unfold select
  rw [← isNeeded_iff hw hp he, List.mem_map]
  constructor
  · rintro ⟨d, hd, hid⟩
    obtain ⟨hd, hneed⟩ := List.mem_filter.mp hd
    rwa [← hw.eq_of_id_eq hd he hid]
  · intro h
    exact ⟨e, List.mem_filter.mpr ⟨he, h⟩, rfl⟩

/-- The worklist and the selection only read the history and the declarations. -/
theorem liveVariables_congr {v w : Workspace} (he : v.entries = w.entries)
    (hr : v.registry.declarations = w.registry.declarations) (p : FragmentId) :
    v.liveVariables p = w.liveVariables p := by
  unfold liveVariables bindings fragment?
  rw [he, Registry.declared_congr hr]

theorem select_congr {v w : Workspace} (he : v.entries = w.entries)
    (hr : v.registry.declarations = w.registry.declarations) (p : FragmentId) :
    v.select p = w.select p := by
  unfold select
  rw [he, liveVariables_congr he hr]

/-- Where the same statements are needed the same are selected, in the same order. -/
theorem select_eq_of_needs {v w : Workspace} (hv : v.Grounded) (hw : w.Grounded)
    (hes : v.entries = w.entries) {p : Entry} (hp : p ∈ w.entries)
    (h : ∀ e ∈ w.entries, v.Needs p e ↔ w.Needs p e) : v.select p.id = w.select p.id := by
  unfold select
  rw [hes]
  refine congrArg (List.map Entry.id) (List.filter_congr fun e he ↦ ?_)
  rw [Bool.eq_iff_iff, isNeeded_iff hv (hes ▸ hp) (hes ▸ he), isNeeded_iff hw hp he]
  exact h e he

/-! ## More or fewer variables

What is needed grows with the variables that are owned.  A workspace that hides variables of another
therefore needs no further statement. -/

section Mono

variable {v w : Workspace} (h : ∀ e n, w.Owns e n → v.Owns e n)

include h

theorem DependsOn.mono {f : Fragment} {n : Text} (hn : w.DependsOn f n) : v.DependsOn f n := by
  induction hn with
  | references he href => exact .references (h _ _ he) href
  | through _ hd href he ih => exact .through ih (h _ _ hd) href (h _ _ he)

theorem Needs.mono {p e : Entry} (he : w.Needs p e) : v.Needs p e := by
  cases he with
  | pinned he => exact .pinned he
  | owner hown hn => exact .owner (h _ _ hown) (hn.mono h)
  | user hdecl hd hn hle href => exact .user hdecl (h _ _ hd) (hn.mono h) hle href

end Mono

theorem Hides.owns {v w : Workspace} (h : v.Hides w) {e : Entry} {n : Text} (he : w.Owns e n) :
    v.Owns e n := ⟨h.entries ▸ he.1, h.vars n _ he.2⟩

/-! ## The emission is a selection -/

/-- The selection that the pinned statement asks for now; nothing if none is pinned. -/
def demanded (w : Workspace) : List FragmentId := (w.pinned.map w.select).getD []

/-- The emission is what the pinned statement asks for now. -/
def IsCurrent (w : Workspace) : Prop := w.emission = w.demanded

/-- The pinned statement needs the statement `e`, as the names are declared now. -/
def Justifies (w : Workspace) (e : Entry) : Prop :=
  ∃ p ∈ w.entries, w.pinned = some p.id ∧ w.Needs p e

theorem demanded_congr {v w : Workspace} (he : v.entries = w.entries) (hp : v.pinned = w.pinned)
    (hr : v.registry.declarations = w.registry.declarations) : v.demanded = w.demanded := by
  unfold demanded
  rw [hp, funext (select_congr he hr)]

theorem justifies_iff {w : Workspace} (hw : w.WellFormed) {p e : Entry} (hp : p ∈ w.entries)
    (hpin : w.pinned = some p.id) : w.Justifies e ↔ w.Needs p e := by
  constructor
  · rintro ⟨q, hq, hid, h⟩
    rwa [hw.stacked.eq_of_id_eq hp hq (Option.some.inj (hpin.symm.trans hid))]
  · intro h
    exact ⟨p, hp, hpin, h⟩

theorem mem_demanded {w : Workspace} (hw : w.WellFormed) {e : Entry} (he : e ∈ w.entries) :
    e.id ∈ w.demanded ↔ w.Justifies e := by
  cases hpin : w.pinned with
  | none => simp [demanded, Justifies, hpin]
  | some i =>
    obtain ⟨p, hp, rfl, -⟩ := hw.stacked.le_of_latestUse? (hw.pinned.symm.trans hpin)
    rw [justifies_iff hw hp hpin]
    unfold demanded
    rw [hpin]
    exact mem_select hw hp he

/-- Where the same statements have a reason to be there the same are demanded, in the same order. -/
theorem demanded_eq_of_justifies {v w : Workspace} (hv : v.WellFormed) (hw : w.WellFormed)
    (hes : v.entries = w.entries) (hpin : v.pinned = w.pinned)
    (h : ∀ e ∈ w.entries, v.Justifies e ↔ w.Justifies e) : v.demanded = w.demanded := by
  unfold demanded
  rw [hpin]
  cases hi : w.pinned with
  | none => rfl
  | some i =>
    obtain ⟨p, hp, rfl, -⟩ := hw.stacked.le_of_latestUse? (hw.pinned.symm.trans hi)
    refine select_eq_of_needs hv hw hes hp fun e he ↦ ?_
    rw [← justifies_iff hv (hes ▸ hp) (hpin.trans hi), ← justifies_iff hw hp hi]
    exact h e he

/-- The program consists of what the pinned statement needs. -/
theorem emits_iff {w : Workspace} (hw : w.WellFormed) (hc : w.IsCurrent) {p e : Entry}
    (hp : p ∈ w.entries) (hpin : w.pinned = some p.id) :
    w.Emits e ↔ e ∈ w.entries ∧ w.Needs p e := by
  unfold Emits
  rw [hc, ← justifies_iff hw hp hpin]
  exact and_congr_right fun he ↦ mem_demanded hw he

theorem Justifies.mono {v w : Workspace} (h : ∀ e n, w.Owns e n → v.Owns e n)
    (hes : v.entries = w.entries) (hpin : v.pinned = w.pinned) {e : Entry} (he : w.Justifies e) :
    v.Justifies e := by
  obtain ⟨p, hp, hid, hneed⟩ := he
  exact ⟨p, hes ▸ hp, hpin.trans hid, hneed.mono h⟩

theorem Hides.justifies {v w : Workspace} (h : v.Hides w) {e : Entry} (he : w.Justifies e) :
    v.Justifies e := he.mono (fun _ _ ↦ h.owns) h.entries.symm h.pinned.symm

/-- A use needs a declaration only for the sake of a variable that the declaration owns. -/
theorem Needs.of_declares {w : Workspace} {p e : Entry} (hp : p.declares = false)
    (he : e.declares = true) (h : w.Needs p e) :
    ∃ n, w.Owns e n ∧ w.DependsOn p.fragment n := by
  cases h with
  | pinned h => exact absurd he (by simp [h, hp])
  | owner hown hn => exact ⟨_, hown, hn⟩
  | user hdecl => exact absurd he (by simp [hdecl])

/-- The pinned fragment is the latest statement's, which is a use. -/
theorem WellFormed.pinnedEntry {w : Workspace} {f : Fragment} (hw : w.WellFormed)
    (hf : w.pinnedFragment? = some f) :
    ∃ p ∈ w.entries, w.pinned = some p.id ∧ p.fragment = f ∧ p.declares = false := by
  unfold pinnedFragment? at hf
  obtain ⟨i, hi, hfi⟩ := Option.bind_eq_some_iff.mp hf
  obtain ⟨p, hp, rfl, hdecl, -⟩ := hw.stacked.le_of_latestUse? (hw.pinned.symm.trans hi)
  rw [fragment?_eq hw hp] at hfi
  exact ⟨p, hp, hi, Option.some.inj hfi, hdecl⟩

theorem Bare.isCurrent {w : Workspace} (hw : w.Bare) : w.IsCurrent := by
  unfold IsCurrent demanded
  rw [hw.emission, hw.pinned]
  rfl

theorem isCurrent_add (w : Workspace) (f : Fragment) : (w.add f).IsCurrent := by
  unfold IsCurrent demanded
  rw [pinned_add]
  cases hf : f.isDeclaration with
  | true =>
    unfold add
    simp [hf]
  | false =>
    unfold add
    simp only [hf, Bool.false_eq_true, if_false, Option.map_some, Option.getD_some]
    apply select_congr
    · rfl
    · simp

/-- A statement that does not declare the variable does not change who owns it. -/
theorem owns_add_iff {w : Workspace} (hw : w.Grounded) {f : Fragment} {n : Text}
    (hn : ¬ (f.isDeclaration = true ∧ n ∈ f.declaredNames)) {e : Entry} :
    (w.add f).Owns e n ↔ w.Owns e n := by
  have hget : (w.add f).registry.get? n = w.registry.get? n := by rw [get?_add, if_neg hn]
  obtain ⟨p, hes, -⟩ := exists_entry_add w f
  constructor
  · intro h
    obtain ⟨d, hd, hid⟩ := exists_owns hw (hget.symm.trans h.2)
    have hd' : (w.add f).Owns d n := ⟨hes ▸ List.mem_cons_of_mem p hd.1, hget.trans hd.2⟩
    rwa [h.unique (hw.add f) hd']
  · intro h
    exact ⟨hes ▸ List.mem_cons_of_mem p h.1, hget.trans h.2⟩

theorem owns_add_use_iff {w : Workspace} (hw : w.Grounded) {f : Fragment}
    (hf : f.isDeclaration = false) {e : Entry} {n : Text} :
    (w.add f).Owns e n ↔ w.Owns e n := owns_add_iff hw (by simp [hf])

theorem emission_add_use {w : Workspace} {f : Fragment} (hf : f.isDeclaration = false) :
    (w.add f).emission = (w.add f).select w.registry.nextId := by
  have hcurrent := isCurrent_add w f
  unfold IsCurrent demanded at hcurrent
  simpa [pinned_add, hf] using hcurrent

/-- The program of a use that has just been stored consists of what the use needs. -/
theorem mem_emission_add {w : Workspace} (hw : w.Grounded) {f : Fragment}
    (hf : f.isDeclaration = false) {p e : Entry} (hp : p ∈ (w.add f).entries)
    (hid : p.id = w.registry.nextId) (he : e ∈ (w.add f).entries) :
    e.id ∈ (w.add f).emission ↔ (w.add f).Needs p e := by
  rw [emission_add_use hf, ← hid]
  exact mem_select (hw.add f) hp he

theorem nextId_mem_emission_add {w : Workspace} (hw : w.Grounded) {f : Fragment}
    (hf : f.isDeclaration = false) : w.registry.nextId ∈ (w.add f).emission := by
  obtain ⟨p, hp, hid, -⟩ := exists_entry_add w f
  have hpm : p ∈ (w.add f).entries := hp ▸ List.mem_cons_self
  exact hid ▸ (mem_emission_add hw hf hpm hid hpm).mpr (.pinned rfl)

theorem isCurrent_rollback {w : Workspace} {e : Entry} {es : List Entry}
    (h : w.entries = e :: es) : w.rollback.IsCurrent := by
  unfold IsCurrent demanded
  rw [pinned_rollback h]
  unfold rollback
  rw [h]
  exact congrArg (Option.getD · []) (congrArg (Option.map · e.pinnedBefore)
    (funext (select_congr rfl rfl)))

theorem Edited.isCurrent {start w : Workspace} (hs : start.Bare) (hw : Edited start w) :
    w.IsCurrent := by
  induction hw with
  | start => exact hs.isCurrent
  | add f _ _ => exact isCurrent_add _ f
  | @rollback w _ ih =>
    cases h : w.entries with
    | nil => rwa [rollback_nil h]
    | cons e es => exact isCurrent_rollback h

/-- The emission was right when it was chosen; since then variables may have been hidden. -/
theorem Reachable.hides_current {w : Workspace} (hw : Reachable w) :
    ∃ v : Workspace, v.WellFormed ∧ v.IsCurrent ∧ v.Hides w := by
  refine Reachable.induction (P := fun w ↦ ∃ v : Workspace, v.WellFormed ∧ v.IsCurrent ∧ v.Hides w)
    ?empty ?add ?rollback ?hides hw
  case empty => exact ⟨{}, bare_empty.wellFormed, bare_empty.isCurrent, .refl _⟩
  case add =>
    intro w hw _ f
    exact ⟨_, hw.wellFormed.add f, isCurrent_add w f, .refl _⟩
  case rollback =>
    intro w hw ih
    cases h : w.entries with
    | nil => rwa [rollback_nil h]
    | cons e es => exact ⟨_, hw.wellFormed.rollback, isCurrent_rollback h, .refl _⟩
  case hides =>
    rintro w w' hh ⟨v, hv, hc, hvw⟩
    exact ⟨v, hv, hc, hvw.trans hh⟩

end Workspace
end GoRepl
