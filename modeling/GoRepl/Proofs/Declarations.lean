import GoRepl.Proofs.Clauses
import GoRepl.Proofs.Entries

/-!
# Declarations in a batch

A batch `var (` or `const (` with its entries beside the same entries declared on a line each.  The
two read an entry in different ways: on its own line it is a clause, and all the names before its
type and values count, while in the batch it is a line nested in the block, of which the first word
counts.  So a batch declares the first name of each entry, and what its entries declare on their own
only if none of them has more names than one (`Fragment.declaredNames_batch`).
-/

namespace GoRepl

/-- Lists put together from beginnings of others are the same only part by part. -/
theorem flatMap_eq_flatMap_iff {α β : Type} {f g : α → List β} {l : List α}
    (h : ∀ a ∈ l, f a <+: g a) : l.flatMap f = l.flatMap g ↔ ∀ a ∈ l, f a = g a := by
  refine ⟨fun heq ↦ ?_, List.flatMap_congr⟩
  have hle : ∀ l : List α, (∀ a ∈ l, f a <+: g a) →
      (l.flatMap f).length ≤ (l.flatMap g).length := by
    intro l hl
    induction l with
    | nil => exact Nat.le_refl 0
    | cons a l ih =>
      obtain ⟨ha, hl⟩ := List.forall_mem_cons.mp hl
      simpa using Nat.add_le_add ha.length_le (ih hl)
  induction l with
  | nil => simp
  | cons a l ih =>
    obtain ⟨⟨rest, ha⟩, hl⟩ := List.forall_mem_cons.mp h
    rw [List.flatMap_cons, List.flatMap_cons, ← ha, List.append_assoc,
      List.append_cancel_left_eq] at heq
    have hrest : rest = [] := by
      have hlength := congrArg List.length heq
      rw [List.length_append] at hlength
      exact List.eq_nil_of_length_eq_zero (by have := hle l hl; omega)
    subst hrest
    exact List.forall_mem_cons.mpr ⟨by simpa using ha, ih hl heq⟩

namespace Clause

open Text

/-- An entry of a batch of declarations: names, and then a type, values, both or neither. -/
structure IsEntryOf (entry : Text) (ws : List Text) : Prop where
  isEntry : IsEntry entry
  semicolon_notMem : ';' ∉ entry
  exists_names : ∃ lead t rest, entry = lead ++ (t ++ rest) ∧ Blanks lead ∧ Lists ws t ∧
    EndsNames rest

variable {entry : Text} {ws : List Text}

theorem IsEntryOf.exists_cons (h : IsEntryOf entry ws) : ∃ w ws', ws = w :: ws' := by
  obtain ⟨_, _, _, -, -, ht, -⟩ := h.exists_names
  obtain ⟨w, ws', -, hws, -⟩ := ht.exists_name
  exact ⟨w, ws', hws⟩

/-- On a line of its own an entry declares its names. -/
theorem IsEntryOf.declares (h : IsEntryOf entry ws) {word : Text}
    (hword : word = "var".toList ∨ word = "const".toList) : Declares (word ++ ' ' :: entry) ws := by
  obtain ⟨lead, t, rest, rfl, hlead, ht, hrest⟩ := h.exists_names
  have hgap : Blanks (' ' :: lead) := List.forall_mem_cons.mpr ⟨by decide, hlead⟩
  have hsemicolon : ';' ∉ rest := fun hmem ↦ h.semicolon_notMem (by simp [hmem])
  exact @Declares.keyword [] word (' ' :: lead) t rest ws (by decide) hword (by simp) hgap ht hrest
    hsemicolon

/-- In a batch an entry declares its first name. -/
theorem IsEntryOf.word?_eq (h : IsEntryOf entry ws) :
    ((word? (trimStart entry.trim)).map Prod.fst).toList = ws.take 1 := by
  obtain ⟨lead, t, rest, rfl, hlead, ht, hrest⟩ := h.exists_names
  obtain ⟨w, ws', after, rfl, rfl, hw, hafter⟩ := ht.exists_name
  have htrim : trim (lead ++ (w ++ after ++ rest)) = w ++ trimEnd (after ++ rest) := by
    have hnone : lead.dropWhile isBlank = [] := List.dropWhile_eq_nil_iff.mpr hlead
    have hblank : ∀ c ∈ w, isBlank c = false := fun c hc ↦ isBlank_of_isWord (hw.isWord c hc)
    unfold trim
    rw [List.append_assoc, ← List.append_assoc, strip_gap_append hw.ne_nil hblank, hnone]
    rfl
  have hends : EndsWord (trimEnd (after ++ rest)) := by
    obtain ⟨tail, htail, -⟩ := exists_dropEndWhile_append isBlank (after ++ rest)
    have hall := hafter rest hrest.endsWord
    rw [htail] at hall
    exact hall.of_append
  have hnil : Blanks [] := by decide
  have hfirst := hw.word? hnil hends
  rw [List.nil_append] at hfirst
  rw [htrim, hfirst]
  rfl

end Clause

namespace Fragment

open Clause Text

section Batch

variable {word : Text} (hword : word = "var".toList ∨ word = "const".toList)

include hword

/-- The lines of the batch around its entries declare nothing, and the first one opens a batch. -/
theorem declaredNames_batchOf (entries : List Text) :
    let f : Fragment := ⟨word ++ " (".toList, .batch entries⟩
    f.isDeclaration = true ∧ f.declaredNames =
      (entries.map Text.trim).flatMap fun e ↦ ((word? (trimStart e)).map Prod.fst).toList := by
  intro f
  have hbatch : f.isBatch = true := by
    rcases hword with rfl | rfl <;> rfl
  have hclauses : f.clauseNames = [] := by
    unfold clauseNames
    rw [show f.body = .batch entries from rfl, show f.opener = word ++ " (".toList from rfl,
      Body.ownLines_batch]
    rcases hword with rfl | rfl <;> decide +kernel
  have hentries : f.batchNames =
      (entries.map Text.trim).flatMap fun e ↦ ((word? (trimStart e)).map Prod.fst).toList := by
    unfold batchNames
    rw [show f.body = .batch entries from rfl, Body.entryOpeners_batch,
      List.filterMap_eq_flatMap_toList]
  refine ⟨by simp [isDeclaration, hbatch], ?_⟩
  unfold declaredNames
  rw [if_pos hbatch, hclauses, hentries, List.append_nil]

/-- A batch is read whole and is a declaration.  It declares the first name of each entry, while on
lines of their own the entries declare all their names; so the two agree if and only if every entry
has just one name. -/
theorem declaredNames_batch {entries : List (Text × List Text)}
    (h : ∀ p ∈ entries, IsEntryOf p.1 p.2) (rest : List SourceItem) :
    let singles := entries.flatMap fun p ↦ (ofLine (word ++ ' ' :: p.1)).declaredNames
    ∃ f : Fragment,
      (Fragment.read (word ++ " (".toList)
        (entries.map (fun p ↦ .line p.1) ++ .line [')'] :: rest)).outcome = (.ok f, rest) ∧
      f.isDeclaration = true ∧
      f.declaredNames = entries.flatMap (fun p ↦ p.2.take 1) ∧
      singles = entries.flatMap Prod.snd ∧
      (f.declaredNames = singles ↔ ∀ p ∈ entries, ∃ name, p.2 = [name]) := by
  intro singles
  have hentries : ∀ e ∈ entries.map Prod.fst, IsEntry e := by
    intro e he
    obtain ⟨p, hp, rfl⟩ := List.mem_map.mp he
    exact (h p hp).isEntry
  have hopens : closerFor (word ++ " (".toList) = some ')' := by
    rcases hword with rfl | rfl <;> rfl
  have hread := outcome_read_batch hopens hentries rest
  obtain ⟨hdeclaration, hbatch⟩ := declaredNames_batchOf hword (entries.map Prod.fst)
  have hfirst : (Fragment.mk (word ++ " (".toList) (.batch (entries.map Prod.fst))).declaredNames =
      entries.flatMap fun p ↦ p.2.take 1 := by
    rw [hbatch, List.flatMap_map, List.flatMap_map]
    exact List.flatMap_congr fun p hp ↦ (h p hp).word?_eq
  have hsingles : singles = entries.flatMap Prod.snd :=
    List.flatMap_congr fun p hp ↦ declaredNames_of_declares ((h p hp).declares hword)
  rw [List.map_map] at hread
  refine ⟨_, hread, hdeclaration, hfirst, hsingles, ?_⟩
  rw [hfirst, hsingles, flatMap_eq_flatMap_iff fun p _ ↦ List.take_prefix 1 p.2]
  refine forall₂_congr fun p hp ↦ ?_
  obtain ⟨w, ws, hws⟩ := (h p hp).exists_cons
  rw [hws]
  cases ws with
  | nil => simp
  | cons w' ws => simp

end Batch

theorem isEntryOf_assignment : IsEntryOf "a, b = 1, 2".toList ["a".toList, "b".toList] where
  isEntry := by decide
  semicolon_notMem := by decide
  exists_names := ⟨[], "a, b".toList, " = 1, 2".toList, by decide, by decide,
    @Lists.more ['a'] [] [' '] _ _ (by decide) (by decide) (by decide)
      (@Lists.one ['b'] (by decide)), by decide⟩

theorem isEntryOf_typed : IsEntryOf "\tc func(int) = f(1)".toList ["c".toList] where
  isEntry := by decide
  semicolon_notMem := by decide
  exists_names := ⟨['\t'], ['c'], " func(int) = f(1)".toList, by decide, by decide,
    @Lists.one ['c'] (by decide), by decide⟩

/-- Of three constants in two entries the batch declares two. -/
theorem declaredNames_batch_constants :
    let entries : List (Text × List Text) :=
      [("a, b = 1, 2".toList, ["a".toList, "b".toList]),
        ("\tc func(int) = f(1)".toList, ["c".toList])]
    (∀ p ∈ entries, IsEntryOf p.1 p.2) ∧
      ∃ f : Fragment,
        (Fragment.read ("const".toList ++ " (".toList)
          (entries.map (fun p ↦ .line p.1) ++ .line [')'] :: [.interrupt])).outcome =
            (.ok f, [.interrupt]) ∧
        f.isDeclaration = true ∧ f.declaredNames = ["a".toList, "c".toList] ∧
        entries.flatMap (fun p ↦ (ofLine ("const".toList ++ ' ' :: p.1)).declaredNames) =
          ["a".toList, "b".toList, "c".toList] := by
  intro entries
  have hentries : ∀ p ∈ entries, IsEntryOf p.1 p.2 :=
    List.forall_mem_cons.mpr
      ⟨isEntryOf_assignment, List.forall_mem_singleton.mpr isEntryOf_typed⟩
  obtain ⟨f, hread, hdeclaration, hfirst, hsingles, -⟩ :=
    declaredNames_batch (.inr rfl) hentries [.interrupt]
  exact ⟨hentries, f, hread, hdeclaration, hfirst, hsingles⟩

/-- Two variables in one entry: on a line of its own the entry declares both, and in the batch only
the first. -/
theorem batch_drops_name :
    let entry := "a, b = 1, 2".toList
    let f : Fragment := ⟨"var (".toList, .batch [entry]⟩
    IsEntryOf entry ["a".toList, "b".toList] ∧
      (Fragment.read "var (".toList [.line entry, .line [')']]).outcome = (.ok f, []) ∧
      f.declaredNames = ["a".toList] ∧
      (ofLine ("var ".toList ++ entry)).declaredNames = ["a".toList, "b".toList] ∧
      f.declaredNames ≠ (ofLine ("var ".toList ++ entry)).declaredNames := by
  intro entry f
  have hread : (Fragment.read "var (".toList [.line entry, .line [')']]).outcome = (.ok f, []) :=
    rfl
  exact ⟨isEntryOf_assignment, hread, by decide +kernel, by decide +kernel, by decide +kernel⟩

end Fragment
end GoRepl
