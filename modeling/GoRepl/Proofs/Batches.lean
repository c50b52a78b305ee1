import GoRepl.Proofs.Entries
import GoRepl.Proofs.Runs

/-!
# Imports in a batch

A batch `import (` with its entries, and the same entries imported by a turn each, come to the same
session and declare the same packages (`Session.start_batch_eq_converse`).

The two take different ways.  The entry of a turn of its own is what follows the keyword once the
line has been trimmed, while the entry of a batch is a trimmed line that is read into the block and
is nested there.  On both ways it arrives as the trimmed entry.  For the one way this is
`Command.classify_import`, for the other `Fragment.outcome_read_batch`.
-/

namespace GoRepl

/-! ## The entry of a turn of its own -/

theorem IsEntry.ne_paren {entry : Text} (h : IsEntry entry) : entry.trim ≠ ['('] := by
  intro hparen
  exact h.not_opens.2 (by rw [hparen]; rfl)

/-- The line of an import asks for what follows the keyword, trimmed. -/
theorem Command.classify_import {entry : Text} (h : entry.trim ≠ []) :
    classify ("import ".toList ++ entry) = .bring entry.trim := by
  have hword : ∀ c ∈ "import".toList, Text.isBlank c = false := by
    intro c hc
    have hall : ("import".toList.all fun c ↦ !Text.isBlank c) = true := by decide
    simpa using List.all_eq_true.mp hall c hc
  have htrim : Text.trim ("import ".toList ++ entry) =
      "import".toList ++ ' ' :: Text.dropEndWhile Text.isBlank entry := by
    refine (Text.strip_gap_append (by decide) hword [] (' ' :: entry)).trans ?_
    rw [Text.dropEndWhile_cons h]
    rfl
  have hargument : Text.trim (Text.dropEndWhile Text.isBlank entry) = entry.trim :=
    Text.strip_dropEndWhile ..
  generalize Text.dropEndWhile Text.isBlank entry = rest at htrim hargument
  have hne : ∀ word : Text, word.head? ≠ some 'i' → "import".toList ++ ' ' :: rest ≠ word := by
    rintro word hword rfl
    exact hword rfl
  have hexport : argument? "export".toList ("import".toList ++ ' ' :: rest) = none := rfl
  have himport : argument? "import".toList ("import".toList ++ ' ' :: rest) =
      some entry.trim := by
    change (if Text.isBlank ' ' && decide (Text.trim rest ≠ []) then some (Text.trim rest)
      else none) = _
    rw [hargument, if_pos (by simp [h, show Text.isBlank ' ' = true by decide])]
  unfold classify
  simp only [htrim]
  rw [if_neg (hne _ (by decide)), if_neg (hne _ (by decide)), hexport]
  simp only [decide_eq_false (hne _ (show "playground".toList.head? ≠ some 'i' by decide)),
    decide_eq_false (hne _ (show "share".toList.head? ≠ some 'i' by decide)), himport]
  rfl

/-! ## Turns -/

/-- The names that a turn has declared. -/
def Outcome.declaredNames : Outcome → List Text
  | .declared names => names
  | _ => []

namespace Session

variable (s : Session)

/-- Import what a text says, if it has a path. -/
def importText (text : Text) : Step :=
  match ImportSpec.parse? text with
  | some spec => s.importSpecs [spec]
  | none => .settled (.failed (.malformedImport text)) s

/-- How the import of a text ends. -/
def importOutcome (text : Text) : Outcome :=
  match ImportSpec.parse? text with
  | some spec => .declared [spec.path]
  | none => .failed (.malformedImport text)

/-- The session after all that the texts say has been imported. -/
def importTexts (texts : List Text) : Session :=
  { s with workspace := (texts.filterMap ImportSpec.parse?).foldl .declareImport s.workspace }

theorem importText_eq (text : Text) :
    s.importText text = .settled (importOutcome text) (s.importTexts [text]) := by
  unfold importText importOutcome importTexts
  cases h : ImportSpec.parse? text with
  | none => simp [h]
  | some spec => simp [h, importSpecs]

theorem importTexts_cons (text : Text) (texts : List Text) :
    s.importTexts (text :: texts) = (s.importTexts [text]).importTexts texts := by
  unfold importTexts
  rw [show text :: texts = [text] ++ texts from rfl, List.filterMap_append, List.foldl_append]

theorem declaredNames_importOutcome (text : Text) :
    (importOutcome text).declaredNames =
      ([text].filterMap ImportSpec.parse?).map ImportSpec.path := by
  unfold importOutcome
  cases h : ImportSpec.parse? text with
  | none => simp [h, Outcome.declaredNames]
  | some spec => simp [h, Outcome.declaredNames]

theorem flatMap_declaredNames_importOutcome (texts : List Text) :
    texts.flatMap (fun text ↦ (importOutcome text).declaredNames) =
      (texts.filterMap ImportSpec.parse?).map ImportSpec.path := by
  induction texts with
  | nil => rfl
  | cons text texts ih =>
    rw [List.flatMap_cons, ih, declaredNames_importOutcome, ← List.map_append,
      ← List.filterMap_append]
    rfl

/-- A turn of its own imports the trimmed entry. -/
theorem start_import {entry : Text} (h : IsEntry entry) (source : List SourceItem) :
    s.start ("import ".toList ++ entry) source = ⟨s.importText entry.trim, [], source⟩ := by
  unfold start importText
  rw [Command.classify_import h.ne_nil]
  simp only [if_neg h.ne_paren]
  cases ImportSpec.parse? entry.trim <;> rfl

theorem start_import_of_pathless {entry : Text} (h : IsEntry entry)
    (hpath : ImportSpec.parse? entry.trim = none) (source : List SourceItem) :
    (s.start ("import ".toList ++ entry) source).step =
      .settled (.failed (.malformedImport entry.trim)) s := by
  rw [start_import s h]
  unfold importText
  simp only [hpath]

/-- The first line of a batch is followed by its block. -/
theorem start_batchLine (source : List SourceItem) :
    s.start "import (".toList source =
      s.withBlock "import (".toList source fun f ↦ s.importSpecs (entrySpecs f) := rfl

section Batch

variable {entries : List Text} (hentries : ∀ e ∈ entries, IsEntry e)

include hentries

/-- Turns of their own import the trimmed entries. -/
theorem converse_imports (replies : (d : Demand) → d.Answer) (source : List SourceItem) :
    let singles := s.converse replies (entries.map fun e ↦ ("import ".toList ++ e, source))
    singles.1.map Exchange.outcome = entries.map (fun e ↦ importOutcome e.trim) ∧
      singles.2 = s.importTexts (entries.map Text.trim) := by
  induction entries generalizing s with
  | nil => exact ⟨rfl, rfl⟩
  | cons entry entries ih =>
    obtain ⟨hentry, hentries⟩ := List.forall_mem_cons.mp hentries
    have hturn : (s.start ("import ".toList ++ entry) source).step.settle replies =
        (importOutcome entry.trim, s.importTexts [entry.trim]) := by
      rw [start_import s hentry, importText_eq]
      rfl
    obtain ⟨houtcomes, hafter⟩ := ih (s.importTexts [entry.trim]) hentries
    simp only [List.map_cons, converse, hturn]
    exact ⟨congrArg _ houtcomes, hafter.trans (s.importTexts_cons ..).symm⟩

/-- A batch imports the trimmed entries. -/
theorem start_batch (rest : List SourceItem) :
    let batch := s.start "import (".toList (entries.map .line ++ .line [')'] :: rest)
    batch.step = s.importSpecs ((entries.map Text.trim).filterMap ImportSpec.parse?) ∧
      batch.rest = rest := by
  have hopens : closerFor "import (".toList = some ')' := rfl
  have hread := Fragment.outcome_read_batch hopens hentries rest
  have hspecs : entrySpecs ⟨"import (".toList, .batch entries⟩ =
      (entries.map Text.trim).filterMap ImportSpec.parse? :=
    congrArg (List.filterMap ImportSpec.parse?) (Body.entryOpeners_batch entries)
  rw [start_batchLine]
  constructor
  · rw [step_withBlock_of_ok (congrArg Prod.fst hread), hspecs]
  · exact (rest_withBlock ..).trans (congrArg Prod.snd hread)

/-- A batch of imports leaves the session as it is after a turn for each of the entries, one after
the other, and declares what those of these turns declare that succeed.  An entry without a path is
passed over in the batch, while its own turn is refused and changes nothing, whatever the session.
This holds of all sessions, and so of those that can be reached. -/
theorem start_batch_eq_converse (replies : (d : Demand) → d.Answer)
    (source rest : List SourceItem) :
    let batch := s.start "import (".toList (entries.map .line ++ .line [')'] :: rest)
    let singles := s.converse replies (entries.map fun e ↦ ("import ".toList ++ e, source))
    batch.step = .settled
      (.declared (singles.1.flatMap fun x ↦ x.outcome.declaredNames)) singles.2 ∧
    batch.rest = rest ∧
    batch.step = s.importSpecs ((entries.map Text.trim).filterMap ImportSpec.parse?) ∧
    singles.1.map Exchange.outcome = entries.map (fun e ↦ importOutcome e.trim) ∧
    ∀ t : Session, ∀ e ∈ entries, ImportSpec.parse? e.trim = none →
      (t.start ("import ".toList ++ e) source).step =
        .settled (.failed (.malformedImport e.trim)) t := by
  intro batch singles
  obtain ⟨hbatch, hrest⟩ := s.start_batch hentries rest
  obtain ⟨houtcomes, hafter⟩ := s.converse_imports hentries replies source
  have hnames : singles.1.flatMap (fun x ↦ x.outcome.declaredNames) =
      ((entries.map Text.trim).filterMap ImportSpec.parse?).map ImportSpec.path := by
    calc singles.1.flatMap (fun x ↦ x.outcome.declaredNames)
        = (singles.1.map Exchange.outcome).flatMap Outcome.declaredNames :=
          (List.flatMap_map ..).symm
      _ = (entries.map Text.trim).flatMap (fun text ↦ (importOutcome text).declaredNames) := by
          rw [houtcomes, List.flatMap_map, List.flatMap_map]
      _ = ((entries.map Text.trim).filterMap ImportSpec.parse?).map ImportSpec.path :=
          flatMap_declaredNames_importOutcome _
  refine ⟨?_, hrest, hbatch, houtcomes, fun t e he hpath ↦ ?_⟩
  · rw [hnames, hafter]
    exact hbatch
  · exact t.start_import_of_pathless (hentries e he) hpath source

end Batch

/-- The entries are a package under a local name, one with a comma after it, quotes around nothing,
and the first package once more under another name. -/
theorem start_batch_eq_converse_mixed :
    let s := played "import \"os\"\nsort := 3\n"
    let entries := ["r \"math/rand\"", " \"sort\", ", "\"\"", "\tx\t\"math/rand\""].map
      String.toList
    let batch := s.start "import (".toList (entries.map .line ++ [.line [')']])
    let singles := s.converse (Demand.compiled fun _ ↦ .ok {})
      (entries.map fun e ↦ ("import ".toList ++ e, []))
    s.Reachable ∧ (∀ e ∈ entries, IsEntry e) ∧
      batch.step = .settled (.declared (["math/rand", "sort", "math/rand"].map String.toList))
        singles.2 ∧
      singles.1.map Exchange.outcome =
        [.declared ["math/rand".toList], .declared ["sort".toList],
          .failed (.malformedImport "\"\"".toList), .declared ["math/rand".toList]] ∧
      singles.2.workspace.importPaths = ["fmt", "os", "sort", "math/rand"].map String.toList := by
  intro s entries batch singles
  have hentries : ∀ e ∈ entries, IsEntry e := by decide +kernel
  obtain ⟨hbatch, -⟩ := s.start_batch_eq_converse hentries (Demand.compiled fun _ ↦ .ok {}) [] []
  have hnames : singles.1.flatMap (fun x ↦ x.outcome.declaredNames) =
      ["math/rand", "sort", "math/rand"].map String.toList := by decide +kernel
  refine ⟨reachable_played _, hentries, ?_, by decide +kernel, by decide +kernel⟩
  rw [hnames] at hbatch
  exact hbatch

end Session

end GoRepl
