import GoRepl.Proofs.Reading

/-!
# Entries

The batch that is read from a line that ends in a parenthesis, its entries on a line each, and the
line that closes it: each entry is nested in it as a line of its own, trimmed
(`Fragment.outcome_read_batch`).
-/

namespace GoRepl

/-- A line that can stand in a batch: it is not blank, opens no block, and does not close that of
the batch.  Blanks at its ends do not count, as a block is read from trimmed lines. -/
structure IsEntry (entry : Text) : Prop where
  ne_nil : entry.trim ≠ []
  not_opens : entry.trim.getLast? ≠ some '{' ∧ entry.trim.getLast? ≠ some '('
  not_closes : closes entry.trim ')' = false

instance (entry : Text) : Decidable (IsEntry entry) :=
  decidable_of_iff (entry.trim ≠ [] ∧ (entry.trim.getLast? ≠ some '{' ∧
      entry.trim.getLast? ≠ some '(') ∧ closes entry.trim ')' = false)
    ⟨fun ⟨h, ho, hc⟩ ↦ ⟨h, ho, hc⟩, fun ⟨h, ho, hc⟩ ↦ ⟨h, ho, hc⟩⟩

theorem IsEntry.closerFor_eq_none {entry : Text} (h : IsEntry entry) :
    closerFor entry.trim = none := by
  unfold closerFor
  rw [Text.trimEnd_eq_self (Text.trim_trim entry)]
  split
  · exact absurd ‹_› h.not_opens.1
  · exact absurd ‹_› h.not_opens.2
  · rfl

/-- The entries of a batch and the line that closes it. -/
def Body.batch (entries : List Text) : Body :=
  entries.foldr (fun entry next => .nested entry.trim .nil next) (.line [')'] .nil)

@[simp] theorem Body.entryOpeners_batch (entries : List Text) :
    (batch entries).entryOpeners = entries.map Text.trim := by
  induction entries with
  | nil => rfl
  | cons entry entries ih => exact congrArg (entry.trim :: ·) ih

@[simp] theorem Body.ownLines_batch (entries : List Text) :
    (batch entries).ownLines = [[')']] := by
  induction entries with
  | nil => rfl
  | cons entry entries ih => exact ih

namespace Block

/-- An entry is nested in the block as it is, trimmed. -/
theorem step_of_isEntry {frame : Frame} (hf : frame.closer = ')') (outer : List Frame)
    {entry : Text} (h : IsEntry entry) :
    step frame outer entry.trim = .waiting (frame.push (.nested (.ofLine entry.trim))) outer := by
  have hinner : Inner frame.closer entry.trim :=
    ⟨Text.trim_trim entry, h.ne_nil, by rw [hf]; exact h.not_closes⟩
  have hturn : continues entry.trim frame.closer = false := by
    unfold continues
    simp [h.closerFor_eq_none]
  exact step_of_plain hinner hturn h.closerFor_eq_none

/-- What is read of a batch.  The induction is on the entries, the block having been read so far as
it may. -/
theorem outcome_read_entries {entries : List Text} (hentries : ∀ e ∈ entries, IsEntry e)
    (frame : Frame) (hf : frame.closer = ')') (rest : List SourceItem) :
    (read frame [] (entries.map .line ++ .line [')'] :: rest)).outcome =
      (.ok ⟨frame.opener, frame.below (.batch entries)⟩, rest) := by
  induction entries generalizing frame with
  | nil =>
    have hclose : closes [')'] frame.closer = true := by
      rw [hf]
      decide
    change (read frame [] (.line [')'] :: rest)).outcome = _
    rw [outcome_read_line, show Text.trim [')'] = [')'] by decide, step_of_closes hclose,
      Frame.fragment_eq]
    rfl
  | cons entry entries ih =>
    obtain ⟨hentry, hentries⟩ := List.forall_mem_cons.mp hentries
    change (read frame [] (.line entry :: (entries.map .line ++ .line [')'] :: rest))).outcome = _
    rw [outcome_read_line, step_of_isEntry hf [] hentry]
    exact ih hentries (frame.push (.nested (.ofLine entry.trim))) hf

end Block

theorem Fragment.outcome_read_batch {opener : Text} (ho : closerFor opener = some ')')
    {entries : List Text} (hentries : ∀ e ∈ entries, IsEntry e) (rest : List SourceItem) :
    (Fragment.read opener (entries.map .line ++ .line [')'] :: rest)).outcome =
      (.ok ⟨opener, .batch entries⟩, rest) := by
  unfold Fragment.read
  rw [ho]
  exact Block.outcome_read_entries hentries ⟨opener, ')', []⟩ rfl rest

end GoRepl
