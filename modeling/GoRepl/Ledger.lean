/-! # Ledgers

Tables in order of entry. Each key stands once; writing to a key that is present keeps its place,
and a new key goes to the end. -/

namespace GoRepl

structure Ledger (κ α : Type) where
  entries : List (κ × α) := []
  nodup_keys : (entries.map Prod.fst).Nodup := by simp

namespace Ledger

variable {κ α : Type}

def empty : Ledger κ α := {}

def keys (l : Ledger κ α) : List κ := l.entries.map Prod.fst

theorem ext {l m : Ledger κ α} (h : l.entries = m.entries) : l = m := by
  cases l; cases m; simp_all

instance [DecidableEq κ] [DecidableEq α] : DecidableEq (Ledger κ α) := fun l m =>
  if h : l.entries = m.entries then isTrue (ext h) else isFalse fun e => h (congrArg entries e)

variable [DecidableEq κ]

def get? (l : Ledger κ α) (k : κ) : Option α :=
  (l.entries.find? fun e => e.1 = k).map Prod.snd

def contains (l : Ledger κ α) (k : κ) : Bool := l.keys.contains k

/-- The entries after writing `v` to `k`. -/
def putEntries (k : κ) (v : α) : List (κ × α) → List (κ × α)
  | [] => [(k, v)]
  | e :: es => if e.1 = k then (k, v) :: es else e :: putEntries k v es

theorem keys_putEntries (k : κ) (v : α) (es : List (κ × α)) :
    (putEntries k v es).map Prod.fst =
      if k ∈ es.map Prod.fst then es.map Prod.fst else es.map Prod.fst ++ [k] := by
  induction es with
  | nil => simp [putEntries]
  | cons e es ih =>
    by_cases h : e.1 = k
    · simp [putEntries, h]
    · have h' : ¬k = e.1 := fun e => h e.symm
      by_cases hm : k ∈ es.map Prod.fst <;> simp [putEntries, h, h', ih, hm]

theorem nodup_putEntries {k : κ} {v : α} {es : List (κ × α)} (h : (es.map Prod.fst).Nodup) :
    ((putEntries k v es).map Prod.fst).Nodup := by
  rw [keys_putEntries]
  split
  · exact h
  · rename_i hk
    exact List.nodup_append.mpr ⟨h, by simp, fun a ha b hb hab =>
      hk (by simp at hb; subst hb; subst hab; exact ha)⟩

def put (l : Ledger κ α) (k : κ) (v : α) : Ledger κ α where
  entries := putEntries k v l.entries
  nodup_keys := nodup_putEntries l.nodup_keys

/-- Keep the entries that satisfy `p`. -/
def filter (l : Ledger κ α) (p : κ → α → Bool) : Ledger κ α where
  entries := l.entries.filter fun e => p e.1 e.2
  nodup_keys := l.nodup_keys.sublist (List.filter_sublist.map Prod.fst)

def erase (l : Ledger κ α) (k : κ) : Ledger κ α := l.filter fun k' _ => k' ≠ k

@[simp] theorem get?_empty (k : κ) : (empty : Ledger κ α).get? k = none := rfl

theorem find?_putEntries (k k' : κ) (v : α) (es : List (κ × α)) :
    (putEntries k v es).find? (fun e => e.1 = k') =
      if k = k' then some (k, v) else es.find? fun e => e.1 = k' := by
  induction es with
  | nil => by_cases h : k = k' <;> simp [putEntries, h]
  | cons e es ih => by_cases h : e.1 = k <;> by_cases h' : k = k' <;> grind [putEntries]

theorem get?_put (l : Ledger κ α) (k k' : κ) (v : α) :
    (l.put k v).get? k' = if k = k' then some v else l.get? k' := by
  unfold get? put
  rw [find?_putEntries]
  split <;> rfl

@[simp] theorem get?_put_self (l : Ledger κ α) (k : κ) (v : α) : (l.put k v).get? k = some v := by
  simp [get?_put]

theorem get?_put_of_ne {k k' : κ} (h : k ≠ k') (l : Ledger κ α) (v : α) :
    (l.put k v).get? k' = l.get? k' := by
  simp [get?_put, h]

theorem get?_erase (l : Ledger κ α) (k k' : κ) :
    (l.erase k).get? k' = if k = k' then none else l.get? k' := by
  simp only [get?, erase, filter, List.find?_filter]
  by_cases h : k = k'
  · subst h
    simp only [if_pos, Option.map_eq_none_iff, List.find?_eq_none]
    intro e _
    simp
  · simp only [if_neg h]
    congr 2
    funext e
    by_cases h' : e.1 = k' <;> simp [h']
    exact fun e => h e.symm

theorem contains_put (l : Ledger κ α) (k k' : κ) (v : α) :
    (l.put k v).contains k' = (l.contains k' || decide (k = k')) := by
  simp only [contains, keys, put, keys_putEntries]
  by_cases h : k ∈ l.entries.map Prod.fst
  · by_cases h' : k = k'
    · subst h'; simp [h]
    · simp [h, h']
  · rw [Bool.eq_iff_iff]
    simp [h, eq_comm (a := k)]

end Ledger
end GoRepl
