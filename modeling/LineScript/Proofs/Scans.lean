import LineScript.Proofs.Flatten

/-!
**Scans from a text on agree with full scans.**

What begins with a text is looked for from that text on, and only up to the first key that begins otherwise.
`KeyMap.span_eq_filter` says that nothing is missed.  Here this is carried over to what is made of the scan: the
members of a wildcard, the map that is left when all that a wildcard covers is removed, the number of the
removed entries, and the test whether a wildcard covers anything.  Each is what a look at every entry would
give.

Main definitions:

* `LineScript.ValueMap.Finds` — a list is what a full scan for set values finds;
* `LineScript.ValueMap.Leaves` — a number and a map are what a full removal gives.

Main results:

* `LineScript.KeyMap.eraseSpan_eq_filter` — the map that is left, entry by entry;
* `LineScript.ValueMap.finds_members`, `LineScript.ValueMap.leaves_removeSpan` — **the scans agree with full
  scans**;
* `LineScript.ValueMap.has_wildcard` — a wildcard covers something just if a member is found;
* `LineScript.ValueMap.scans_agree` — all of it together.
-/

set_option autoImplicit false

namespace LineScript

/-! ### Maps -/

namespace KeyMap

variable {β : Type}

theorem begins_iff_append {stem key : String} : begins stem key = true ↔ ∃ rest, key = stem ++ rest := by
  constructor
  · intro begins
    exact ⟨after stem key, (append_after begins).symm⟩
  · rintro ⟨rest, rfl⟩
    exact begins_append stem rest

/-- **What is left when a span is taken out**: all other entries, as they were. -/
theorem eraseSpan_eq_filter (m : KeyMap β) (stem : String) :
    m.eraseSpan stem = m.filter fun e => !begins stem e.1 := by
  refine ext_get? fun key v => ?_
  rw [get?_eraseSpan]
  cases first : begins stem key with
  | true =>
      have out : (m.filter fun e => !begins stem e.1).get? key = none :=
        lookup_filter_of_false (by simp [first]) m.entries
      rw [out, if_pos rfl]
  | false =>
      have kept : (m.filter fun e => !begins stem e.1).get? key = m.get? key :=
        lookup_filter_of_true (by simp [first]) m.entries
      rw [kept, if_neg Bool.false_ne_true]

end KeyMap

/-! ### Values -/

namespace ValueMap

/-- **The list is what a full scan for set values finds**: of all entries those with the beginning and a text,
by the rest of the key.  They come in increasing order of their keys, so that each comes once. -/
structure Finds (m : ValueMap) (stem : String) (found : List (String × Value)) : Prop where
  whole : found = (m.entries.filter fun e => KeyMap.begins stem e.1 && !e.2.isEmpty).map
    fun e => (KeyMap.after stem e.1, e.2)
  mem_iff : ∀ rest v, (rest, v) ∈ found ↔ (stem ++ rest, v) ∈ m.entries ∧ v.text ≠ ""
  increasing : found.Pairwise fun a b => stem ++ a.1 < stem ++ b.1

/-- **The number and the map are what a full removal gives**: the number of all entries with the beginning,
set or not, and the map of all others. -/
structure Leaves (m : ValueMap) (stem : String) (count : Nat) (left : ValueMap) : Prop where
  whole : left.entries = m.entries.filter fun e => !KeyMap.begins stem e.1
  mem_iff : ∀ key v, (key, v) ∈ left.entries ↔ (key, v) ∈ m.entries ∧ ¬ ∃ rest, key = stem ++ rest
  counted : count = (m.entries.filter fun e => KeyMap.begins stem e.1).length

/-- The members of a wildcard are what a full scan finds. -/
theorem finds_members (m : ValueMap) (stem : String) : m.Finds stem (m.members stem) where
  whole := by
    rw [members, KeyMap.span_eq_filter, List.filter_filter]
    exact congrArg _ (List.filter_congr fun e _ => Bool.and_comm _ _)
  mem_iff rest v := by
    rw [mem_members, KeyMap.mem_entries_iff]
    simp [Value.isEmpty]
  increasing := m.members_ordered stem

/-- What a wildcard covers is removed as by a full scan. -/
theorem leaves_removeSpan (m : ValueMap) (stem : String) :
    m.Leaves stem (m.removeSpan stem).1 (m.removeSpan stem).2 := by
  have whole : (m.removeSpan stem).2.entries = m.entries.filter fun e => !KeyMap.begins stem e.1 :=
    congrArg KeyMap.entries (m.eraseSpan_eq_filter stem)
  refine ⟨whole, fun key v => ?_, congrArg List.length (m.span_eq_filter stem)⟩
  rw [whole, List.mem_filter, ← KeyMap.begins_iff_append]
  simp

/-- A wildcard covers something just if a member is found. -/
theorem has_wildcard (m : ValueMap) (scope : Scope) (base : String) :
    m.has ⟨scope, base, true⟩ = true ↔ m.members (ScopedName.key ⟨scope, base, true⟩) ≠ [] := by
  simp [has]

/-- **Scans from a text on agree with full scans.**  For every map and every beginning, the members are what a
full scan finds, and a removal takes out and counts what a full scan would.  A wildcard is there just if there
are members of it, and so just if some entry with its beginning is set. -/
theorem scans_agree (m : ValueMap) (stem : String) :
    m.Finds stem (m.members stem) ∧ m.Leaves stem (m.removeSpan stem).1 (m.removeSpan stem).2 ∧
      ∀ scope base, (m.has ⟨scope, base, true⟩ = true ↔
          m.members (ScopedName.key ⟨scope, base, true⟩) ≠ []) ∧
        (m.has ⟨scope, base, true⟩ = true ↔
          ∃ rest v, (ScopedName.key ⟨scope, base, true⟩ ++ rest, v) ∈ m.entries ∧ v.text ≠ "") := by
  refine ⟨m.finds_members stem, m.leaves_removeSpan stem, fun scope base => ?_⟩
  refine ⟨m.has_wildcard scope base, ?_⟩
  rw [has_wildcard]
  constructor
  · intro found
    obtain ⟨⟨rest, v⟩, mem⟩ := List.exists_mem_of_ne_nil _ found
    exact ⟨rest, v, ((m.finds_members _).mem_iff rest v).1 mem⟩
  · rintro ⟨rest, v, set⟩
    exact List.ne_nil_of_mem (((m.finds_members _).mem_iff rest v).2 set)

end ValueMap

end LineScript
