/-!
**Maps from names, in the order of the names.**

Everything a script names by text (its values, its labels, the documents in storage) is kept in a
map whose entries are in increasing order of their keys, compared code point by code point.  The
order shows whenever a map is listed, and it is what lets the keys with a common beginning be found
by one scan: they stand next to each other.

Main definitions:

* `LineScript.KeyMap` — entries in strictly increasing order of their keys;
* `LineScript.KeyMap.get?`, `LineScript.KeyMap.insert`, `LineScript.KeyMap.erase` — the usual
  operations;
* `LineScript.KeyMap.span` — the entries whose keys begin with a given text;
* `LineScript.KeyMap.removeSpan` — the map without these, and their number.

Main results:

* `LineScript.KeyMap.get?_insert_self`, `LineScript.KeyMap.get?_insert_of_ne`,
  `LineScript.KeyMap.get?_erase_self`, `LineScript.KeyMap.get?_erase_of_ne` — what each operation
  does to a look-up.
-/

set_option autoImplicit false

namespace LineScript

/-- A finite map from texts, its entries in strictly increasing order of their keys. -/
structure KeyMap (β : Type) where
  entries : List (String × β)
  sorted : entries.Pairwise fun a b => a.1 < b.1

namespace KeyMap

variable {β : Type}

/-- The map with no entries. -/
def empty : KeyMap β := ⟨[], .nil⟩

instance : Inhabited (KeyMap β) := ⟨empty⟩

/-- The keys, in increasing order. -/
def keys (m : KeyMap β) : List String := m.entries.map Prod.fst

/-- The number of entries. -/
def size (m : KeyMap β) : Nat := m.entries.length

/-- There are no entries. -/
def isEmpty (m : KeyMap β) : Bool := m.entries.isEmpty

/-! ### Look-up -/

/-- The entry under a key. -/
def get? (m : KeyMap β) (key : String) : Option β := m.entries.lookup key

/-- There is an entry under the key. -/
def contains (m : KeyMap β) (key : String) : Bool := (m.get? key).isSome

/-! ### Insertion -/

/-- Puts an entry where its key belongs, in place of one under the same key. -/
def insertEntry (key : String) (value : β) : List (String × β) → List (String × β)
  | [] => [(key, value)]
  | (k, v) :: rest =>
    if key < k then (key, value) :: (k, v) :: rest
    else if key = k then (key, value) :: rest
    else (k, v) :: insertEntry key value rest

theorem mem_insertEntry {key : String} {value : β} {es : List (String × β)} {e : String × β}
    (h : e ∈ insertEntry key value es) : e = (key, value) ∨ e ∈ es := by
  induction es with
  | nil => simpa [insertEntry] using h
  | cons a es ih =>
    obtain ⟨k, v⟩ := a
    simp only [insertEntry] at h
    split at h
    · simpa using h
    · split at h
      · rcases List.mem_cons.1 h with h | h
        · exact .inl h
        · exact .inr (by simp [h])
      · rcases List.mem_cons.1 h with h | h
        · exact .inr (by simp [h])
        · rcases ih h with h | h
          · exact .inl h
          · exact .inr (by simp [h])

theorem sorted_insertEntry {key : String} {value : β} {es : List (String × β)}
    (h : es.Pairwise fun a b => a.1 < b.1) :
    (insertEntry key value es).Pairwise fun a b => a.1 < b.1 := by
  induction es with
  | nil => simp [insertEntry]
  | cons a es ih =>
    obtain ⟨k, v⟩ := a
    have hk := List.pairwise_cons.1 h
    simp only [insertEntry]
    split
    · rename_i hlt
      refine List.pairwise_cons.2 ⟨?_, h⟩
      intro e he
      rcases List.mem_cons.1 he with rfl | he
      · exact hlt
      · exact String.lt_trans hlt (hk.1 e he)
    · split
      · rename_i heq
        subst heq
        exact List.pairwise_cons.2 ⟨hk.1, hk.2⟩
      · rename_i hnlt hne
        refine List.pairwise_cons.2 ⟨?_, ih hk.2⟩
        intro e he
        rcases mem_insertEntry he with rfl | he
        · exact Std.lt_of_le_of_ne (String.not_lt.1 hnlt) (fun h => hne h.symm)
        · exact hk.1 e he

/-- Puts a value under a key. -/
def insert (m : KeyMap β) (key : String) (value : β) : KeyMap β :=
  ⟨insertEntry key value m.entries, sorted_insertEntry m.sorted⟩

/-- The map of the given entries; of two under one key the later stays. -/
def ofList (es : List (String × β)) : KeyMap β :=
  es.foldl (fun m e => m.insert e.1 e.2) empty

theorem lookup_insertEntry_self (key : String) (value : β) (es : List (String × β)) :
    (insertEntry key value es).lookup key = some value := by
  induction es with
  | nil => simp [insertEntry]
  | cons a es ih =>
    obtain ⟨k, v⟩ := a
    simp only [insertEntry]
    split
    · simp
    · split
      · simp
      · rename_i hne
        have : (key == k) = false := by simpa using hne
        simp [List.lookup_cons, this, ih]

theorem lookup_insertEntry_of_ne {key other : String} (h : other ≠ key) (value : β)
    (es : List (String × β)) : (insertEntry key value es).lookup other = es.lookup other := by
  have hb : (other == key) = false := by simpa using h
  induction es with
  | nil => simp [insertEntry, List.lookup_cons, hb]
  | cons a es ih =>
    obtain ⟨k, v⟩ := a
    simp only [insertEntry]
    split
    · simp [List.lookup_cons, hb]
    · split
      · rename_i heq
        subst heq
        simp [List.lookup_cons, hb]
      · simp [List.lookup_cons, ih]

@[simp] theorem get?_insert_self (m : KeyMap β) (key : String) (value : β) :
    (m.insert key value).get? key = some value :=
  lookup_insertEntry_self key value m.entries

theorem get?_insert_of_ne (m : KeyMap β) {key other : String} (h : other ≠ key) (value : β) :
    (m.insert key value).get? other = m.get? other :=
  lookup_insertEntry_of_ne h value m.entries

/-! ### Removal -/

/-- The entries that pass a test. -/
def filter (m : KeyMap β) (p : String × β → Bool) : KeyMap β :=
  ⟨m.entries.filter p, m.sorted.filter p⟩

/-- Removes the entry under a key. -/
def erase (m : KeyMap β) (key : String) : KeyMap β :=
  m.filter fun e => e.1 != key

theorem lookup_filter_of_true {p : String × β → Bool} {key : String}
    (h : ∀ v, p (key, v) = true) (es : List (String × β)) :
    (es.filter p).lookup key = es.lookup key := by
  induction es with
  | nil => rfl
  | cons a es ih =>
    obtain ⟨k, v⟩ := a
    by_cases hk : key = k
    · subst hk
      simp [h v]
    · have hb : (key == k) = false := by simpa using hk
      by_cases hp : p (k, v) = true <;> simp [List.lookup_cons, hp, hb, ih]

theorem lookup_filter_of_false {p : String × β → Bool} {key : String}
    (h : ∀ v, p (key, v) = false) (es : List (String × β)) : (es.filter p).lookup key = none := by
  induction es with
  | nil => rfl
  | cons a es ih =>
    obtain ⟨k, v⟩ := a
    by_cases hk : key = k
    · subst hk
      simp [h v, ih]
    · have hb : (key == k) = false := by simpa using hk
      by_cases hp : p (k, v) = true <;> simp [List.lookup_cons, hp, hb, ih]

@[simp] theorem get?_erase_self (m : KeyMap β) (key : String) : (m.erase key).get? key = none :=
  lookup_filter_of_false (by simp) m.entries

theorem get?_erase_of_ne (m : KeyMap β) {key other : String} (h : other ≠ key) :
    (m.erase key).get? other = m.get? other :=
  lookup_filter_of_true (fun _ => by simpa using h) m.entries

/-! ### Keys with a common beginning -/

/-- The key begins with the given text. -/
def begins (stem key : String) : Bool := stem.toList.isPrefixOf key.toList

/-- What a key has after its first characters, as many as the given text has. -/
def after (stem key : String) : String := .ofList (key.toList.drop stem.toList.length)

/-- The entries whose keys begin with `stem`, in order.  The scan starts at the first key that is
not below `stem` and stops at the first that does not begin with it. -/
def span (m : KeyMap β) (stem : String) : List (String × β) :=
  (m.entries.dropWhile fun e => e.1 < stem).takeWhile fun e => begins stem e.1

/-- Removes the entries whose keys begin with `stem`. -/
def eraseSpan (m : KeyMap β) (stem : String) : KeyMap β :=
  (m.span stem).foldl (fun m e => m.erase e.1) m

/-- Removes the entries whose keys begin with `stem`, and says how many there were. -/
def removeSpan (m : KeyMap β) (stem : String) : Nat × KeyMap β :=
  ((m.span stem).length, m.eraseSpan stem)

end KeyMap

end LineScript
