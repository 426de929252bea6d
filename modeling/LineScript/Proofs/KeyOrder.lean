import LineScript.KeyMap

/-!
**Entries with a common beginning.**

`KeyMap.span` finds the entries whose keys begin with a text by one scan that starts at that text
and stops early.  That the scan misses nothing rests on the order of the keys: a text comes before
everything that it begins, and between two texts with a common beginning there are only texts with
the same beginning.  From this the module gets what the scan finds, what is left when that is taken
out, and that the entries of a map are settled by its look-ups.

Main results:

* `LineScript.KeyMap.begins_of_between` — **keys with a common beginning stand next to each other**;
* `LineScript.KeyMap.span_eq_filter` — the scan finds exactly the entries with the beginning;
* `LineScript.KeyMap.get?_eraseSpan` — what a look-up gives when these are taken out;
* `LineScript.KeyMap.filter_entries_eq` — entries that pass a test are settled by the look-ups that
  pass it;
* `LineScript.KeyMap.ext_get?` — so a map is settled by its look-ups.
-/

set_option autoImplicit false

namespace LineScript.KeyMap

variable {β : Type}

/-! ### Beginnings and the order of texts -/

theorem begins_iff {stem key : String} : begins stem key = true ↔ stem.toList <+: key.toList :=
  List.isPrefixOf_iff_prefix

/-- A text comes before all that it begins. -/
theorem not_lt_of_begins {stem key : String} (h : begins stem key = true) : ¬ key < stem :=
  List.IsPrefix.le (begins_iff.1 h)

/-- Between a list and one that it begins there are only lists that it begins. -/
theorem isPrefix_of_between {stem low high : List Char} (lower : ¬ low < stem) (upper : low < high)
    (h : stem <+: high) : stem <+: low := by
  induction stem generalizing low high with
  | nil => exact List.nil_prefix
  | cons x stem ih =>
      obtain ⟨rest, rfl⟩ := h
      cases low with
      | nil => exact absurd (List.nil_lt_cons x stem) lower
      | cons y low =>
          rw [List.cons_lt_cons_iff] at lower
          rw [List.cons_append, List.cons_lt_cons_iff] at upper
          rcases upper with hyx | ⟨rfl, upper⟩
          · exact absurd (Or.inl hyx) lower
          · have below : ¬ low < stem := fun hlt => lower (Or.inr ⟨rfl, hlt⟩)
            exact (List.prefix_cons_inj y).2 (ih below upper (List.prefix_append stem rest))

/-- **Keys with a common beginning stand next to each other.** -/
theorem begins_of_between {stem low high : String} (lower : ¬ low < stem) (upper : low < high)
    (h : begins stem high = true) : begins stem low = true :=
  begins_iff.2 (isPrefix_of_between lower upper (begins_iff.1 h))

/-! ### What the scan finds -/

/-- From the first key that is not below the beginning on, the scan may stop at the first key that
does not begin so. -/
theorem takeWhile_begins {stem : String} {es : List (String × β)}
    (sorted : es.Pairwise fun a b => a.1 < b.1) (lower : ∀ e ∈ es, ¬ e.1 < stem) :
    es.takeWhile (fun e => begins stem e.1) = es.filter fun e => begins stem e.1 := by
  induction es with
  | nil => rfl
  | cons e es ih =>
      obtain ⟨above, sorted⟩ := List.pairwise_cons.1 sorted
      cases hb : begins stem e.1 with
      | true =>
          have rest := ih sorted fun a ha => lower a (List.mem_cons_of_mem e ha)
          rw [List.takeWhile_cons_of_pos (by simpa using hb),
            List.filter_cons_of_pos (by simpa using hb), rest]
      | false =>
          -- a later key with the beginning would put it on this one as well
          have hnone : es.filter (fun e => begins stem e.1) = [] := by
            refine List.filter_eq_nil_iff.2 fun a ha hba => ?_
            have := begins_of_between (lower e List.mem_cons_self) (above a ha) hba
            simp [this] at hb
          rw [List.takeWhile_cons_of_neg (by simp [hb]), List.filter_cons_of_neg (by simp [hb]), hnone]

/-- **The scan finds exactly the entries with the beginning.** -/
theorem span_eq_filter (m : KeyMap β) (stem : String) :
    m.span stem = m.entries.filter fun e => begins stem e.1 := by
  obtain ⟨es, sorted⟩ := m
  simp only [span]
  induction es with
  | nil => rfl
  | cons e es ih =>
      obtain ⟨above, rest⟩ := List.pairwise_cons.1 sorted
      by_cases hlt : e.1 < stem
      · have hb : ¬ begins stem e.1 = true := fun hb => not_lt_of_begins hb hlt
        rw [List.dropWhile_cons_of_pos (by simpa using hlt),
          List.filter_cons_of_neg (by simpa using hb), ih rest]
      · rw [List.dropWhile_cons_of_neg (by simpa using hlt)]
        refine takeWhile_begins sorted fun a ha => ?_
        rcases List.mem_cons.1 ha with rfl | ha
        · exact hlt
        · exact fun h => hlt (String.lt_trans (above a ha) h)

/-! ### Look-ups and entries -/

theorem mem_of_get? {m : KeyMap β} {key : String} {v : β} (h : m.get? key = some v) :
    (key, v) ∈ m.entries := by
  obtain ⟨before, after, hm, _⟩ := List.lookup_eq_some_iff.1 h
  rw [hm]
  simp

theorem get?_of_mem {m : KeyMap β} {key : String} {v : β} (h : (key, v) ∈ m.entries) :
    m.get? key = some v := by
  obtain ⟨before, after, hm⟩ := List.append_of_mem h
  refine List.lookup_eq_some_iff.2 ⟨before, after, hm, fun e he => ?_⟩
  have sorted := m.sorted
  rw [hm] at sorted
  -- the entries in front have smaller keys, so that the look-up passes them by
  have below : e.1 < key := (List.pairwise_append.1 sorted).2.2 e he _ List.mem_cons_self
  have differ : key ≠ e.1 := fun heq => String.lt_irrefl key (by rwa [← heq] at below)
  simpa using differ

theorem mem_entries_iff {m : KeyMap β} {key : String} {v : β} :
    (key, v) ∈ m.entries ↔ m.get? key = some v :=
  ⟨get?_of_mem, mem_of_get?⟩

/-- **Entries that pass a test are settled by the look-ups that pass it.** -/
theorem filter_entries_eq {m n : KeyMap β} {p : String × β → Bool}
    (h : ∀ key v, p (key, v) = true → (m.get? key = some v ↔ n.get? key = some v)) :
    m.entries.filter p = n.entries.filter p := by
  have nodup : ∀ k : KeyMap β, (k.entries.filter p).Nodup := by
    intro k
    refine (k.sorted.filter p).imp ?_
    rintro a b hlt rfl
    exact String.lt_irrefl _ hlt
  have perm : (m.entries.filter p).Perm (n.entries.filter p) := by
    refine (List.perm_ext_iff_of_nodup (nodup m) (nodup n)).2 fun e => ?_
    obtain ⟨key, v⟩ := e
    simp only [List.mem_filter, mem_entries_iff]
    exact and_congr_left fun hp => h key v hp
  -- the members are the same, and there is only one order for them
  refine perm.eq_of_pairwise ?_ (m.sorted.filter p) (n.sorted.filter p)
  intro a b _ _ hab hba
  exact absurd (String.lt_trans hab hba) (String.lt_irrefl _)

/-- Look-ups settle a map. -/
theorem ext_get? {m n : KeyMap β} (h : ∀ key v, m.get? key = some v ↔ n.get? key = some v) : m = n := by
  have entries := filter_entries_eq (p := fun _ => true) fun key v _ => h key v
  rw [List.filter_eq_self.2 fun _ _ => rfl, List.filter_eq_self.2 fun _ _ => rfl] at entries
  obtain ⟨es, _⟩ := m
  obtain ⟨fs, _⟩ := n
  obtain rfl : es = fs := entries
  rfl

/-- To put a value under a key that has it changes nothing. -/
theorem insert_of_get? {m : KeyMap β} {key : String} {v : β} (there : m.get? key = some v) :
    m.insert key v = m := by
  refine ext_get? fun other w => ?_
  by_cases hat : other = key
  · rw [hat, get?_insert_self, there]
  · rw [get?_insert_of_ne m hat]

theorem contains_insert {m : KeyMap β} {key other : String} {v : β} (h : m.contains other = true) :
    (m.insert key v).contains other = true := by
  by_cases hk : other = key
  · subst hk
    simp [contains]
  · simpa [contains, get?_insert_of_ne m hk] using h

/-! ### Taking entries out -/

theorem get?_foldl_erase (es : List (String × β)) (m : KeyMap β) (key : String) :
    (es.foldl (fun m e => m.erase e.1) m).get? key =
      if key ∈ es.map Prod.fst then none else m.get? key := by
  induction es generalizing m with
  | nil => simp
  | cons e es ih =>
      rw [List.foldl_cons, ih]
      by_cases he : key = e.1
      · simp [he]
      · simp only [List.map_cons, List.mem_cons, he, false_or, get?_erase_of_ne m he]

/-- What a look-up gives when the entries with a beginning are taken out. -/
theorem get?_eraseSpan (m : KeyMap β) (stem key : String) :
    (m.eraseSpan stem).get? key = if begins stem key = true then none else m.get? key := by
  rw [eraseSpan, get?_foldl_erase, span_eq_filter]
  cases hb : begins stem key with
  | false =>
      have out : key ∉ (m.entries.filter fun e => begins stem e.1).map Prod.fst := by
        intro hmem
        obtain ⟨e, he, rfl⟩ := List.mem_map.1 hmem
        simp [(List.mem_filter.1 he).2] at hb
      simp [out]
  | true =>
      -- a key that is not there at all is not found by the scan, and not by the look-up either
      cases hg : m.get? key with
      | none => simp
      | some v =>
          have found : key ∈ (m.entries.filter fun e => begins stem e.1).map Prod.fst :=
            List.mem_map.2 ⟨(key, v), List.mem_filter.2 ⟨mem_of_get? hg, hb⟩, rfl⟩
          simp [found]

end LineScript.KeyMap
