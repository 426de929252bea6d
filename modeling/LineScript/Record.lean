import LineScript.Value

/-!
**Records.**

A record is a sequence of fields, each with a name of its own and a value.  A field keeps its place
when its value is replaced.

Main definitions:

* `LineScript.Record` — a record;
* `LineScript.Record.insert` — gives a field a value.

Main results:

* `LineScript.Record.names_put` — a new field comes last, and a known one stays where it is;
* `LineScript.Record.get?_insert_self`, `LineScript.Record.get?_insert_of_ne` — what a field holds
  afterwards.
-/

set_option autoImplicit false

namespace LineScript

/-- A record: fields in the order in which they were first given. -/
structure Record where
  fields : List (String × Value)
  nodup : (fields.map Prod.fst).Nodup
deriving DecidableEq

namespace Record

/-- The record without fields. -/
def empty : Record := ⟨[], .nil⟩

instance : Inhabited Record := ⟨empty⟩

/-- Gives a field a value, in place if the field is there. -/
def put (name : String) (value : Value) : List (String × Value) → List (String × Value)
  | [] => [(name, value)]
  | f :: fs => if f.1 = name then (name, value) :: fs else f :: put name value fs

/-- A new field comes last, and a known one stays where it is. -/
theorem names_put (name : String) (value : Value) (fs : List (String × Value)) :
    (put name value fs).map Prod.fst =
      if name ∈ fs.map Prod.fst then fs.map Prod.fst else fs.map Prod.fst ++ [name] := by
  induction fs with
  | nil => simp [put]
  | cons f fs ih =>
    by_cases h : f.1 = name
    · simp [put, h]
    · have h' : name ≠ f.1 := fun e => h e.symm
      rw [put, if_neg h, List.map_cons, ih]
      by_cases hm : name ∈ fs.map Prod.fst
      · rw [if_pos hm, if_pos (by simp [List.map_cons, hm])]
        rfl
      · rw [if_neg hm, if_neg (by simp [List.map_cons, h', hm])]
        rfl

theorem nodup_put (name : String) (value : Value) {fs : List (String × Value)}
    (h : (fs.map Prod.fst).Nodup) : ((put name value fs).map Prod.fst).Nodup := by
  rw [names_put]
  split
  · exact h
  · rename_i hn
    rw [List.nodup_append]
    refine ⟨h, by simp, fun a ha b hb => ?_⟩
    rw [List.mem_singleton] at hb
    exact fun e => hn (hb ▸ e ▸ ha)

/-- Gives a field a value. -/
def insert (r : Record) (name : String) (value : Value) : Record :=
  ⟨put name value r.fields, nodup_put name value r.nodup⟩

/-- The record of some fields.  Of several values of one field the last one counts. -/
def ofList (fs : List (String × Value)) : Record :=
  fs.foldl (fun r f => r.insert f.1 f.2) empty

/-- The value of a field. -/
def get? (r : Record) (name : String) : Option Value := r.fields.lookup name

/-- The value of a field, or the empty one. -/
def read (r : Record) (name : String) : Value := (r.get? name).getD .empty

/-- The value of the first field. -/
def first? (r : Record) : Option Value := r.fields.head?.map Prod.snd

/-- The number of fields. -/
def size (r : Record) : Nat := r.fields.length

/-- There is no field. -/
def isEmpty (r : Record) : Bool := r.fields.isEmpty

theorem lookup_put_self (name : String) (value : Value) (fs : List (String × Value)) :
    (put name value fs).lookup name = some value := by
  induction fs with
  | nil => simp [put]
  | cons f fs ih =>
    by_cases h : f.1 = name
    · simp [put, h]
    · have h' : (name == f.1) = false := by simpa using fun e => h e.symm
      rw [put, if_neg h, List.lookup_cons, h']
      exact ih

theorem lookup_put_of_ne {name other : String} (h : other ≠ name) (value : Value)
    (fs : List (String × Value)) : (put name value fs).lookup other = fs.lookup other := by
  have ho : (other == name) = false := by simpa using h
  induction fs with
  | nil => simp [put, List.lookup_cons, ho]
  | cons f fs ih =>
    obtain ⟨k, v⟩ := f
    by_cases hk : k = name
    · simp [put, hk, List.lookup_cons, ho]
    · simp [put, hk, List.lookup_cons, ih]

@[simp] theorem get?_insert_self (r : Record) (name : String) (value : Value) :
    (r.insert name value).get? name = some value :=
  lookup_put_self name value r.fields

theorem get?_insert_of_ne (r : Record) {name other : String} (h : other ≠ name) (value : Value) :
    (r.insert name value).get? other = r.get? other :=
  lookup_put_of_ne h value r.fields

end Record

end LineScript
