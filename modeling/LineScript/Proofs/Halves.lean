import LineScript.Proofs.Displayed
import LineScript.Proofs.ExactFolds
import LineScript.Proofs.Flatten
import LineScript.Proofs.SortOrder

/-!
**The two halves of a value.**

A value is a text and a number, and a statement uses whichever half it needs.  There are four ways to make one.  Each
is given one half, or none, and works the other out: a text is read for its number, a number is written down, a truth
becomes one of two numbers, and nothing is the empty text.  Writing a number down and reading it are inverse on the
whole range, so whatever was made could have been made from its text.

A value is only ever made in these ways and then kept: by a run under a name, in a field of a record, in a document of
the storage, in the payload of an event.  Since a value carries the proof that its halves agree, no step of a run has to
preserve anything.  What is proved here is what the halves are, and what rests on their agreement: comparing two
values by `equal`, telling a name that is set from one that is not, and sorting numbers.

Main definitions:

* `LineScript.Value.Maker` — the ways to make a value, with the halves that each puts together;
* `LineScript.Session.HasValue` — **a value is kept somewhere in a session**.

Main results:

* `LineScript.Value.Maker.numberOf_halves` — the text that a maker puts down reads as its number;
* `LineScript.Value.compare_ofNumber` — numbers are sorted as numbers;
* `LineScript.Session.stores_equal` — `equal` compares the texts;
* `LineScript.Value.halves_agree` — **the two halves never disagree**.
-/

set_option autoImplicit false

namespace LineScript

/-! ### Making values -/

namespace Value

/-- A way to make a value. -/
inductive Maker where
  | empty
  | text (s : String)
  | number (n : Int64)
  | truth (b : Bool)

namespace Maker

/-- The value that is made. -/
def value : Maker → Value
  | empty => .empty
  | text s => .ofText s
  | number n => .ofNumber n
  | truth b => .ofBool b

/-- **The halves that a maker puts together**: what it was given, and what it works out from that. -/
def halves : Maker → String × Int64
  | empty => ("", 0)
  | text s => (s, numberOf s)
  | number n => (Text.ofInt64 n, n)
  | truth true => ("1", 1)
  | truth false => ("0", 0)

theorem halves_value (m : Maker) : (m.value.text, m.value.number) = m.halves := by
  cases m with
  | empty => decide
  | text s => rfl
  | number n => rfl
  | truth b => cases b <;> decide

/-- **The text that a maker puts down reads as its number.** -/
theorem numberOf_halves (m : Maker) : numberOf m.halves.1 = m.halves.2 := by
  cases m with
  | empty => decide
  | text s => rfl
  | number n => exact numberOf_ofInt64 n
  | truth b => cases b <;> decide

end Maker

theorem eq_iff_text (v w : Value) : v = w ↔ v.text = w.text :=
  ⟨congrArg text, ext_text⟩

/-- **Numbers are sorted as numbers**, and not by their digits. -/
theorem compare_ofNumber (a b : Int64) : (ofNumber a).compare (ofNumber b) = Ord.compare a.toInt b.toInt := by
  rw [compare_of_numeric (isNumeric_ofNumber a) (isNumeric_ofNumber b)]
  rfl

end Value

/-- **A name is set just if it does not read as the empty value.** -/
theorem ValueMap.isSet_iff_read_ne (m : ValueMap) (key : String) : m.isSet key = true ↔ m.read key ≠ .empty := by
  have full : ∀ v : Value, v.isEmpty = false ↔ v ≠ .empty := by
    intro v
    rw [Ne, Value.eq_iff_text]
    simp [Value.isEmpty, Value.empty]
  rw [isSet_eq_true_iff, read]
  cases m.get? key with
  | none => simp
  | some v => simp [full]

/-! ### Where values are kept -/

namespace Session

variable (s : Session)

/-- **The records are those of a list that the session can come to**: the open one, one that the host supplies, or a
stored one. -/
inductive HasList (records : List Record) : Prop
  | opened {l : OpenList} (current : s.context.desk.current = some l) (are : l.records s.host = records)
  | supplied {c : Catalogue} {name : String} {generations : List (List Record)}
      (catalogue : s.host.catalogue = some c) (known : c.lists.get? name = some generations)
      (mem : records ∈ generations)
  | stored {store : Storage} {name : String} (storage : s.host.storage = some store)
      (known : store.lists.get? name = some records)

/-- **A value is kept somewhere in a session**: under a name, in a field of a record, in a stored document, or in a
payload that was handed out. -/
inductive HasValue (v : Value) : Prop
  | named {key : String} (held : s.values.get? key = some v)
  | field {records : List Record} {r : Record} {name : String} (list : s.HasList records) (mem : r ∈ records)
      (held : r.get? name = some v)
  | document {store : Storage} {name key : String} {d : Document} (storage : s.host.storage = some store)
      (known : store.documents.get? name = some d) (held : d.get? key = some v)
  | payload {origin key : String} {p : Payload} (handed : .payload origin p ∈ s.host.emitted)
      (held : p.get? key = some v)

/-- **`equal` compares the texts**: it stores 1 if they are all the same, and 0 if not. -/
theorem stores_equal (target : ScopedName) (o : Operand) (more : List Operand) :
    s.Stores (s.exec (.fold .equal target (o :: more))) target
      (if (s.folded .equal target o more).2.all (·.text = (s.folded .equal target o more).1.text) then 1 else 0) := by
  obtain ⟨t, reread, stored, _⟩ := s.exists_reread_execFold .equal target o more
  generalize s.folded .equal target o more = operands at stored ⊢
  have combined : FoldOp.equal.combine operands.1 operands.2 =
      .ok (.ofNumber (if operands.2.all (·.text = operands.1.text) then 1 else 0)) := by
    -- whole values are compared, and a value is its text
    simp only [FoldOp.combine, Value.ofBool, Value.eq_iff_text]
  have done : s.exec (.fold .equal target (o :: more)) = (.next, t.assign target (.ofNumber _)) :=
    congrArg (Prod.mk Flow.next) (stored _ combined)
  rw [done]
  convert reread.stores target _ using 1
  split <;> rfl

end Session

/-! ### Agreement -/

/-- **The two halves never disagree.**  Every maker puts down a text that reads as its number, so what it makes is the
value of its text; and so is every value that a session has, wherever a run has brought it and whatever a host makes
of it.  Hence a value is its text: without one the number is 0, `equal` compares the texts, and a name is set just if
it has a value other than the empty one. -/
theorem Value.halves_agree :
    (∀ m : Maker, (m.value.text, m.value.number) = m.halves ∧ numberOf m.halves.1 = m.halves.2 ∧
        m.value = ofText m.value.text) ∧
      (∀ n : Int64, ofText (ofNumber n).text = ofNumber n) ∧
      (∀ v w : Value, v = w ↔ v.text = w.text) ∧
      (∀ v : Value, v.text = "" → v.number = 0) ∧
      (∀ (s : Session) (v : Value), s.HasValue v → ofText v.text = v ∧ v.number = numberOf v.text) ∧
      (∀ (s : Session) (target : ScopedName) (o : Operand) (more : List Operand),
        s.Stores (s.exec (.fold .equal target (o :: more))) target
          (if (s.folded .equal target o more).2.all (·.text = (s.folded .equal target o more).1.text)
            then 1 else 0)) ∧
      (∀ (m : ValueMap) (key : String), m.isSet key = true ↔ m.read key ≠ .empty) ∧
      ∀ a b : Int64, (ofNumber a).compare (ofNumber b) = Ord.compare a.toInt b.toInt := by
  refine ⟨fun m => ⟨m.halves_value, m.numberOf_halves, (ofText_text m.value).symm⟩, fun n => ofText_text (ofNumber n),
    eq_iff_text, fun v hnone => ?_, fun s v _ => ⟨ofText_text v, v.number_eq⟩, fun s => s.stores_equal,
    ValueMap.isSet_iff_read_ne, compare_ofNumber⟩
  rw [v.number_eq, hnone]
  decide

/-- A session that has the least number under a name, a record with its digits and a stored truth, and that has handed
out a text with blanks around a number. -/
def Session.hoarder : Session where
  context :=
    { Context.ofInputs "s" { values := .ofList [("!least", .ofNumber Int64.minValue)] } with
      desk := { current := some (.own "pile" [.ofList [("depth", .ofText "-9223372036854775808")]]) } }
  host :=
    { storage := some { documents := .ofList [("doc", .ofList [("deep", .ofBool true)])] }
      emitted := [.payload "s" (.ofList [("padded", .ofText " 7 ")])] }

/-- A number and its digits are one value, a truth and its digit too.  With blanks around it a digit has the number,
but is another value. -/
theorem Value.halves_agree_hoarder :
    let least := ofNumber Int64.minValue
    (Session.hoarder.HasValue least ∧ ofText least.text = least ∧ least.text = "-9223372036854775808") ∧
      (Session.hoarder.HasValue (ofText "-9223372036854775808") ∧ ofText "-9223372036854775808" = least) ∧
      (Session.hoarder.HasValue (ofBool true) ∧ ofText "1" = ofBool true) ∧
      (Session.hoarder.HasValue (ofText " 7 ") ∧ (ofText " 7 ").number = 7 ∧ ofText " 7 " ≠ ofNumber 7) ∧
      (ofText "").number = 0 := by
  intro least
  obtain ⟨-, -, texts, hnone, kept, -⟩ := halves_agree
  have written : least.text = "-9223372036854775808" := by decide +kernel
  have named : Session.hoarder.HasValue least :=
    .named (show Session.hoarder.values.get? "!least" = _ by decide +kernel)
  have field : Session.hoarder.HasValue (ofText "-9223372036854775808") :=
    .field (.opened rfl rfl) (List.mem_singleton_self _) (Record.get?_insert_self _ "depth" _)
  have document : Session.hoarder.HasValue (ofBool true) :=
    .document rfl (KeyMap.get?_insert_self _ "doc" _) (KeyMap.get?_insert_self _ "deep" _)
  have payload : Session.hoarder.HasValue (ofText " 7 ") :=
    .payload (List.mem_singleton_self _) (KeyMap.get?_insert_self _ "padded" _)
  have seven : (ofText " 7 ").number = 7 := (kept _ _ payload).2.trans (by decide +kernel)
  refine ⟨⟨named, (kept _ _ named).1, written⟩, ⟨field, (texts _ _).2 written.symm⟩, ⟨document, (kept _ _ document).1⟩,
    ⟨payload, seven, fun same => ?_⟩, hnone _ rfl⟩
  exact absurd ((texts _ _).1 same) (by decide +kernel)

end LineScript
