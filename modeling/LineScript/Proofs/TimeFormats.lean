import LineScript.Exec
import LineScript.Proofs.Readers

/-!
**Which times can be written.**

The format of a `timestamp` is read when its line is, so that a format without a meaning is refused there and
then.  The statement reads it once more when it is executed, and writes the present time by it.  This module
shows what a format is as a text, and which of its items can be written.  All of them can but one: the lenient
offset is an item for reading times, not for writing them, so that a format that has it passes the line and
fails at every time.

Main definitions:

* `LineScript.TimeFormat.Follows` — what may follow a percent sign;
* `LineScript.TimeFormat.Spells` — **a text spells items**;
* `LineScript.TimeFormat.HasLenientOffset` — a lenient offset stands between two formats;
* `LineScript.Session.Stamps` — the present time was written by a format, and nothing was said.

Main results:

* `LineScript.TimeFormat.parse?_eq_some_iff` — **a format is read as the items that it spells**;
* `LineScript.TimeFormat.render?_eq_none_iff` — which items cannot be written;
* `LineScript.Session.timestamp_stamps_iff` — **a format that is accepted writes every time, unless it has a
  lenient offset**;
* `LineScript.Session.timestamp_fails` — one that has.
-/

set_option autoImplicit false

namespace LineScript

namespace TimeFormat

/-! ### Items as texts -/

/-- The sign that asks for a padding. -/
def Pad.sign : Pad → Char
  | none => '-'
  | blanks => '_'
  | zeros => '0'

theorem eq_sign_of_padSign? {c : Char} {pad : Pad} (asks : padSign? c = some pad) : c = pad.sign := by
  unfold padSign? at asks
  split at asks <;> cases asks <;> rfl

/-- The numbers of digits that can be asked for, with their signs. -/
def digitCounts : List (Char × Nat) := [('3', 3), ('6', 6), ('9', 9)]

/-- **What may follow a percent sign**, and the item that it is. -/
inductive Follows : Item → List Char → Prop
  | letter {c : Char} (known : isField c = true) : Follows (.field c none) [c]
  | padded {c : Char} (pad : Pad) (known : isPaddable c = true) :
      Follows (.field c (some pad)) [pad.sign, c]
  | anyDigits : Follows (.fraction none true) ['.', 'f']
  | digits {c : Char} {n : Nat} (known : (c, n) ∈ digitCounts) :
      Follows (.fraction (some n) false) [c, 'f']
  | pointAndDigits {c : Char} {n : Nat} (known : (c, n) ∈ digitCounts) :
      Follows (.fraction (some n) true) ['.', c, 'f']
  | oneColon : Follows (.offset 1) [':', 'z']
  | twoColons : Follows (.offset 2) [':', ':', 'z']
  | threeColons : Follows (.offset 3) [':', ':', ':', 'z']
  | lenientOffset : Follows .lenientOffset ['#', 'z']

/-- The letter of a field asks for no padding, and opens no other item. -/
theorem item?_letter {c : Char} (known : isField c = true) (rest : List Char) :
    item? (c :: rest) = some (.field c none, rest) := by
  have differs : ∀ {d : Char}, isField d = false → c ≠ d := by
    rintro d other rfl
    rw [known] at other
    cases other
  have bare : padSign? c = none := by
    cases asks : padSign? c with
    | none => rfl
    | some pad => exact absurd (eq_sign_of_padSign? asks) (differs (by cases pad <;> decide))
  have point : c ≠ '.' := differs (by decide)
  have colon : c ≠ ':' := differs (by decide)
  have hash : c ≠ '#' := differs (by decide)
  have three : c ≠ '3' := differs (by decide)
  have six : c ≠ '6' := differs (by decide)
  have nine : c ≠ '9' := differs (by decide)
  unfold item?
  split <;> simp_all

theorem item?_padded (pad : Pad) {c : Char} (known : isPaddable c = true) (rest : List Char) :
    item? (pad.sign :: c :: rest) = some (.field c (some pad), rest) := by
  cases pad <;> simp [item?, Pad.sign, padSign?, known]

/-- **What may follow a percent sign is read as the item that it is**, whatever comes after it. -/
theorem item?_of_follows {i : Item} {part : List Char} (follows : Follows i part) (rest : List Char) :
    item? (part ++ rest) = some (i, rest) := by
  cases follows with
  | letter known => exact item?_letter known rest
  | padded pad known => exact item?_padded pad known rest
  | digits known =>
      simp only [digitCounts, List.mem_cons, List.not_mem_nil, or_false, Prod.mk.injEq] at known
      rcases known with ⟨rfl, rfl⟩ | ⟨rfl, rfl⟩ | ⟨rfl, rfl⟩ <;> rfl
  | pointAndDigits known =>
      simp only [digitCounts, List.mem_cons, List.not_mem_nil, or_false, Prod.mk.injEq] at known
      rcases known with ⟨rfl, rfl⟩ | ⟨rfl, rfl⟩ | ⟨rfl, rfl⟩ <;> rfl
  | _ => rfl

/-- **What is read after a percent sign may follow it.** -/
theorem follows_of_item? {cs rest : List Char} {i : Item} (read : item? cs = some (i, rest)) :
    ∃ part, cs = part ++ rest ∧ Follows i part := by
  unfold item? at read
  split at read
  case h_12 c tail _ _ _ _ _ _ _ _ _ _ _ =>
    cases asks : padSign? c with
    | none =>
        simp only [asks, Option.ite_none_right_eq_some] at read
        obtain ⟨known, eq⟩ := read
        cases eq
        exact ⟨[c], rfl, .letter known⟩
    | some pad =>
        cases tail with
        | nil => simp [asks] at read
        | cons d tail =>
            simp only [asks, Option.ite_none_right_eq_some] at read
            obtain ⟨known, eq⟩ := read
            cases eq
            exact ⟨[c, d], rfl, eq_sign_of_padSign? asks ▸ .padded pad known⟩
  case h_13 => cases read
  all_goals
    cases read
  · exact ⟨_, rfl, .anyDigits⟩
  · exact ⟨['.', '3', 'f'], rfl, .pointAndDigits (by simp [digitCounts])⟩
  · exact ⟨['.', '6', 'f'], rfl, .pointAndDigits (by simp [digitCounts])⟩
  · exact ⟨['.', '9', 'f'], rfl, .pointAndDigits (by simp [digitCounts])⟩
  · exact ⟨['3', 'f'], rfl, .digits (by simp [digitCounts])⟩
  · exact ⟨['6', 'f'], rfl, .digits (by simp [digitCounts])⟩
  · exact ⟨['9', 'f'], rfl, .digits (by simp [digitCounts])⟩
  · exact ⟨[':', 'z'], rfl, .oneColon⟩
  · exact ⟨[':', ':', 'z'], rfl, .twoColons⟩
  · exact ⟨[':', ':', ':', 'z'], rfl, .threeColons⟩
  · exact ⟨['#', 'z'], rfl, .lenientOffset⟩

/-! ### Formats -/

/-- **A text spells items**: one after the other, literal characters as they are and all other items after a
percent sign. -/
inductive Spells : List Item → List Char → Prop
  | nil : Spells [] []
  | literal {c : Char} {items : List Item} {cs : List Char} (plain : c ≠ '%') (rest : Spells items cs) :
      Spells (.literal c :: items) (c :: cs)
  | field {i : Item} {items : List Item} {part cs : List Char} (follows : Follows i part)
      (rest : Spells items cs) : Spells (i :: items) ('%' :: (part ++ cs))

theorem Spells.append {items more : List Item} {cs ds : List Char} (first : Spells items cs)
    (last : Spells more ds) : Spells (items ++ more) (cs ++ ds) := by
  induction first with
  | nil => exact last
  | literal plain _ ih => exact .literal plain ih
  | field follows _ ih =>
      rw [List.cons_append, List.cons_append, List.append_assoc]
      exact .field follows ih

/-- A text that spells a lenient offset among other items has one, between the texts of the others. -/
theorem Spells.split {items more : List Item} {cs : List Char}
    (spells : Spells (items ++ .lenientOffset :: more) cs) :
    ∃ before after, cs = before ++ '%' :: '#' :: 'z' :: after ∧ Spells items before ∧
      Spells more after := by
  induction items generalizing cs with
  | nil =>
      cases spells with
      | @field _ _ _ after follows rest =>
          cases follows with
          | lenientOffset => exact ⟨[], after, rfl, .nil, rest⟩
  | cons i items ih =>
      cases spells with
      | @literal c _ _ plain rest =>
          obtain ⟨before, after, rfl, first, last⟩ := ih rest
          exact ⟨c :: before, after, rfl, .literal plain first, last⟩
      | @field _ _ part _ follows rest =>
          obtain ⟨before, after, rfl, first, last⟩ := ih rest
          exact ⟨'%' :: (part ++ before), after, by simp, .field follows first, last⟩

theorem spells_of_parseFrom {fuel : Nat} {cs : List Char} {items : List Item}
    (read : parseFrom fuel cs = some items) : Spells items cs := by
  fun_induction parseFrom fuel cs generalizing items with
  | case1 fuel =>
      cases read
      exact .nil
  | case2 cs _ => cases read
  | case3 fuel rest i rest' item ih =>
      obtain ⟨others, more, rfl⟩ := Option.map_eq_some_iff.1 read
      obtain ⟨part, rfl, follows⟩ := follows_of_item? item
      exact .field follows (ih more)
  | case4 fuel rest refused => cases read
  | case5 fuel c rest plain ih =>
      obtain ⟨others, more, rfl⟩ := Option.map_eq_some_iff.1 read
      exact .literal plain (ih more)

/-- The bound on the number of items is never met: every item takes a character. -/
theorem parseFrom_of_spells {fuel : Nat} {cs : List Char} {items : List Item} (spells : Spells items cs)
    (enough : cs.length ≤ fuel) : parseFrom fuel cs = some items := by
  induction spells generalizing fuel with
  | nil => cases fuel <;> rfl
  | @literal c items cs plain _ ih =>
      rw [List.length_cons] at enough
      obtain ⟨fuel, rfl⟩ : ∃ n, fuel = n + 1 := ⟨fuel - 1, by omega⟩
      rw [parseFrom]
      · rw [ih (Nat.le_of_succ_le_succ enough)]
        rfl
      · exact plain
  | @field i items part cs follows _ ih =>
      rw [List.length_cons, List.length_append] at enough
      obtain ⟨fuel, rfl⟩ : ∃ n, fuel = n + 1 := ⟨fuel - 1, by omega⟩
      have shorter : cs.length ≤ fuel := by omega
      simp only [parseFrom, item?_of_follows follows, ih shorter]
      rfl

/-- **A format is read as the items that it spells**, and one that spells none is refused. -/
theorem parse?_eq_some_iff {format : String} {items : List Item} :
    parse? format = some items ↔ Spells items format.toList :=
  ⟨spells_of_parseFrom, fun spells => parseFrom_of_spells spells (Nat.le_refl _)⟩

/-- **A lenient offset stands in the format**, with a format before it and one after it. -/
def HasLenientOffset (format : String) : Prop :=
  ∃ before after, format = before ++ "%#z" ++ after ∧ (parse? before).isSome = true ∧
    (parse? after).isSome = true

theorem mem_lenientOffset_iff {format : String} {items : List Item} (read : parse? format = some items) :
    .lenientOffset ∈ items ↔ HasLenientOffset format := by
  constructor
  · intro mem
    obtain ⟨xs, ys, rfl⟩ := List.append_of_mem mem
    obtain ⟨before, after, eq, first, last⟩ := (parse?_eq_some_iff.1 read).split
    have reads : ∀ {zs part}, Spells zs part → (parse? (.ofList part)).isSome = true := by
      intro zs part spells
      have read : parse? (.ofList part) = some zs := parse?_eq_some_iff.2 (by simpa using spells)
      simp [read]
    exact ⟨.ofList before, .ofList after, String.toList_inj.1 (by simp [eq]), reads first, reads last⟩
  · rintro ⟨before, after, rfl, first, last⟩
    obtain ⟨xs, first⟩ := Option.isSome_iff_exists.1 first
    obtain ⟨ys, last⟩ := Option.isSome_iff_exists.1 last
    have whole : Spells (xs ++ .lenientOffset :: ys) (before ++ "%#z" ++ after).toList := by
      have offset : Spells (.lenientOffset :: ys) ('%' :: (['#', 'z'] ++ after.toList)) :=
        .field .lenientOffset (parse?_eq_some_iff.1 last)
      simpa using (parse?_eq_some_iff.1 first).append offset
    rw [parse?_eq_some_iff.2 whole] at read
    obtain rfl := Option.some.inj read
    simp

/-! ### Rendering -/

/-- The lenient offset is the one item that cannot be written. -/
theorem Item.render?_eq_none_iff (m : Moment) (i : Item) : i.render? m = none ↔ i = .lenientOffset := by
  cases i with
  | fraction digits point => cases digits <;> simp [Item.render?]
  | _ => simp [Item.render?]

/-- **Items cannot be written just if a lenient offset is among them**, at whatever time. -/
theorem render?_eq_none_iff (items : List Item) (m : Moment) :
    render? items m = none ↔ .lenientOffset ∈ items := by
  rw [render?, Option.map_eq_none_iff]
  induction items with
  | nil => simp
  | cons i items ih =>
      rw [List.mapM_cons, List.mem_cons, ← ih, @eq_comm _ Item.lenientOffset, ← i.render?_eq_none_iff m]
      cases i.render? m with
      | none => simp
      | some part => cases items.mapM (Item.render? m) <;> simp

end TimeFormat

/-! ### Statements -/

/-- The format that the tail of a `timestamp` gives: the tail itself, without the blanks around it, or the one
that stands in for none. -/
def Grammar.formatOf (tail : String) : String :=
  if (Text.trim tail).isEmpty then defaultTimeFormat else Text.trim tail

/-- What is accepted has a format that was read. -/
theorem Grammar.timestamp_eq_some {tail : String} {before : List Finding} {st : Statement}
    (accepted : ((timestamp tail).outcome before).1 = some st) :
    st = .timestamp (formatOf tail) ∧ ∃ items, TimeFormat.parse? (formatOf tail) = some items := by
  have reads : timestamp tail =
      if (TimeFormat.parse? (formatOf tail)).isSome then pure (.timestamp (formatOf tail))
      else Reading.refuse (.badTimeFormat (formatOf tail)) := rfl
  rw [reads] at accepted
  split at accepted
  · rename_i read
    rw [Reading.outcome_pure] at accepted
    exact ⟨(Option.some.inj accepted).symm, Option.isSome_iff_exists.1 read⟩
  · cases accepted

namespace Session

/-- **The present time was written by a format**, under the name for it, and nothing else was done: nor was
anything said. -/
def Stamps (s : Session) (format : String) (t : Session) : Prop :=
  ∃ items text, TimeFormat.parse? format = some items ∧
    TimeFormat.render? items s.host.clock = some text ∧
    t = s.setValues (s.values.set "$timestamp" (.ofText text))

/-- **A format that is accepted writes every time, unless it has a lenient offset.**  Whatever tail is
accepted after `timestamp`, to execute the statement writes the time and says nothing, in every session and so
at every time, just if no lenient offset stands in the format.  Where one does, the statement always fails. -/
theorem timestamp_stamps_iff {tail : String} {before : List Finding} {st : Statement}
    (accepted : ((Grammar.timestamp tail).outcome before).1 = some st) (s : Session) :
    (s.Stamps (Grammar.formatOf tail) (s.exec st).2 ↔
      ¬ TimeFormat.HasLenientOffset (Grammar.formatOf tail)) ∧
    (TimeFormat.HasLenientOffset (Grammar.formatOf tail) →
      s.exec st = (.next, s.remark (.cannotFormat (Grammar.formatOf tail)))) := by
  obtain ⟨rfl, items, read⟩ := Grammar.timestamp_eq_some accepted
  rw [← TimeFormat.mem_lenientOffset_iff read, ← TimeFormat.render?_eq_none_iff items s.host.clock]
  simp only [exec, execTimestamp, read, Option.bind_some]
  cases rendered : TimeFormat.render? items s.host.clock with
  | some text =>
      refine ⟨iff_of_true ⟨items, text, read, rendered, rfl⟩ (by simp), ?_⟩
      intro hnone
      cases hnone
  | none =>
      refine ⟨iff_of_false ?_ (by simp), fun _ => rfl⟩
      rintro ⟨items', text, read', writes, _⟩
      obtain rfl : items' = items := Option.some.inj (read'.symm.trans read)
      rw [rendered] at writes
      cases writes

/-- After two percent signs the rest of a lenient offset is plain text, and the time is written. -/
theorem timestamp_stamps_escaped :
    ∃ st, ((Grammar.timestamp " %-d.%%#z ").outcome []).1 = some st ∧
      ∀ s : Session, s.Stamps "%-d.%%#z" (s.exec st).2 := by
  have accepted : ((Grammar.timestamp " %-d.%%#z ").outcome []).1 = some (.timestamp "%-d.%%#z") := by
    decide +kernel
  have format : Grammar.formatOf " %-d.%%#z " = "%-d.%%#z" := by decide +kernel
  have read : TimeFormat.parse? "%-d.%%#z" =
      some [.field 'd' (some .none), .literal '.', .field '%' none, .literal '#', .literal 'z'] := by
    decide +kernel
  refine ⟨_, accepted, fun s => ?_⟩
  have stamps := (timestamp_stamps_iff accepted s).1
  rw [format, ← TimeFormat.mem_lenientOffset_iff read] at stamps
  exact stamps.2 (by decide)

/-- **A format that is accepted and never written**: the line passes, and the statement fails and sets
nothing. -/
theorem timestamp_fails :
    let s : Session := ⟨.ofInputs "s" {}, {}⟩
    ((Grammar.timestamp "%#z").outcome []).1 = some (.timestamp "%#z") ∧
      Emission.messagesAt .error (s.exec (.timestamp "%#z")).2.host.emitted =
        ["cannot format the time with '%#z'"] ∧
      (s.exec (.timestamp "%#z")).2.values.get? "$timestamp" = none := by
  decide +kernel

end Session

end LineScript
