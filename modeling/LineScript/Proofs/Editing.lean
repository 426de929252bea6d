import LineScript.Proofs.LineByLine
import Mathlib.Logic.Relation

/-!
**A script is read off its lines.**

The compiler is one pass over the lines with a draft that changes as it goes, and a second pass over the
declarations.  What comes out can be said without either: the statements are those of the lines, with an
`end` where one is needed, a label stands at the number of statements before it, and the rest of the script
is a blank one under the declarations.  That fixes the script, and it speaks of the labels and statements
on the one hand and of the declarations on the other, never of how they are mixed.  So edits that keep both
orders keep the script.

Main definitions:

* `LineScript.Script.ReadsOff` — a script is what the items of the lines say;
* `LineScript.Item.Accepted` — the items have no fault;
* `LineScript.Item.Same` — two lists of items with the same code and the same declarations;
* `LineScript.Edit` — a line that says nothing comes in, a line is indented, its keyword gets another case,
  or a declaration moves past a statement or a label.

Main results:

* `LineScript.readsOff_of_compile` — **a compiled script is what its lines say**;
* `LineScript.Script.ReadsOff.eq` — that fixes the script;
* `LineScript.Edit.same` — an edit keeps the code and the declarations;
* `LineScript.compile_reads_off` — **edits never change the compiled script**.
-/

set_option autoImplicit false

namespace LineScript

/-! ### What the lines say -/

namespace Item

/-- The statements need an `end`: a label stands after the last one, or it is not an `end` itself. -/
def NeedsEnd (items : List Item) : Prop :=
  (∃ l before after, items = before ++ label l :: after ∧ statements after = []) ∨
    ∃ s, (statements items).getLast? = some s ∧ s ≠ .finish

/-- A blank script under the declarations among the items. -/
def declared (items : List Item) : Script := ({} : Script).declared (declarations items)

/-- No line is refused, no label is set twice, no declaration has a fault, and neither have the parameters
as a whole. -/
structure Accepted (items : List Item) : Prop where
  read : refused ∉ items
  once : (labels items).Nodup
  admits : ({} : Script).Admits (declarations items)
  whole : Parameter.faults (declared items).parameters = []

end Item

/-- **A script is what the items of the lines say**, under the given name unless one is declared. -/
structure Script.ReadsOff (script : Script) (items : List Item) (name : String) : Prop where
  ended : Item.NeedsEnd items → script.statements.toList = Item.statements items ++ [.finish]
  whole : ¬ Item.NeedsEnd items → script.statements.toList = Item.statements items
  label : ∀ l n, script.labels.get? l = some n ↔
    ∃ before after, items = before ++ .label l :: after ∧ n = (Item.statements before).length
  name : script.name =
    if (Item.declared items).name = "" then name else (Item.declared items).name
  description : script.description = (Item.declared items).description
  triggers : script.triggers = (Item.declared items).triggers
  parameters : script.parameters = (Item.declared items).parameters

/-- **What the lines say fixes the script.** -/
theorem Script.ReadsOff.eq {s t : Script} {items : List Item} {name : String} (h : s.ReadsOff items name)
    (h' : t.ReadsOff items name) : s = t := by
  have code : s.statements = t.statements := by
    refine Array.toList_inj.1 ?_
    by_cases needs : Item.NeedsEnd items
    · rw [h.ended needs, h'.ended needs]
    · rw [h.whole needs, h'.whole needs]
  have labels : s.labels = t.labels :=
    KeyMap.ext_get? fun l n => (h.label l n).trans (h'.label l n).symm
  have name := h.name.trans h'.name.symm
  have description := h.description.trans h'.description.symm
  have triggers := h.triggers.trans h'.triggers.symm
  have parameters := h.parameters.trans h'.parameters.symm
  obtain ⟨⟩ := s
  obtain ⟨⟩ := t
  simp only at code labels name description triggers parameters
  subst code labels name description triggers parameters
  rfl

/-! ### The compiled script -/

theorem Script.closed_of_open {sts : Array Statement} {s : Statement} (last : sts.back? = some s)
    (other : s ≠ .finish) : Script.closed sts = sts.push .finish := by
  unfold Script.closed
  split
  · simp_all
  · simp_all
  · rfl

theorem Script.closed_of_closed {sts : Array Statement}
    (last : ∀ s, sts.back? = some s → s = .finish) : Script.closed sts = sts := by
  unfold Script.closed
  split
  · rfl
  · rfl
  · rename_i s other back
    exact absurd (last s back) other

namespace Draft

variable {text : String}

theorem ofText_statements (text : String) :
    (ofText text).statements.toList = Item.statements (Text.items text) := by
  simpa [ofText, Text.items] using addLines_statements {} 1 (Text.lines text)

theorem ofText_declarations (text : String) :
    (ofText text).declarations.toList.map Prod.snd = Item.declarations (Text.items text) := by
  rw [ofText, addLines_declarations]
  exact Item.map_snd_numbered 1 _

/-- **There is no fault just if the items are accepted.** -/
theorem faults_eq_nil_iff_accepted : (ofText text).faults = [] ↔ Item.Accepted (Text.items text) := by
  rw [faults_eq_nil_iff, ofText_declarations, ofText, faultless_addLines]
  rw [show (Text.lines text).map Item.ofText = Text.items text from rfl]
  generalize Text.items text = items
  constructor
  · rintro ⟨⟨_, read, once, _⟩, admits, whole⟩
    exact ⟨read, once, admits, whole⟩
  · rintro ⟨read, once, admits, whole⟩
    exact ⟨⟨by simp [Faultless], read, once, fun _ _ => rfl⟩, admits, whole⟩

theorem ofText_labels (once : (Item.labels (Text.items text)).Nodup) (l : String) (n : Nat) :
    (ofText text).labels.get? l = some n ↔
      ∃ before after, Text.items text = before ++ .label l :: after ∧
        n = (Item.statements before).length := by
  rw [ofText, addLines_labels once fun _ _ => rfl]
  simp [KeyMap.get?, KeyMap.empty, Text.items]

/-- A label stands right at the end just if no statement comes after it. -/
theorem any_label_iff (once : (Item.labels (Text.items text)).Nodup) :
    ((ofText text).labels.entries.any fun e => e.2 == (ofText text).statements.size) = true ↔
      ∃ l before after, Text.items text = before ++ .label l :: after ∧
        Item.statements after = [] := by
  have size : (ofText text).statements.size = (Item.statements (Text.items text)).length := by
    rw [← ofText_statements, Array.length_toList]
  rw [List.any_eq_true]
  constructor
  · rintro ⟨⟨l, n⟩, mem, eq⟩
    obtain ⟨before, after, split, rfl⟩ := (ofText_labels once l n).1 (KeyMap.get?_of_mem mem)
    refine ⟨l, before, after, split, ?_⟩
    simp only [beq_iff_eq, size, split, Item.statements_append, List.length_append] at eq
    exact List.length_eq_zero_iff.1 (by simpa [Item.statements, Item.statement?] using eq)
  · rintro ⟨l, before, after, split, hnone⟩
    refine ⟨(l, (Item.statements before).length), KeyMap.mem_of_get? ?_, ?_⟩
    · exact (ofText_labels once l _).2 ⟨before, after, split, rfl⟩
    · have rest : Item.statements (.label l :: after) = [] := hnone
      rw [beq_iff_eq, size, split, Item.statements_append, rest, List.append_nil]

/-- **The statements get an `end` just if they need one.** -/
theorem finishedStatements_eq (once : (Item.labels (Text.items text)).Nodup) :
    (Item.NeedsEnd (Text.items text) →
      (ofText text).finishedStatements.toList = Item.statements (Text.items text) ++ [.finish]) ∧
    (¬ Item.NeedsEnd (Text.items text) →
      (ofText text).finishedStatements.toList = Item.statements (Text.items text)) := by
  have trailing := any_label_iff once
  have list := ofText_statements text
  have last : (ofText text).statements.back? = (Item.statements (Text.items text)).getLast? := by
    rw [← list, Array.getLast?_toList]
  unfold finishedStatements Item.NeedsEnd
  rw [← trailing]
  split
  · rename_i landed
    refine ⟨fun _ => ?_, fun hnone => absurd (.inl landed) hnone⟩
    -- the `end` for the label closes the statements as well
    rw [Script.closed_of_closed (by simp), Array.toList_push, list]
  · rename_i unlanded
    refine ⟨fun needs => ?_, fun hnone => ?_⟩
    · obtain ⟨s, eq, other⟩ := needs.resolve_left unlanded
      rw [Script.closed_of_open (last.trans eq) other, Array.toList_push, list]
    · rw [Script.closed_of_closed, list]
      intro s eq
      refine Decidable.byContradiction fun other => hnone (.inr ⟨s, ?_, other⟩)
      rw [← last, eq]

end Draft

/-- **A compiled script is what its lines say.** -/
theorem readsOff_of_compile {text name : String} {script : Script}
    (compiled : (compile text name).result = .ok script) : script.ReadsOff (Text.items text) name := by
  obtain ⟨clean, rfl⟩ := compile_eq_ok.1 compiled
  have accepted := Draft.faults_eq_nil_iff_accepted.1 clean
  have made := Draft.declaring_script (Draft.ofText text)
  rw [Draft.ofText_declarations] at made
  obtain ⟨ended, whole⟩ := Draft.finishedStatements_eq accepted.once
  have labels := Draft.ofText_labels accepted.once
  change _ = (Item.declared (Text.items text)).withCode _ _ at made
  rw [Draft.script, made]
  generalize (Draft.ofText text).finishedStatements = code at ended whole ⊢
  generalize (Draft.ofText text).labels = set at labels ⊢
  generalize Text.items text = items at ended whole labels ⊢
  simp only [Script.withCode, String.isEmpty_iff]
  exact ⟨ended, whole, labels, rfl, rfl, rfl, rfl⟩

/-! ### Code and declarations apart -/

namespace Item

/-- The item is a label or a statement. -/
def isCode : Item → Bool
  | label _ => true
  | statement _ => true
  | _ => false

/-- **The same code and the same declarations**, however they are mixed. -/
structure Same (items others : List Item) : Prop where
  code : items.filter isCode = others.filter isCode
  declarations : declarations items = declarations others
  refused : refused ∈ items ↔ refused ∈ others

theorem Same.refl (items : List Item) : Same items items := ⟨rfl, rfl, Iff.rfl⟩

theorem Same.symm {items others : List Item} (h : Same items others) : Same others items :=
  ⟨h.code.symm, h.declarations.symm, h.refused.symm⟩

theorem Same.trans {items others more : List Item} (h : Same items others) (h' : Same others more) :
    Same items more :=
  ⟨h.code.trans h'.code, h.declarations.trans h'.declarations, h.refused.trans h'.refused⟩

/-- What stands around two lists keeps them the same. -/
theorem Same.around {items others : List Item} (h : Same items others) (before after : List Item) :
    Same (before ++ (items ++ after)) (before ++ (others ++ after)) := by
  have declared := h.declarations
  simp only [Item.declarations] at declared
  refine ⟨?_, ?_, ?_⟩
  · simp [h.code]
  · simp [Item.declarations, declared]
  · simp [h.refused]

theorem statements_filter (items : List Item) : statements (items.filter isCode) = statements items := by
  rw [statements, statements, List.filterMap_filter]
  refine congrArg (List.filterMap · items) (funext fun item => ?_)
  cases item <;> rfl

theorem labels_filter (items : List Item) : labels (items.filter isCode) = labels items := by
  rw [labels, labels, List.filterMap_filter]
  refine congrArg (List.filterMap · items) (funext fun item => ?_)
  cases item <;> rfl

/-- A label splits the items as it splits the code, as far as statements go. -/
theorem exists_split_filter {P : List Statement → List Statement → Prop} {l : String}
    {items : List Item} :
    (∃ before after, items = before ++ label l :: after ∧ P (statements before) (statements after)) ↔
      ∃ before after, items.filter isCode = before ++ label l :: after ∧
        P (statements before) (statements after) := by
  constructor
  · rintro ⟨before, after, rfl, holds⟩
    refine ⟨before.filter isCode, after.filter isCode, ?_, ?_⟩
    · rw [List.filter_append, List.filter_cons_of_pos rfl]
    · rwa [statements_filter, statements_filter]
  · rintro ⟨before, after, eq, holds⟩
    obtain ⟨first, rest, rfl, rfl, tail⟩ := List.filter_eq_append_iff.1 eq
    obtain ⟨skipped, last, rfl, hnone, _, rfl⟩ := List.filter_eq_cons_iff.1 tail
    -- what was skipped holds no code, so no statement
    have empty : statements skipped = [] := by
      rw [← statements_filter, List.filter_eq_nil_iff.2 hnone]
      rfl
    refine ⟨first ++ skipped, last, by simp, ?_⟩
    rwa [statements_append, empty, List.append_nil, ← statements_filter first,
      ← statements_filter last]

variable {items others : List Item}

theorem Same.statements_eq (h : Same items others) : statements items = statements others := by
  rw [← statements_filter, h.code, statements_filter]

theorem Same.declared_eq (h : Same items others) : declared items = declared others := by
  rw [declared, h.declarations, declared]

theorem Same.split_iff (h : Same items others) {P : List Statement → List Statement → Prop}
    {l : String} :
    (∃ before after, items = before ++ label l :: after ∧ P (statements before) (statements after)) ↔
      ∃ before after, others = before ++ label l :: after ∧
        P (statements before) (statements after) := by
  rw [exists_split_filter, h.code, ← exists_split_filter]

theorem Same.needsEnd_iff (h : Same items others) : NeedsEnd items ↔ NeedsEnd others := by
  unfold NeedsEnd
  rw [h.statements_eq]
  refine or_congr_left (exists_congr fun l => ?_)
  exact h.split_iff (P := fun _ after => after = [])

theorem Same.accepted (h : Same items others) (accepted : Accepted items) : Accepted others where
  read := fun mem => accepted.read (h.refused.2 mem)
  once := by
    rw [← labels_filter, ← h.code, labels_filter]
    exact accepted.once
  admits := h.declarations ▸ accepted.admits
  whole := h.declared_eq ▸ accepted.whole

/-- **What the lines say is said by the code and by the declarations**, each for itself. -/
theorem Same.readsOff {script : Script} {name : String} (h : Same items others)
    (reads : script.ReadsOff items name) : script.ReadsOff others name where
  ended needs := by
    rw [reads.ended (h.needsEnd_iff.2 needs), h.statements_eq]
  whole none := by
    rw [reads.whole fun needs => none (h.needsEnd_iff.1 needs), h.statements_eq]
  label l n := (reads.label l n).trans (h.split_iff (P := fun before _ => n = before.length))
  name := h.declared_eq ▸ reads.name
  description := h.declared_eq ▸ reads.description
  triggers := h.declared_eq ▸ reads.triggers
  parameters := h.declared_eq ▸ reads.parameters

end Item

/-! ### Edits -/

/-- The word is a keyword by its first sign: it is not empty, a comment or a label. -/
def IsKeyword (word : List Char) : Prop :=
  ∃ c rest, word = c :: rest ∧ c ≠ '#' ∧ c ≠ Name.labelSigil ∧ ∀ b ∈ word, Blank.isBlank b = false

/-- The keyword of a line is written in another case. -/
def Recased (line line' : String) : Prop :=
  ∃ blanks word word' rest : List Char,
    line = .ofList (blanks ++ (word ++ rest)) ∧ line' = .ofList (blanks ++ (word' ++ rest)) ∧
    (∀ c ∈ blanks, Blank.isBlank c = true) ∧ IsKeyword word ∧
    (∀ c ∈ rest.head?, Blank.isBlank c = true) ∧
    word.map Case.asciiLower = word'.map Case.asciiLower

/-- **An edit that should not matter**, to the lines of a text. -/
inductive Edit : List String → List String → Prop
  /-- a line that is blank or a comment comes in -/
  | insert (before after : List String) {line : String} (silent : ¬ Line.Speaks line) :
      Edit (before ++ after) (before ++ line :: after)
  /-- a line is indented -/
  | indent (before after : List String) {line : String} (blanks : List Char)
      (blank : ∀ c ∈ blanks, Blank.isBlank c = true) :
      Edit (before ++ line :: after) (before ++ (.ofList blanks ++ line) :: after)
  /-- a keyword gets another case -/
  | recase (before after : List String) {line line' : String} (recased : Recased line line') :
      Edit (before ++ line :: after) (before ++ line' :: after)
  /-- a declaration moves past a statement or a label -/
  | move (before after : List String) {first second : String} {d : Declaration}
      (declares : Item.ofText first = .declaration d) (code : (Item.ofText second).isCode = true) :
      Edit (before ++ first :: second :: after) (before ++ second :: first :: after)

/-- What a line is does not depend on the blanks in front. -/
theorem Line.ofText_of_trimStart {text other : String}
    (same : Blank.trimStart text.toList = Blank.trimStart other.toList) :
    Line.ofText text = Line.ofText other := by
  unfold Line.ofText
  rw [Text.trimStart, same, ← Text.trimStart]

theorem Blank.trimStart_append {blanks : List Char} (blank : ∀ c ∈ blanks, Blank.isBlank c = true)
    (rest : List Char) : Blank.trimStart (blanks ++ rest) = Blank.trimStart rest :=
  List.dropWhile_append_of_pos blank

theorem Blank.cut_append {word rest : List Char} (solid : ∀ c ∈ word, Blank.isBlank c = false)
    (stops : ∀ c ∈ rest.head?, Blank.isBlank c = true) :
    (Blank.cut (word ++ rest)).getD (word ++ rest, []) = (word, rest.tail) := by
  induction word with
  | nil =>
      cases rest with
      | nil => rfl
      | cons c rest => simp [Blank.cut, stops c rfl]
  | cons c word ih =>
      have here : Blank.isBlank c = false := solid c List.mem_cons_self
      have there := ih fun b mem => solid b (List.mem_cons_of_mem c mem)
      simp only [List.cons_append, Blank.cut, here, Bool.false_eq_true, if_false]
      cases cut : Blank.cut (word ++ rest) with
      | none => simp_all
      | some parts => simp_all

theorem Text.cutOrAll_ofList (cs : List Char) :
    Text.cutOrAll (.ofList cs) =
      (.ofList ((Blank.cut cs).getD (cs, [])).1, .ofList ((Blank.cut cs).getD (cs, [])).2) := by
  unfold Text.cutOrAll Text.cut
  rw [String.toList_ofList]
  cases Blank.cut cs <;> rfl

/-- The keyword and the tail of a line. -/
theorem Line.ofText_of_isKeyword {word rest : List Char} (keyword : IsKeyword word)
    (stops : ∀ c ∈ rest.head?, Blank.isBlank c = true) :
    Line.ofText (.ofList (word ++ rest)) = .instruction (.ofList word) (.ofList rest.tail) := by
  obtain ⟨c, cs, rfl, comment, label, solid⟩ := keyword
  have trimmed : Text.trimStart (.ofList (c :: cs ++ rest)) = .ofList (c :: cs ++ rest) := by
    simp [Text.trimStart, Blank.trimStart, solid c]
  have cut := Text.cutOrAll_ofList (c :: cs ++ rest)
  rw [Blank.cut_append solid stops] at cut
  unfold Line.ofText
  simp only [trimmed, cut]
  simp [comment, label]

/-- A line of a keyword, a blank and a tail. -/
theorem Line.ofText_keyword {keyword : String} (is : IsKeyword keyword.toList) (tail : String) :
    Line.ofText (keyword ++ " " ++ tail) = .instruction keyword tail := by
  have chars : keyword ++ " " ++ tail = .ofList (keyword.toList ++ ' ' :: tail.toList) := by
    rw [← String.toList_inj]
    simp
  have stops : ∀ c ∈ (' ' :: tail.toList).head?, Blank.isBlank c = true := by simp [Blank.isBlank]
  rw [chars, Line.ofText_of_isKeyword is stops, List.tail_cons, String.ofList_toList,
    String.ofList_toList]

/-- A letter of those that have two cases. -/
def Case.IsLetter (c : Char) : Prop :=
  (65 ≤ c.toNat ∧ c.toNat ≤ 90) ∨ (97 ≤ c.toNat ∧ c.toNat ≤ 122)

instance (c : Char) : Decidable (Case.IsLetter c) := inferInstanceAs (Decidable (_ ∨ _))

/-- Signs that are the same in lower case are the same, or letters. -/
theorem Case.eq_or_isLetter {c d : Char} (same : Case.asciiLower c = Case.asciiLower d) :
    d = c ∨ Case.IsLetter d := by
  have small : ∀ n < 123, 97 ≤ n → Case.IsLetter (Char.ofNat n) := by decide
  have upper : ∀ e : Char, 'A' ≤ e ∧ e ≤ 'Z' ↔ 65 ≤ e.toNat ∧ e.toNat ≤ 90 := fun _ => Iff.rfl
  unfold Case.asciiLower at same
  simp only [upper] at same
  by_cases big : 65 ≤ d.toNat ∧ d.toNat ≤ 90
  · exact .inr (.inl big)
  · rw [if_neg big] at same
    split at same
    · rw [← same]
      exact .inr (small _ (by omega) (by omega))
    · exact .inl same.symm

/-- A keyword in another case is a keyword. -/
theorem IsKeyword.of_map_eq {word word' : List Char} (h : IsKeyword word)
    (same : word.map Case.asciiLower = word'.map Case.asciiLower) : IsKeyword word' := by
  have blank : ∀ d : Char, Case.IsLetter d → Blank.isBlank d = false := by
    intro d letter
    unfold Case.IsLetter at letter
    simp only [Blank.isBlank, Bool.or_eq_false_iff, Bool.and_eq_false_iff, decide_eq_false_iff_not,
      beq_eq_false_iff_ne]
    omega
  obtain ⟨c, cs, rfl, comment, label, solid⟩ := h
  cases word' with
  | nil => cases same
  | cons d ds =>
      have heads := Case.eq_or_isLetter (List.cons.inj same).1
      refine ⟨d, ds, rfl, ?_, ?_, ?_⟩
      · rintro rfl
        exact heads.elim (fun eq => comment eq.symm) (by decide)
      · rintro rfl
        exact heads.elim (fun eq => label eq.symm) (by decide)
      · intro e mem
        have lower : Case.asciiLower e ∈ (c :: cs).map Case.asciiLower := by
          rw [same]
          exact List.mem_map_of_mem mem
        obtain ⟨b, among, eq⟩ := List.mem_map.1 lower
        rcases Case.eq_or_isLetter eq with rfl | letter
        · exact solid e among
        · exact blank e letter

theorem Instruction.read?_congr {keyword keyword' : String}
    (same : Case.asciiLowercase keyword = Case.asciiLowercase keyword') (tail : String) :
    Instruction.read? keyword tail = Instruction.read? keyword' tail := by
  unfold Instruction.read? Instruction.reader?
  rw [same]

theorem Item.ofText_congr {line line' : String} (same : Line.ofText line = Line.ofText line') :
    Item.ofText line = Item.ofText line' := by
  unfold Item.ofText
  rw [same]

/-- **Keywords are the same in any case.** -/
theorem Item.ofText_of_recased {line line' : String} (h : Recased line line') :
    Item.ofText line = Item.ofText line' := by
  obtain ⟨blanks, word, word', rest, rfl, rfl, blank, keyword, stops, same⟩ := h
  have flush : ∀ cs, Line.ofText (.ofList (blanks ++ cs)) = Line.ofText (.ofList cs) := by
    intro cs
    refine Line.ofText_of_trimStart ?_
    rw [String.toList_ofList, String.toList_ofList, Blank.trimStart_append blank]
  have other := keyword.of_map_eq same
  unfold Item.ofText
  rw [flush, flush, Line.ofText_of_isKeyword keyword stops, Line.ofText_of_isKeyword other stops]
  refine congrArg Item.ofInstruction (Instruction.read?_congr ?_ _)
  simp [Case.asciiLowercase, same]

/-- **An edit keeps the code and the declarations**, each in order. -/
theorem Edit.same {lines lines' : List String} (edit : Edit lines lines') :
    Item.Same (lines.map Item.ofText) (lines'.map Item.ofText) := by
  cases edit with
  | @insert before after line silent =>
      have here : Item.Same [] [Item.ofText line] := by
        rw [Item.ofText_eq_nothing.2 silent]
        exact ⟨rfl, rfl, by simp⟩
      simpa using here.around (before.map Item.ofText) (after.map Item.ofText)
  | @indent before after line blanks blank =>
      have here : Item.ofText line = Item.ofText (.ofList blanks ++ line) := by
        refine Item.ofText_congr (Line.ofText_of_trimStart ?_)
        rw [String.toList_append, String.toList_ofList, Blank.trimStart_append blank]
      rw [List.map_append, List.map_append, List.map_cons, List.map_cons, here]
      exact Item.Same.refl _
  | @recase before after line line' recased =>
      rw [List.map_append, List.map_append, List.map_cons, List.map_cons,
        Item.ofText_of_recased recased]
      exact Item.Same.refl _
  | @move before after first second d declares code =>
      have here : Item.Same [Item.ofText first, Item.ofText second]
          [Item.ofText second, Item.ofText first] := by
        rw [declares]
        cases kind : Item.ofText second with
        | label l => exact ⟨rfl, rfl, by simp⟩
        | statement s => exact ⟨rfl, rfl, by simp⟩
        | _ =>
            rw [kind] at code
            cases code
      simpa using here.around (before.map Item.ofText) (after.map Item.ofText)

theorem Item.Same.of_eqvGen {lines lines' : List String} (edits : Relation.EqvGen Edit lines lines') :
    Item.Same (lines.map Item.ofText) (lines'.map Item.ofText) := by
  induction edits with
  | rel _ _ edit => exact edit.same
  | refl _ => exact Item.Same.refl _
  | symm _ _ _ ih => exact ih.symm
  | trans _ _ _ _ _ ih ih' => exact ih.trans ih'

/-- **A script is what its lines say, and edits that keep that never change it.**  The statements are
those of the lines in order, with an `end` after them where one is needed, and each label stands at the
number of statements before it.  Edits are blank lines, indents, the case of keywords, and declarations
moved past other lines. -/
theorem compile_reads_off {text name : String} {script : Script}
    (compiled : (compile text name).result = .ok script) :
    script.ReadsOff (Text.items text) name ∧
      ∀ text', Relation.EqvGen Edit (Text.lines text) (Text.lines text') →
        (compile text' name).result = .ok script := by
  have reads := readsOff_of_compile compiled
  refine ⟨reads, ?_⟩
  intro text' edits
  have same : Item.Same (Text.items text) (Text.items text') := Item.Same.of_eqvGen edits
  have accepted := Draft.faults_eq_nil_iff_accepted.1 (compile_eq_ok.1 compiled).1
  have clean := Draft.faults_eq_nil_iff_accepted.2 (same.accepted accepted)
  obtain ⟨other, made⟩ := (@compile_eq_ok_iff text' name).2 clean
  rw [made, (same.readsOff reads).eq (readsOff_of_compile made)]

/-- A name that is declared after a statement, and a label at the end. -/
def greeting : String := "write hi\nscript s\n@b"

/-- The same with the name first, a comment, and the keyword in capitals. -/
def greetingEdited : String := "# greets\nscript s\n WRITE hi\n@b"

/-- Both are the same script. -/
theorem compile_reads_off_greeting :
    ∃ script, (compile greeting "t").result = .ok script ∧
      script.ReadsOff (Text.items greeting) "t" ∧
      (compile greetingEdited "t").result = .ok script := by
  have named : (Item.ofText "script s").declaration?.isSome = true := by decide +kernel
  obtain ⟨d, declares⟩ := Option.isSome_iff_exists.1 named
  have moved : Edit ["script s", "write hi", "@b"] ["write hi", "script s", "@b"] :=
    .move [] ["@b"] (Item.declaration?_eq_some declares) (by decide +kernel)
  have recased : Edit ["script s", "write hi", "@b"] ["script s", "WRITE hi", "@b"] := by
    refine .recase ["script s"] ["@b"]
      ⟨[], "write".toList, "WRITE".toList, " hi".toList, by decide, by decide, by simp, ?_,
        by simp [Blank.isBlank], by decide⟩
    exact ⟨'w', "rite".toList, by decide, by decide, by decide, by simp [Blank.isBlank]⟩
  have indented : Edit ["script s", "WRITE hi", "@b"] ["script s", " WRITE hi", "@b"] :=
    .indent ["script s"] ["@b"] [' '] (by simp [Blank.isBlank])
  have commented : Edit ["script s", " WRITE hi", "@b"] ["# greets", "script s", " WRITE hi", "@b"] :=
    .insert [] _ (Line.ofText_eq_nothing.1 (by decide))
  have edits : Relation.EqvGen Edit (Text.lines greeting) (Text.lines greetingEdited) := by
    rw [show Text.lines greeting = ["write hi", "script s", "@b"] by decide,
      show Text.lines greetingEdited = ["# greets", "script s", " WRITE hi", "@b"] by decide]
    exact .trans _ _ _ (.symm _ _ (.rel _ _ moved)) (.trans _ _ _ (.rel _ _ recased)
      (.trans _ _ _ (.rel _ _ indented) (.rel _ _ commented)))
  obtain ⟨script, compiled⟩ := (@compile_eq_ok_iff greeting "t").2 (by decide +kernel)
  obtain ⟨reads, same⟩ := compile_reads_off compiled
  exact ⟨script, compiled, reads, same greetingEdited edits⟩

end LineScript
