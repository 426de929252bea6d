import LineScript.Proofs.Landing
import LineScript.Proofs.LineFaults
import Mathlib.Data.List.TakeWhile

/-!
**A text is read line by line.**

What a line brings in — nothing, a label, a statement, a declaration, or only faults — is settled by the
line alone.  The lines around it matter for two things: a label may be set already, and a declaration may
not go with those before it.  So the draft of a text is known from the items of its lines: the statements
and the declarations are those of the lines, in order, and a label stands at the number of statements
before it.

Main definitions:

* `LineScript.Item` — what a line brings in;
* `LineScript.Item.statements`, `LineScript.Item.labels`, `LineScript.Item.numbered` — the items of each
  kind among those of several lines;
* `LineScript.Draft.Takes` — what reading a line does to a draft, by its item;
* `LineScript.Line.Speaks` — a line is neither blank nor a comment.

Main results:

* `LineScript.Draft.takes_addLine` — **reading a line is known from its item**;
* `LineScript.Draft.addLines_statements`, `LineScript.Draft.addLines_declarations`,
  `LineScript.Draft.addLines_labels` — what reading several lines adds;
* `LineScript.Draft.faultless_addLines` — **there is a fault just if a line is refused or a label is set
  twice**.
-/

set_option autoImplicit false

namespace LineScript

/-! ### What a line brings in -/

/-- A line is neither blank nor a comment: its first sign that is not blank is not `#`. -/
def Line.Speaks (text : String) : Prop :=
  ∃ c, text.toList.find? (fun c => !Blank.isBlank c) = some c ∧ c ≠ '#'

/-- **A line says nothing just if it is blank or a comment.** -/
theorem Line.ofText_eq_nothing {text : String} : Line.ofText text = .nothing ↔ ¬ Line.Speaks text := by
  have first : (Blank.trimStart text.toList).head? = text.toList.find? fun c => !Blank.isBlank c :=
    (List.find?_not_eq_head?_dropWhile ..).symm
  unfold Line.ofText Line.Speaks
  simp only [Text.trimStart, String.toList_ofList, ← first]
  cases Blank.trimStart text.toList with
  | nil => simp
  | cons c rest =>
      by_cases comment : c = '#'
      · simp [comment]
      · by_cases sigil : c = Name.labelSigil <;> simp [comment, sigil]

/-- The instruction that a keyword and its tail are, if no fault is found in them. -/
def Instruction.read? (keyword tail : String) : Option Instruction :=
  match Instruction.reader? keyword with
  | none => none
  | some read =>
    match (read tail).outcome [] with
    | (some i, found) => if sound found then some i else none
    | (none, _) => none

/-- An instruction was read by the reader of its keyword. -/
theorem Instruction.read?_eq_some {keyword tail : String} {i : Instruction}
    (h : read? keyword tail = some i) :
    ∃ read, reader? keyword = some read ∧ ((read tail).outcome []).1 = some i := by
  unfold read? at h
  split at h
  · cases h
  · rename_i read known
    split at h
    · rename_i found _ outcome
      split at h
      · exact ⟨read, known, by rw [outcome]; exact h⟩
      · cases h
    · cases h

/-- What a line brings in. -/
inductive Item where
  | nothing
  | label (label : String)
  | statement (s : Statement)
  | declaration (d : Declaration)
  /-- nothing but faults -/
  | refused

namespace Item

/-- The item of a line that is an instruction, or is not. -/
def ofInstruction : Option Instruction → Item
  | some (.execute s) => statement s
  | some (.declare d) => declaration d
  | none => refused

/-- The item of a line. -/
def ofText (text : String) : Item :=
  match Line.ofText text with
  | .nothing => nothing
  | .label l => if Name.isLabel l then label l else refused
  | .instruction keyword tail => ofInstruction (Instruction.read? keyword tail)

/-- A line that is an instruction was read by the reader of its keyword. -/
theorem ofText_eq_instruction {text : String} {i : Instruction}
    (h : ofText text = ofInstruction (some i)) :
    ∃ keyword tail read, Instruction.reader? keyword = some read ∧
      ((read tail).outcome []).1 = some i := by
  unfold ofText at h
  split at h
  · cases i <;> cases h
  · cases i <;> split at h <;> cases h
  · rename_i keyword tail _
    refine ⟨keyword, tail, Instruction.read?_eq_some ?_⟩
    generalize Instruction.read? keyword tail = read at h
    cases read with
    | none => cases i <;> cases h
    | some other =>
        cases i <;> cases other <;> cases h
        · rfl
        · rfl

theorem ofText_eq_statement {text : String} {st : Statement} (h : ofText text = statement st) :
    ∃ keyword tail read, Instruction.reader? keyword = some read ∧
      ((read tail).outcome []).1 = some (.execute st) :=
  ofText_eq_instruction (i := .execute st) h

/-- **A line brings in nothing, not even a fault, just if it is blank or a comment.** -/
theorem ofText_eq_nothing {text : String} : ofText text = nothing ↔ ¬ Line.Speaks text := by
  rw [← Line.ofText_eq_nothing]
  unfold ofText
  cases Line.ofText text with
  | nothing => simp
  | label l => by_cases named : Name.isLabel l = true <;> simp [named]
  | instruction keyword tail =>
      simp only [reduceCtorEq, iff_false]
      generalize Instruction.read? keyword tail = read
      cases read with
      | none => simp [ofInstruction]
      | some i => cases i <;> simp [ofInstruction]

/-- The statement, if the item is one. -/
def statement? : Item → Option Statement
  | statement s => some s
  | _ => none

/-- The label, if the item is one. -/
def label? : Item → Option String
  | label l => some l
  | _ => none

/-- The declaration, if the item is one. -/
def declaration? : Item → Option Declaration
  | declaration d => some d
  | _ => none

/-- The statements among items. -/
def statements (items : List Item) : List Statement := items.filterMap statement?

/-- The labels among items. -/
def labels (items : List Item) : List String := items.filterMap label?

/-- The declarations among items. -/
def declarations (items : List Item) : List Declaration := items.filterMap declaration?

/-- The declarations among the items of lines that are numbered from `n` on, by line. -/
def numbered (n : Nat) : List Item → List (Nat × Declaration)
  | [] => []
  | item :: items => (item.declaration?.map (n, ·)).toList ++ numbered (n + 1) items

theorem statements_append (items more : List Item) :
    statements (items ++ more) = statements items ++ statements more := List.filterMap_append

theorem mem_labels {items : List Item} {l : String} : l ∈ labels items ↔ label l ∈ items := by
  simp only [labels, List.mem_filterMap]
  constructor
  · rintro ⟨item, mem, eq⟩
    cases item <;> cases eq
    exact mem
  · exact fun mem => ⟨_, mem, rfl⟩

theorem nodup_labels_cons {item : Item} {items : List Item} :
    (labels (item :: items)).Nodup ↔
      (∀ l, item = label l → label l ∉ items) ∧ (labels items).Nodup := by
  cases item with
  | label l =>
      simp only [label.injEq, forall_eq', ← mem_labels]
      exact List.nodup_cons
  | _ => exact ⟨fun once => ⟨fun _ set => (nomatch set), once⟩, And.right⟩

theorem statement?_eq_some {item : Item} {s : Statement} (h : item.statement? = some s) :
    item = statement s := by
  cases item <;> cases h
  rfl

theorem declaration?_eq_some {item : Item} {d : Declaration} (h : item.declaration? = some d) :
    item = declaration d := by
  cases item <;> cases h
  rfl

theorem map_snd_numbered (n : Nat) (items : List Item) :
    (numbered n items).map Prod.snd = declarations items := by
  induction items generalizing n with
  | nil => rfl
  | cons item items ih =>
      rw [numbered, List.map_append, ih]
      cases item <;> rfl

/-- Where a declaration stands among the numbered ones, and on which line. -/
theorem numbered_eq_append {n k : Nat} {d : Declaration} {items : List Item}
    {first last : List (Nat × Declaration)} (h : numbered n items = first ++ (k, d) :: last) :
    ∃ before after, items = before ++ declaration d :: after ∧ k = n + before.length ∧
      numbered n before = first := by
  induction items generalizing n first with
  | nil => simp [numbered] at h
  | cons item items ih =>
      have further : ∀ {rest}, numbered (n + 1) items = rest ++ (k, d) :: last →
          ∃ before after, item :: items = before ++ declaration d :: after ∧
            k = n + before.length ∧
            numbered n before = (item.declaration?.map (n, ·)).toList ++ rest := by
        intro rest h
        obtain ⟨before, after, rfl, line, eq⟩ := ih h
        refine ⟨item :: before, after, rfl, ?_, by rw [numbered, eq]⟩
        rw [List.length_cons]
        omega
      cases kind : item.declaration? with
      | none =>
          simp only [numbered, kind, Option.map_none, Option.toList_none, List.nil_append] at h
          simpa [kind] using further h
      | some x =>
          obtain rfl := declaration?_eq_some kind
          simp only [numbered, kind, Option.map_some, Option.toList_some] at h
          cases first with
          | nil =>
              simp only [List.nil_append, List.singleton_append, List.cons.injEq, Prod.mk.injEq] at h
              obtain ⟨⟨rfl, rfl⟩, rfl⟩ := h
              exact ⟨[], items, rfl, rfl, rfl⟩
          | cons y rest =>
              simp only [List.cons_append, List.cons.injEq] at h
              obtain ⟨rfl, h⟩ := h
              exact further h

end Item

/-- The items of the lines of a text. -/
def Text.items (text : String) : List Item := (Text.lines text).map Item.ofText

theorem sound_iff (n : Nat) (fs : List Finding) :
    sound fs = true ↔ ∀ f ∈ fs.map (LineFinding.mk n), f.fault? = none := by
  simp only [sound, List.all_eq_true, List.forall_mem_map]
  refine forall₂_congr fun f _ => ?_
  cases f <;> simp [Finding.isFault, LineFinding.fault?]

/-! ### Reading a line -/

namespace Draft

/-- **What reading a line does to a draft**, by the item of the line. -/
inductive Takes (d : Draft) (n : Nat) : Item → Draft → Prop
  | nothing : Takes d n .nothing d
  | label {l : String} (new : d.labels.contains l = false) :
      Takes d n (.label l) { d with labels := d.labels.insert l d.statements.size }
  | twice {l : String} (old : d.labels.contains l = true) :
      Takes d n (.label l) (d.note n [.fault (.labelTwice l)])
  | statement {s : Statement} {fs : List Finding} (clean : sound fs = true) :
      Takes d n (.statement s) ((d.addInstruction n (.execute s)).note n fs)
  | declaration {x : Declaration} {fs : List Finding} (clean : sound fs = true) :
      Takes d n (.declaration x) ((d.addInstruction n (.declare x)).note n fs)
  | refused {fs : List Finding} (wrong : sound fs = false) : Takes d n .refused (d.note n fs)

theorem takes_addLabel (d : Draft) (n : Nat) (l : String) :
    d.Takes n (if Name.isLabel l then .label l else .refused) (d.addLabel n l) := by
  unfold addLabel
  cases Name.isLabel l with
  | false => exact .refused rfl
  | true =>
      cases known : d.labels.contains l with
      | false => exact .label known
      | true => exact .twice known

theorem takes_addKeyword (d : Draft) (n : Nat) (keyword tail : String) :
    d.Takes n (.ofInstruction (Instruction.read? keyword tail)) (d.addKeyword n keyword tail) := by
  unfold addKeyword Instruction.read?
  cases Instruction.reader? keyword with
  | none => exact .refused rfl
  | some read =>
      simp only
      generalize (read tail).outcome [] = outcome
      obtain ⟨_ | i, found⟩ := outcome
      · refine .refused ?_
        cases clean : sound found with
        | false => exact clean
        | true => simp [sound, Finding.isFault]
      · cases clean : sound found with
        | false =>
            simp only [clean, Bool.false_eq_true, if_false]
            exact .refused clean
        | true =>
            simp only [clean, if_true]
            cases i with
            | declare x => exact .declaration clean
            | execute s => exact .statement clean

/-- **Reading a line is known from its item.** -/
theorem takes_addLine (d : Draft) (n : Nat) (text : String) :
    d.Takes n (.ofText text) (d.addLine n text) := by
  unfold addLine Item.ofText
  cases Line.ofText text with
  | nothing => exact .nothing
  | label l => exact takes_addLabel d n l
  | instruction keyword tail => exact takes_addKeyword d n keyword tail

theorem Takes.statements {d e : Draft} {n : Nat} {item : Item} (h : d.Takes n item e) :
    e.statements.toList = d.statements.toList ++ Item.statements [item] := by
  cases h <;> simp [Item.statements, Item.statement?, note, addInstruction]

theorem Takes.declarations {d e : Draft} {n : Nat} {item : Item} (h : d.Takes n item e) :
    e.declarations.toList = d.declarations.toList ++ Item.numbered n [item] := by
  cases h <;> simp [Item.numbered, Item.declaration?, note, addInstruction]

theorem faultless_note (d : Draft) (n : Nat) (fs : List Finding) :
    (d.note n fs).Faultless ↔ d.Faultless ∧ sound fs = true := by
  simp only [Faultless, note, Array.mem_append, List.mem_toArray, or_imp, forall_and]
  exact and_congr_right fun _ => (sound_iff n fs).symm

/-- No fault was found just if none was before and the line is not refused, nor a label set twice. -/
theorem Takes.faultless_iff {d e : Draft} {n : Nat} {item : Item} (h : d.Takes n item e) :
    e.Faultless ↔
      d.Faultless ∧ item ≠ .refused ∧ ∀ l, item = .label l → d.labels.contains l = false := by
  cases h with
  | nothing => simp
  | label new =>
      simp only [ne_eq, reduceCtorEq, not_false_eq_true, Item.label.injEq, forall_eq', new, and_true]
      exact Iff.rfl
  | twice old => simp [faultless_note, sound, Finding.isFault, old]
  | statement clean =>
      simp only [faultless_note, clean, ne_eq, reduceCtorEq, not_false_eq_true, false_implies, implies_true,
        and_true]
      exact Iff.rfl
  | declaration clean =>
      simp only [faultless_note, clean, ne_eq, reduceCtorEq, not_false_eq_true, false_implies, implies_true,
        and_true]
      exact Iff.rfl
  | refused wrong => simp [faultless_note, wrong]

/-- A label is set after a line if it was before or the line sets it. -/
theorem Takes.contains_eq_false {d e : Draft} {n : Nat} {item : Item} (h : d.Takes n item e)
    (l : String) :
    e.labels.contains l = false ↔ d.labels.contains l = false ∧ item ≠ .label l := by
  cases h with
  | @label set new =>
      by_cases same : set = l
      · simp [same, KeyMap.contains]
      · simp [same, KeyMap.contains, KeyMap.get?_insert_of_ne _ (Ne.symm same)]
  | @twice set old =>
      refine ⟨fun hnone => ⟨hnone, ?_⟩, And.left⟩
      rintro ⟨⟩
      exact Bool.false_ne_true (hnone.symm.trans old)
  | _ => simp [note, addInstruction]

/-- A label that a line sets stands before the next statement. -/
theorem Takes.get?_labels {d e : Draft} {n : Nat} {item : Item} (h : d.Takes n item e)
    (new : ∀ l, item = .label l → d.labels.contains l = false) (l : String) (index : Nat) :
    e.labels.get? l = some index ↔
      d.labels.get? l = some index ∨ item = .label l ∧ index = d.statements.size := by
  cases h with
  | @label set fresh =>
      by_cases same : set = l
      · have hnone : d.labels.get? l = none := by simpa [KeyMap.contains, same] using fresh
        simp [same, hnone, eq_comm]
      · simp [same, KeyMap.get?_insert_of_ne _ (Ne.symm same)]
  | @twice set old => exact absurd (new set rfl) (by simp [old])
  | _ => simp [note, addInstruction]

/-! ### Reading several lines -/

theorem addLines_statements (d : Draft) (n : Nat) (texts : List String) :
    (d.addLines n texts).statements.toList =
      d.statements.toList ++ Item.statements (texts.map Item.ofText) := by
  induction texts generalizing d n with
  | nil => simp [addLines, Item.statements]
  | cons text texts ih =>
      rw [addLines, ih, (d.takes_addLine n text).statements, List.append_assoc,
        ← Item.statements_append]
      rfl

theorem addLines_declarations (d : Draft) (n : Nat) (texts : List String) :
    (d.addLines n texts).declarations.toList =
      d.declarations.toList ++ Item.numbered n (texts.map Item.ofText) := by
  induction texts generalizing d n with
  | nil => simp [addLines, Item.numbered]
  | cons text texts ih =>
      rw [addLines, ih, (d.takes_addLine n text).declarations, List.append_assoc, List.map_cons]
      cases Item.ofText text <;> rfl

/-- **There is a fault just if a line is refused or a label is set twice.** -/
theorem faultless_addLines (d : Draft) (n : Nat) (texts : List String) :
    (d.addLines n texts).Faultless ↔
      d.Faultless ∧ .refused ∉ texts.map Item.ofText ∧
        (Item.labels (texts.map Item.ofText)).Nodup ∧
        ∀ l ∈ Item.labels (texts.map Item.ofText), d.labels.contains l = false := by
  induction texts generalizing d n with
  | nil => simp [addLines, Item.labels]
  | cons text texts ih =>
      have takes := d.takes_addLine n text
      rw [addLines, ih, takes.faultless_iff, List.map_cons, Item.nodup_labels_cons]
      simp only [Item.mem_labels, takes.contains_eq_false, List.mem_cons]
      grind

/-- The ways to split a list at an element: at its head, or further on. -/
theorem exists_split_cons {α : Type} {P : List α → Prop} {x y : α} {xs : List α} :
    (∃ before after, y :: xs = before ++ x :: after ∧ P before) ↔
      (y = x ∧ P []) ∨ ∃ before after, xs = before ++ x :: after ∧ P (y :: before) := by
  constructor
  · rintro ⟨_ | ⟨z, before⟩, after, eq, holds⟩
    · exact .inl ⟨(List.cons.inj eq).1, holds⟩
    · obtain ⟨rfl, rest⟩ := List.cons.inj eq
      exact .inr ⟨before, after, rest, holds⟩
  · rintro (⟨rfl, holds⟩ | ⟨before, after, rfl, holds⟩)
    · exact ⟨[], xs, rfl, holds⟩
    · exact ⟨y :: before, after, rfl, holds⟩

/-- **A label stands at the number of statements before it.** -/
theorem addLines_labels {d : Draft} {n : Nat} {texts : List String}
    (once : (Item.labels (texts.map Item.ofText)).Nodup)
    (new : ∀ l ∈ Item.labels (texts.map Item.ofText), d.labels.contains l = false)
    (l : String) (index : Nat) :
    (d.addLines n texts).labels.get? l = some index ↔
      d.labels.get? l = some index ∨
        ∃ before after, texts.map Item.ofText = before ++ .label l :: after ∧
          index = d.statements.size + (Item.statements before).length := by
  induction texts generalizing d n with
  | nil => simp [addLines]
  | cons text texts ih =>
      have takes := d.takes_addLine n text
      simp only [List.map_cons, Item.nodup_labels_cons, Item.mem_labels, List.mem_cons] at once new
      have here : ∀ l, Item.ofText text = .label l → d.labels.contains l = false :=
        fun l set => new l (.inl set.symm)
      have later : ∀ l ∈ Item.labels (texts.map Item.ofText),
          (d.addLine n text).labels.contains l = false := by
        intro l mem
        rw [Item.mem_labels] at mem
        exact (takes.contains_eq_false l).2 ⟨new l (.inr mem), fun set => once.1 l set mem⟩
      have counted : (d.addLine n text).statements.size =
          d.statements.size + (Item.statements [Item.ofText text]).length := by
        simpa using congrArg List.length takes.statements
      rw [addLines, ih once.2 later, takes.get?_labels here, List.map_cons, exists_split_cons, or_assoc]
      simp only [counted, Nat.add_assoc, ← List.length_append, ← Item.statements_append]
      rfl

end Draft

/-! ### What declarations make of a script -/

namespace Script

/-- The script with other statements and labels. -/
def withCode (s : Script) (statements : Array Statement) (labels : KeyMap Nat) : Script :=
  { s with statements, labels }

/-- The script after declarations took effect, one after the other. -/
def declared (s : Script) (ds : List Declaration) : Script := ds.foldl (fun s d => (d.apply s).1) s

/-- Declarations take effect one after the other, and no fault is found. -/
def Admits (s : Script) : List Declaration → Prop
  | [] => True
  | d :: ds => sound (d.apply s).2 = true ∧ (d.apply s).1.Admits ds

end Script

/-- Declarations do not look at statements and labels. -/
theorem Declaration.apply_withCode (d : Declaration) (s : Script) (statements : Array Statement)
    (labels : KeyMap Nat) :
    d.apply (s.withCode statements labels) =
      ((d.apply s).1.withCode statements labels, (d.apply s).2) := by
  have refined : ∀ (keyword : String) (f : Parameter → Parameter),
      Declaration.refine (s.withCode statements labels) keyword f =
        ((Declaration.refine s keyword f).1.withCode statements labels,
          (Declaration.refine s keyword f).2) := by
    intro keyword f
    unfold Declaration.refine
    simp only [Script.withCode]
    cases s.parameters.getLast? <;> rfl
  cases d with
  | type t => exact refined _ _
  | standIn text => exact refined _ _
  | description text =>
      simp only [Declaration.apply, Script.withCode]
      cases s.parameters.getLast? <;> rfl
  | command word =>
      by_cases known : word ∈ s.triggers.commands <;>
        simp [Declaration.apply, Script.withCode, known]
  | parameter new required seeds =>
      cases known : s.parameters.any (·.name == new) <;>
        simp [Declaration.apply, Script.withCode, known]
  | _ => rfl

namespace Script

theorem declared_withCode (s : Script) (statements : Array Statement) (labels : KeyMap Nat)
    (ds : List Declaration) :
    (s.withCode statements labels).declared ds = (s.declared ds).withCode statements labels := by
  induction ds generalizing s with
  | nil => rfl
  | cons d ds ih =>
      simp only [declared, List.foldl_cons, Declaration.apply_withCode]
      exact ih (d.apply s).1

theorem admits_withCode (s : Script) (statements : Array Statement) (labels : KeyMap Nat)
    (ds : List Declaration) : (s.withCode statements labels).Admits ds ↔ s.Admits ds := by
  induction ds generalizing s with
  | nil => exact Iff.rfl
  | cons d ds ih => simp only [Admits, Declaration.apply_withCode, ih]

end Script

namespace Declaring

theorem addAll_script (c : Declaring) (ds : List (Nat × Declaration)) :
    (c.addAll ds).script = c.script.declared (ds.map Prod.snd) := by
  induction ds generalizing c with
  | nil => rfl
  | cons x ds ih => exact ih (c.add x.1 x.2)

/-- **No fault is found just if the script admits the declarations.** -/
theorem addAll_faultless (c : Declaring) (ds : List (Nat × Declaration)) :
    (∀ f ∈ (c.addAll ds).findings, f.fault? = none) ↔
      (∀ f ∈ c.findings, f.fault? = none) ∧ c.script.Admits (ds.map Prod.snd) := by
  induction ds generalizing c with
  | nil => simp [addAll, Script.Admits]
  | cons x ds ih =>
      have rest := ih (c.add x.1 x.2)
      simp only [add, Array.mem_append, List.mem_toArray, or_imp, forall_and, ← sound_iff, and_assoc]
        at rest
      exact rest

end Declaring

namespace Draft

/-- The script of a draft, but for its code, is a blank one under the declarations. -/
theorem declaring_script (d : Draft) :
    d.declaring.script =
      (({} : Script).declared (d.declarations.toList.map Prod.snd)).withCode d.finishedStatements
        d.labels :=
  (Declaring.addAll_script _ _).trans (Script.declared_withCode {} _ _ _)

/-- **A draft has no fault just if none was found in its lines, in its declarations and in its parameters
as a whole.** -/
theorem faults_eq_nil_iff (d : Draft) :
    d.faults = [] ↔
      d.Faultless ∧ ({} : Script).Admits (d.declarations.toList.map Prod.snd) ∧
        Parameter.faults (({} : Script).declared (d.declarations.toList.map Prod.snd)).parameters =
          [] := by
  have declared : (∀ f ∈ d.declaring.findings.toList, f.fault? = none) ↔
      ({} : Script).Admits (d.declarations.toList.map Prod.snd) := by
    rw [← Script.admits_withCode {} d.finishedStatements d.labels]
    change _ ↔ d.undeclared.Admits _
    simpa [declaring] using
      Declaring.addAll_faultless { script := d.undeclared } d.declarations.toList
  have whole : (∀ f ∈ d.declaring.parameterFindings, f.fault? = none) ↔
      Parameter.faults (({} : Script).declared (d.declarations.toList.map Prod.snd)).parameters =
        [] := by
    rw [Declaring.parameterFindings, declaring_script, List.forall_mem_map,
      List.eq_nil_iff_forall_not_mem]
    exact forall_congr' fun x => by simp [LineFinding.fault?, Script.withCode]
  simp only [faults, allFindings, List.filterMap_eq_nil_iff, List.mem_append, or_imp, forall_and,
    declared, whole, and_assoc]
  exact and_congr_left fun _ => by simp [Faultless]

/-- The script of a draft, under the given name unless one is declared. -/
def script (d : Draft) (name : String) : Script :=
  { d.declaring.script with
    name := if d.declaring.script.name.isEmpty then name else d.declaring.script.name }

end Draft

/-- **There is a script just if there is no fault**, and then it is that of the draft. -/
theorem compile_eq_ok {text name : String} {script : Script} :
    (compile text name).result = .ok script ↔
      (Draft.ofText text).faults = [] ∧ (Draft.ofText text).script name = script := by
  have result : (compile text name).result =
      if (Draft.ofText text).faults.isEmpty then .ok ((Draft.ofText text).script name)
      else .error (.invalid name
        ((Draft.ofText text).faults.mergeSort fun a b => a.line ≤ b.line)) := by
    simp only [compile, Draft.script, Draft.faults, Draft.allFindings, Draft.declaring]
    rfl
  rw [result]
  generalize (Draft.ofText text).script name = made
  cases (Draft.ofText text).faults with
  | nil => simp
  | cons f fs => simp

end LineScript
