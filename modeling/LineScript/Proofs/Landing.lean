import LineScript.Compile
import LineScript.Proofs.KeyOrder
import LineScript.Proofs.Steps

/-!
**Labels and cursors stay within the script.**

A label stands before the statement that comes next, and the last label of a text may have none
after it.  Reading keeps every label at or before the end of the statements read so far; when the
text is at its end, a label that stands right there gets an `end` to stand before, and the statements
get an `end` if they have none.  So in a script that was compiled every label is the index of a
statement and the last statement ends the run, and from there the cursor of a run, whichever way it
moves, never leaves the statements.

Main definitions:

* `LineScript.Script.Landed` — labels are indices of statements, and the last statement is an `end`;
* `LineScript.Draft.Grows` — one draft comes from another by reading on.

Main results:

* `LineScript.Draft.landed_undeclared` — **the finished draft has landed**;
* `LineScript.Draft.contains_label_of_mem` — a text without faults sets every label it declares;
* `LineScript.Invocation.Moves.onStatement` — a step never moves the cursor out of the statements;
* `LineScript.compile_landed` — **no run of a compiled script leaves its statements**.
-/

set_option autoImplicit false

namespace LineScript

/-! ### Scripts that have landed -/

namespace Script

/-- Every label is the index of a statement, and the last statement, if there is one, is an
`end`. -/
structure Landed (s : Script) : Prop where
  label_lt : ∀ {label index}, s.labels.get? label = some index → index < s.statements.size
  last_finish : s.statements ≠ #[] → s.statements.back? = some .finish

/-- Closing statements does not make them fewer. -/
theorem size_le_closed (sts : Array Statement) : sts.size ≤ (closed sts).size := by
  unfold closed
  split
  · exact Nat.le_refl _
  · exact Nat.le_refl _
  · simp

/-- Statements that are closed end in `end`. -/
theorem back?_closed {sts : Array Statement} (h : closed sts ≠ #[]) :
    (closed sts).back? = some .finish := by
  unfold closed at h ⊢
  split
  · rename_i hb
    simp only [hb] at h
    exact absurd (Array.back?_eq_none_iff.1 hb) h
  · rename_i hb
    exact hb
  · simp

end Script

/-! ### Reading on -/

namespace Draft

/-- No fault was found. -/
def Faultless (d : Draft) : Prop := ∀ f ∈ d.findings, f.fault? = none

/-- One draft comes from another by reading on: nothing that was found is lost, nor any label. -/
structure Grows (d e : Draft) : Prop where
  findings : ∀ f ∈ d.findings, f ∈ e.findings
  labels : ∀ label, d.labels.contains label = true → e.labels.contains label = true

theorem Grows.refl (d : Draft) : Grows d d := ⟨fun _ h => h, fun _ h => h⟩

theorem Grows.trans {d e f : Draft} (h : Grows d e) (h' : Grows e f) : Grows d f :=
  ⟨fun x hx => h'.findings x (h.findings x hx), fun l hl => h'.labels l (h.labels l hl)⟩

theorem Grows.faultless {d e : Draft} (h : Grows d e) (he : e.Faultless) : d.Faultless :=
  fun f hf => he f (h.findings f hf)

/-- Every label stands before a statement that was read or before the next one. -/
def LabelsInside (d : Draft) : Prop :=
  ∀ {label index}, d.labels.get? label = some index → index ≤ d.statements.size

theorem grows_note (d : Draft) (line : Nat) (fs : List Finding) : Grows d (d.note line fs) :=
  ⟨fun f hf => by simp [note, hf], fun _ h => h⟩

/-- A fault that is noted is found. -/
theorem not_faultless_note (d : Draft) (line : Nat) (f : Fault) :
    ¬ (d.note line [.fault f]).Faultless := by
  intro h
  have := h ⟨line, .fault f⟩ (by simp [note])
  simp [LineFinding.fault?] at this

theorem grows_addLabel (d : Draft) (line : Nat) (label : String) :
    Grows d (d.addLabel line label) := by
  unfold addLabel
  split
  · exact grows_note _ _ _
  · split
    · exact grows_note _ _ _
    · exact ⟨fun _ h => h, fun _ h => KeyMap.contains_insert h⟩

theorem grows_addInstruction (d : Draft) (line : Nat) (i : Instruction) :
    Grows d (d.addInstruction line i) := by
  cases i <;> exact ⟨fun _ h => h, fun _ h => h⟩

theorem grows_addKeyword (d : Draft) (line : Nat) (keyword tail : String) :
    Grows d (d.addKeyword line keyword tail) := by
  unfold addKeyword
  split
  · exact grows_note _ _ _
  · split
    · split
      · exact (grows_addInstruction d line _).trans (grows_note _ _ _)
      · exact grows_note _ _ _
    · exact grows_note _ _ _

theorem grows_addLine (d : Draft) (line : Nat) (text : String) : Grows d (d.addLine line text) := by
  unfold addLine
  split
  · exact Grows.refl d
  · exact grows_addLabel d line _
  · exact grows_addKeyword d line _ _

theorem grows_addLines (d : Draft) (n : Nat) (texts : List String) :
    Grows d (d.addLines n texts) := by
  induction texts generalizing d n with
  | nil => exact Grows.refl d
  | cons text texts ih => exact (grows_addLine d n text).trans (ih _ _)

/-! ### Where labels stand -/

theorem labelsInside_addLabel {d : Draft} (h : d.LabelsInside) (line : Nat) (label : String) :
    (d.addLabel line label).LabelsInside := by
  unfold addLabel
  split
  · exact h
  · split
    · exact h
    · intro other index hi
      by_cases ho : other = label
      · subst ho
        simp only [KeyMap.get?_insert_self, Option.some.injEq] at hi
        exact Nat.le_of_eq hi.symm
      · rw [KeyMap.get?_insert_of_ne _ ho] at hi
        exact h hi

theorem labelsInside_addInstruction {d : Draft} (h : d.LabelsInside) (line : Nat)
    (i : Instruction) : (d.addInstruction line i).LabelsInside := by
  cases i with
  | declare declaration => exact h
  | execute statement =>
      intro label index hi
      have := h hi
      simp only [addInstruction, Array.size_push]
      omega

theorem labelsInside_addKeyword {d : Draft} (h : d.LabelsInside) (line : Nat)
    (keyword tail : String) : (d.addKeyword line keyword tail).LabelsInside := by
  unfold addKeyword
  split
  · exact h
  · split
    · split
      · exact labelsInside_addInstruction h line _
      · exact h
    · exact h

theorem labelsInside_addLine {d : Draft} (h : d.LabelsInside) (line : Nat) (text : String) :
    (d.addLine line text).LabelsInside := by
  unfold addLine
  split
  · exact h
  · exact labelsInside_addLabel h line _
  · exact labelsInside_addKeyword h line _ _

theorem labelsInside_addLines {d : Draft} (h : d.LabelsInside) (n : Nat) (texts : List String) :
    (d.addLines n texts).LabelsInside := by
  induction texts generalizing d n with
  | nil => exact h
  | cons text texts ih => exact ih (labelsInside_addLine h n text) _

theorem labelsInside_ofText (text : String) : (ofText text).LabelsInside := by
  refine labelsInside_addLines (d := {}) ?_ 1 _
  intro label index h
  simp [KeyMap.get?, KeyMap.empty] at h

/-- **The finished draft has landed.** -/
theorem landed_undeclared {d : Draft} (h : d.LabelsInside) : d.undeclared.Landed where
  label_lt {label index} hi := by
    change d.labels.get? label = some index at hi
    change index < (Script.closed _).size
    refine Nat.lt_of_lt_of_le ?_ (Script.size_le_closed _)
    have hle := h hi
    split
    · simp only [Array.size_push]
      omega
    · -- no label stands at the end, so this one stands before it
      rename_i hnone
      have hne : index ≠ d.statements.size := by
        intro heq
        refine hnone (List.any_eq_true.2 ⟨(label, index), KeyMap.mem_of_get? hi, ?_⟩)
        simp [heq]
      omega
  last_finish hne := Script.back?_closed hne

/-! ### Labels that are declared -/

theorem contains_label_addLine {d : Draft} {line : Nat} {text label : String}
    (hl : Line.ofText text = .label label) (h : (d.addLine line text).Faultless) :
    (d.addLine line text).labels.contains label = true := by
  simp only [addLine, hl, addLabel] at h ⊢
  split at h
  · exact absurd h (not_faultless_note d line _)
  · rename_i hlabel
    split at h
    · exact absurd h (not_faultless_note d line _)
    · rename_i htwice
      rw [if_neg hlabel, if_neg htwice]
      simp [KeyMap.contains]

/-- **A text without faults sets every label it declares.** -/
theorem contains_label_of_mem {d : Draft} {n : Nat} {texts : List String} {text label : String}
    (hm : text ∈ texts) (hl : Line.ofText text = .label label) (h : (d.addLines n texts).Faultless) :
    (d.addLines n texts).labels.contains label = true := by
  induction texts generalizing d n with
  | nil => simp at hm
  | cons first texts ih =>
      rcases List.mem_cons.1 hm with rfl | hm
      · have grown : Grows (d.addLine n text) (d.addLines n (text :: texts)) := grows_addLines _ _ _
        exact grown.labels label (contains_label_addLine hl (grown.faultless h))
      · exact ih hm h

end Draft

/-! ### Declarations leave statements and labels alone -/

theorem Declaration.refine_code (s : Script) (keyword : String) (f : Parameter → Parameter) :
    (Declaration.refine s keyword f).1.statements = s.statements ∧
      (Declaration.refine s keyword f).1.labels = s.labels := by
  unfold Declaration.refine
  split <;> exact ⟨rfl, rfl⟩

theorem Declaration.apply_code (d : Declaration) (s : Script) :
    (d.apply s).1.statements = s.statements ∧ (d.apply s).1.labels = s.labels := by
  cases d with
  | type t => exact Declaration.refine_code s _ _
  | standIn text => exact Declaration.refine_code s _ _
  | description text => simp only [Declaration.apply]; split <;> exact ⟨rfl, rfl⟩
  | command word => simp only [Declaration.apply]; split <;> exact ⟨rfl, rfl⟩
  | parameter new required seeds => simp only [Declaration.apply]; split <;> exact ⟨rfl, rfl⟩
  | _ => exact ⟨rfl, rfl⟩

theorem Declaring.addAll_code (d : Declaring) (ds : List (Nat × Declaration)) :
    (d.addAll ds).script.statements = d.script.statements ∧
      (d.addAll ds).script.labels = d.script.labels := by
  induction ds generalizing d with
  | nil => exact ⟨rfl, rfl⟩
  | cons a ds ih =>
      obtain ⟨hs, hl⟩ := ih (d.add a.1 a.2)
      obtain ⟨hs', hl'⟩ := Declaration.apply_code a.2 d.script
      exact ⟨hs.trans hs', hl.trans hl'⟩

/-- What a compiled script takes from the draft of its text, in which there is no fault. -/
theorem compile_draft {text name : String} {script : Script}
    (hc : (compile text name).result = .ok script) :
    script.statements = (Draft.ofText text).undeclared.statements ∧
      script.labels = (Draft.ofText text).labels ∧ (Draft.ofText text).Faultless := by
  simp only [compile] at hc
  split at hc
  · rename_i hnone
    simp only [Except.ok.injEq] at hc
    subst hc
    obtain ⟨hs, hl⟩ := Declaring.addAll_code { script := (Draft.ofText text).undeclared }
      (Draft.ofText text).declarations.toList
    refine ⟨hs, hl, ?_⟩
    intro f hf
    have hall := List.filterMap_eq_nil_iff.1 (List.isEmpty_iff.1 hnone)
    exact hall f (by simp [hf])
  · simp at hc

theorem landed_of_compile {text name : String} {script : Script}
    (hc : (compile text name).result = .ok script) : script.Landed := by
  obtain ⟨hs, hl, _⟩ := compile_draft hc
  have landed := Draft.landed_undeclared (Draft.labelsInside_ofText text)
  exact ⟨fun hi => by rw [hl] at hi; rw [hs]; exact landed.label_lt hi,
    fun hne => by rw [hs] at hne ⊢; exact landed.last_finish hne⟩

/-! ### Runs stay inside -/

namespace Invocation

/-- The cursor is on a statement. -/
def OnStatement (i : Invocation) : Prop := i.cursor < i.script.statements.size

/-- After a statement that does not end the run there is another one. -/
theorem succ_lt_of_exec {i : Invocation} (landed : i.script.Landed) {st : Statement}
    (ready : i.ready? = some st) (hne : st ≠ .finish) :
    i.cursor + 1 < i.script.statements.size := by
  obtain ⟨_, hat⟩ := ready?_eq_some.1 ready
  obtain ⟨hlt, hget⟩ := Array.getElem?_eq_some_iff.1 hat
  have hback : i.script.statements.back? = some .finish :=
    landed.last_finish (by rintro h; simp [h] at hlt)
  rw [Array.back?_eq_getElem?] at hback
  refine Nat.lt_of_le_of_ne hlt ?_
  intro hlast
  have hcursor : i.script.statements.size - 1 = i.cursor := by omega
  rw [hcursor, hat] at hback
  exact hne (Option.some_inj.1 hback)

/-- **A step that goes on stays inside the statements.** -/
theorem Moves.onStatement {i j : Invocation} {h h' : Host} (landed : i.script.Landed)
    (m : i.Moves h (.goesOn j) h') : j.OnStatement := by
  cases m with
  | next ready exec =>
      refine succ_lt_of_exec landed ready ?_
      rintro rfl
      simp [Session.exec] at exec
  | jumps _ _ found => exact landed.label_lt found

/-- So does a step that suspends the run. -/
theorem Moves.onStatement_of_suspended {i : Invocation} {s : Suspension} {h h' : Host}
    (landed : i.script.Landed) (m : i.Moves h (.stops (.suspended s)) h') :
    s.invocation.OnStatement := by
  cases m with
  | sleeps ready exec pos =>
      refine succ_lt_of_exec landed ready ?_
      rintro rfl
      simp [Session.exec] at exec

theorem Passes.onStatement {n : Nat} {i j : Invocation} {h g : Host} (landed : i.script.Landed)
    (p : Passes n i h j g) (hi : i.OnStatement ∨ 0 < n) : j.OnStatement := by
  induction p with
  | refl => exact hi.elim id fun hn => absurd hn (Nat.lt_irrefl 0)
  | head step _ ih =>
      have m := Moves.of_step step
      exact ih (m.script_eq ▸ landed) (Or.inl (m.onStatement landed))

/-- **A run that can be resumed is at a statement**, unless the script has none. -/
theorem ResumedFrom.onStatement {script : Script} {context : Context} {i : Invocation}
    (landed : script.Landed) (hi : ResumedFrom { script, context } i) :
    i.script = script ∧ (script.statements ≠ #[] → i.OnStatement) := by
  induction hi with
  | start => exact ⟨rfl, fun hne => Array.size_pos_iff.2 hne⟩
  | @resume fuel i s h h' _ run c ih =>
      obtain ⟨rfl, _⟩ := ih
      obtain ⟨n, j, g, _, p, m⟩ := run_stopped run (by simp)
      have inside := m.onStatement_of_suspended (p.script_eq ▸ landed)
      have same : s.invocation.script = i.script := m.script_eq_of_suspended.trans p.script_eq
      exact ⟨same, fun _ => inside⟩

end Invocation

/-- **No run of a compiled script leaves its statements.**  Labels are indices of statements and the
last statement is an `end`; so wherever a run is, right from its start or after any number of sleeps,
the cursor is on a statement, a run can be past the last statement only if there is none, and a label
can be missing only if no line declares it. -/
theorem compile_landed {text name : String} {script : Script}
    (hc : (compile text name).result = .ok script) :
    (∀ label index, script.labels.get? label = some index → index < script.statements.size) ∧
    (script.statements ≠ #[] → script.statements.back? = some .finish) ∧
    ∀ (context : Context) (i : Invocation), Invocation.ResumedFrom { script, context } i →
      ∀ (fuel : Nat) (h h' : Host) (o : Outcome), i.run fuel h = (o, h') →
        (∀ j, o = .unfinished j →
          j.cursor < script.statements.size ∨ (script.statements = #[] ∧ fuel = 0)) ∧
        (∀ s, o = .suspended s → s.invocation.cursor < script.statements.size) ∧
        (∀ values, o = .completed .pastLast values → script.statements = #[]) ∧
        (∀ label values, o = .completed (.missingLabel label) values →
          ∀ line ∈ Text.lines text, Line.ofText line ≠ .label label) := by
  have landed := landed_of_compile hc
  refine ⟨fun _ _ => landed.label_lt, landed.last_finish, ?_⟩
  intro context i hi fuel h h' o run
  obtain ⟨rfl, onStatement⟩ := hi.onStatement landed
  refine ⟨?_, ?_, ?_, ?_⟩
  · rintro j rfl
    rcases Invocation.run_cases run with ⟨j', hj, p⟩ | ⟨n, j', g, _, _, hstop⟩
    · cases hj
      by_cases hempty : i.script.statements = #[]
      · cases fuel with
        | zero => exact Or.inr ⟨hempty, rfl⟩
        | succ fuel =>
            exact Or.inl (p.script_eq ▸ p.onStatement landed (Or.inr (Nat.succ_pos fuel)))
      · exact Or.inl (p.script_eq ▸ p.onStatement landed (Or.inl (onStatement hempty)))
    · cases Invocation.Moves.of_step hstop
  · rintro s rfl
    obtain ⟨n, j, g, _, p, m⟩ := Invocation.run_stopped run (by simp)
    have same := m.script_eq_of_suspended.trans p.script_eq
    exact same ▸ m.onStatement_of_suspended (p.script_eq ▸ landed)
  · rintro values rfl
    obtain ⟨n, j, g, _, p, m⟩ := Invocation.run_stopped run (by simp)
    cases m with
    | pastLast out =>
        refine Classical.byContradiction fun hne => ?_
        have inside := p.onStatement landed (Or.inl (onStatement hne))
        exact absurd (Array.getElem?_eq_none_iff.1 out) (Nat.not_le.2 inside)
  · rintro label values rfl line hline hdeclares
    obtain ⟨n, j, g, _, p, m⟩ := Invocation.run_stopped run (by simp)
    obtain ⟨_, hlabels, faultless⟩ := compile_draft hc
    cases m with
    | missingLabel _ _ missing =>
        have declared : (Draft.ofText text).labels.contains label = true :=
          Draft.contains_label_of_mem hline hdeclares faultless
        rw [p.script_eq, hlabels] at missing
        simp [KeyMap.contains, missing] at declared

/-- A label on the last line, after an `end`, and a sleep before both: the label stands before an
`end` of its own. -/
theorem compile_landed_trailing_label :
    ∃ script, (compile "sleep 1\n@a\nend\n@b" "t").result = .ok script ∧
      script.labels.get? "@b" = some 2 ∧ 2 < script.statements.size ∧
      script.statements.back? = some .finish := by
  have found : ((compile "sleep 1\n@a\nend\n@b" "t").result.toOption.map
      fun s => (s.labels.get? "@b", s.statements.isEmpty)) = some (some 2, false) := by
    decide +kernel
  cases hc : (compile "sleep 1\n@a\nend\n@b" "t").result with
  | error e =>
      rw [hc] at found
      cases found
  | ok script =>
      rw [hc] at found
      simp only [Except.toOption, Option.map_some, Option.some.injEq, Prod.mk.injEq] at found
      obtain ⟨hlabel, hempty⟩ := found
      obtain ⟨inside, last, _⟩ := compile_landed hc
      exact ⟨script, rfl, hlabel, inside _ _ hlabel, last (by rintro h; simp [h] at hempty)⟩

end LineScript
