import LineScript.Proofs.LineByLine
import LineScript.Proofs.Readers

/-!
**What is said about a text is complete and in place.**

Faults are found in three passes: in the lines, in what they declare, and in the parameters as a whole.
Those of the last pass have lost their lines, and get them back from a list that is kept beside the
parameters.  Here it is shown that the list is never out of step: every parameter has there the line that
declared it.  So every fault is about a line of the text, the error has exactly the faults that are
broadcast, and a line that brings nothing into the script has a fault.

Main definitions:

* `LineScript.Draft.Gains` — a line brings a statement, a label or a declaration into the draft;
* `LineScript.Declaring.Traced` — the lines that are kept are those of the parameters;
* `LineScript.LineFault.StablySorted` — sorted by line, in the order found within a line;
* `LineScript.Text.DeclaresAt` — a line of a text is the one that declares a parameter.

Main results:

* `LineScript.Declaring.Traced.addAll` — **the line of every parameter is kept**;
* `LineScript.Draft.allFindings_place` — where what is found comes from;
* `LineScript.Draft.gains_or_fault` — a line that says something brings it in or has a fault;
* `LineScript.compile_diagnoses` — **the error is what is said, by line, and nothing is passed over**.
-/

set_option autoImplicit false

namespace LineScript

/-! ### Which parameter is at fault -/

namespace Parameter

theorem parameter_of_convert {p : Parameter} {text : String} {e : BindError}
    (h : p.convert text = .error e) : e.parameter = p.name := by
  unfold convert at h
  split at h
  · cases h
  · cases h
  · split at h <;> cases h
    rfl
  · simp only at h
    split at h <;> cases h
    rfl

/-- What is wrong with a parameter names it. -/
theorem offender_of_mem_faultsAt {p : Parameter} {optional : Option String} {isLast : Bool} {f : Fault}
    (h : f ∈ p.faultsAt optional isLast) : f.offender? = some p.name := by
  unfold faultsAt at h
  rcases List.mem_append.1 h with h | h
  · rcases List.mem_append.1 h with h | h
    · split at h
      · obtain rfl := List.mem_singleton.1 h
        rfl
      · cases h
    · split at h
      · split at h
        · obtain rfl := List.mem_singleton.1 h
          rfl
        · cases h
      · cases h
  · split at h
    · rename_i e wrong
      obtain rfl := List.mem_singleton.1 h
      obtain ⟨text, _, failed⟩ := Option.map_eq_some_iff.1 wrong
      exact congrArg some (parameter_of_convert failed)
    · cases h

/-- **What is wrong with the parameters is filed under the index of the one it names.** -/
theorem offender_of_mem_faultsFrom {ps : List Parameter} {i j : Nat} {optional : Option String}
    {f : Fault} (h : (j, f) ∈ faultsFrom i optional ps) :
    ∃ k p, j = i + k ∧ ps[k]? = some p ∧ f.offender? = some p.name := by
  induction ps generalizing i optional with
  | nil => cases h
  | cons p ps ih =>
      rcases List.mem_append.1 h with h | h
      · obtain ⟨g, mem, eq⟩ := List.mem_map.1 h
        cases eq
        exact ⟨0, p, rfl, rfl, offender_of_mem_faultsAt mem⟩
      · obtain ⟨k, q, line, hat, names⟩ := ih h
        exact ⟨k + 1, q, by omega, hat, names⟩

end Parameter

/-! ### The lines of parameters -/

/-- The parameter that a declaration declares. -/
def Declaration.parameter? : Declaration → Option String
  | parameter new _ _ => some new
  | _ => none

/-- The names of the parameters, in order. -/
def Script.parameterNames (s : Script) : List String := s.parameters.map Parameter.name

/-- A change to the last parameter keeps the names. -/
theorem Parameter.names_dropLast {ps : List Parameter} {p q : Parameter} (last : ps.getLast? = some p)
    (named : q.name = p.name) : (ps.dropLast ++ [q]).map Parameter.name = ps.map Parameter.name := by
  obtain ⟨front, rfl⟩ := List.getLast?_eq_some_iff.1 last
  simp [named]

theorem Declaration.refine_names (s : Script) (keyword : String) {f : Parameter → Parameter}
    (named : ∀ p, (f p).name = p.name) :
    (Declaration.refine s keyword f).1.parameterNames = s.parameterNames := by
  unfold Declaration.refine
  split
  · exact Parameter.names_dropLast (by assumption) (named _)
  · rfl

/-- **A declaration keeps the names of the parameters, or adds the one it declares**, which is new. -/
theorem Declaration.apply_names (d : Declaration) (s : Script) :
    ((d.apply s).1.parameterNames = s.parameterNames ∧
        ∀ new, d.parameter? = some new → new ∈ s.parameterNames) ∨
      ∃ new, d.parameter? = some new ∧ new ∉ s.parameterNames ∧
        (d.apply s).1.parameterNames = s.parameterNames ++ [new] := by
  cases d with
  | parameter new required seeds =>
      have known : s.parameters.any (·.name == new) = true ↔ new ∈ s.parameterNames := by
        simp [Script.parameterNames]
      simp only [Declaration.apply]
      split
      · rename_i old
        refine .inl ⟨rfl, ?_⟩
        rintro _ ⟨⟩
        exact known.1 old
      · rename_i fresh
        refine .inr ⟨new, rfl, fun mem => fresh (known.2 mem), ?_⟩
        simp [Script.parameterNames]
  | type t => exact .inl ⟨Declaration.refine_names s _ fun _ => rfl, fun _ hnone => by cases hnone⟩
  | standIn text => exact .inl ⟨Declaration.refine_names s _ fun _ => rfl, fun _ hnone => by cases hnone⟩
  | description text =>
      refine .inl ⟨?_, fun _ hnone => by cases hnone⟩
      simp only [Declaration.apply]
      split
      · rename_i p last
        exact Parameter.names_dropLast last rfl
      · rfl
  | command word =>
      refine .inl ⟨?_, fun _ hnone => by cases hnone⟩
      simp only [Declaration.apply]
      split <;> rfl
  | _ => exact .inl ⟨rfl, fun _ hnone => by cases hnone⟩

/-- A parameter is declared on the line, and on none before. -/
def DeclaredOn (ds : List (Nat × Declaration)) (name : String) (line : Nat) : Prop :=
  ∃ first d last, ds = first ++ (line, d) :: last ∧ d.parameter? = some name ∧
    ∀ x ∈ first, x.2.parameter? ≠ some name

theorem DeclaredOn.append {ds : List (Nat × Declaration)} {name : String} {line : Nat}
    (h : DeclaredOn ds name line) (more : List (Nat × Declaration)) :
    DeclaredOn (ds ++ more) name line := by
  obtain ⟨first, d, last, rfl, declares, before⟩ := h
  exact ⟨first, d, last ++ more, by simp, declares, before⟩

namespace Declaring

/-- **The lines that are kept are those of the parameters**: each one's is the first line that declares
it. -/
structure Traced (c : Declaring) (ds : List (Nat × Declaration)) : Prop where
  size : c.parameterLines.size = c.script.parameterNames.length
  line : ∀ {i : Nat} {name}, c.script.parameterNames[i]? = some name →
    ∃ k, c.parameterLines[i]? = some k ∧ DeclaredOn ds name k
  known : ∀ x ∈ ds, ∀ name, x.2.parameter? = some name → name ∈ c.script.parameterNames

/-- What a declaration does to the lines that are kept. -/
theorem add_parameterLines (c : Declaring) (k : Nat) (d : Declaration) :
    (c.add k d).parameterLines =
      if c.script.parameterNames.length < (d.apply c.script).1.parameterNames.length
      then c.parameterLines.push k else c.parameterLines := by
  simp [add, Script.parameterNames]

theorem Traced.add {c : Declaring} {ds : List (Nat × Declaration)} (h : c.Traced ds) (k : Nat)
    (d : Declaration) : (c.add k d).Traced (ds ++ [(k, d)]) := by
  have lines := c.add_parameterLines k d
  have script : (c.add k d).script.parameterNames = (d.apply c.script).1.parameterNames := rfl
  rcases d.apply_names c.script with ⟨kept, old⟩ | ⟨new, declares, fresh, added⟩
  · -- nothing is declared, or what is declared was before
    rw [kept] at script
    rw [kept, if_neg (Nat.lt_irrefl _)] at lines
    refine ⟨by rw [lines, script]; exact h.size, ?_, ?_⟩
    · intro i name hat
      rw [script] at hat
      obtain ⟨line, eq, on⟩ := h.line hat
      exact ⟨line, by rw [lines, eq], on.append _⟩
    · intro x mem name declares
      rw [script]
      rcases List.mem_append.1 mem with mem | mem
      · exact h.known x mem name declares
      · obtain rfl := List.mem_singleton.1 mem
        exact old name declares
  · have longer : c.script.parameterNames.length < (c.script.parameterNames ++ [new]).length := by simp
    rw [added] at script
    rw [added, if_pos longer] at lines
    refine ⟨by rw [lines, script]; simp [h.size], ?_, ?_⟩
    · intro i name hat
      rw [script] at hat
      rw [lines]
      by_cases inside : i < c.script.parameterNames.length
      · rw [List.getElem?_append_left inside] at hat
        obtain ⟨line, eq, on⟩ := h.line hat
        refine ⟨line, ?_, on.append _⟩
        rw [Array.getElem?_push, if_neg (by rw [h.size]; omega), eq]
      · -- the new one is the last, and so is its line
        have bound := (List.getElem?_eq_some_iff.1 hat).1
        simp only [List.length_append, List.length_singleton] at bound
        obtain rfl : i = c.script.parameterNames.length := by omega
        rw [List.getElem?_concat_length] at hat
        obtain rfl := Option.some.inj hat
        refine ⟨k, by rw [Array.getElem?_push, if_pos h.size.symm], ds, d, [], rfl, declares, ?_⟩
        exact fun x mem same => fresh (h.known x mem new same)
    · intro x mem name same
      rw [script, List.mem_append]
      rcases List.mem_append.1 mem with mem | mem
      · exact .inl (h.known x mem name same)
      · obtain rfl := List.mem_singleton.1 mem
        rw [declares] at same
        exact .inr (List.mem_singleton.2 (Option.some.inj same).symm)

/-- **The line of every parameter is kept.** -/
theorem Traced.addAll {c : Declaring} {before : List (Nat × Declaration)} (h : c.Traced before)
    (ds : List (Nat × Declaration)) : (c.addAll ds).Traced (before ++ ds) := by
  induction ds generalizing c before with
  | nil => simpa [Declaring.addAll] using h
  | cons x ds ih =>
      have next := ih (h.add x.1 x.2)
      rw [List.append_assoc] at next
      exact next

/-- What is wrong with the parameters as a whole is found about the line of the one at fault. -/
theorem Traced.parameterFindings {c : Declaring} {ds : List (Nat × Declaration)} (h : c.Traced ds)
    {f : LineFinding} (mem : f ∈ c.parameterFindings) :
    ∃ fault name, f.finding = .fault fault ∧ fault.offender? = some name ∧ DeclaredOn ds name f.line := by
  obtain ⟨⟨i, fault⟩, wrong, rfl⟩ := List.mem_map.1 mem
  obtain ⟨k, p, index, hat, offends⟩ := Parameter.offender_of_mem_faultsFrom wrong
  obtain rfl : i = k := by omega
  have named : c.script.parameterNames[i]? = some p.name := by simp [Script.parameterNames, hat]
  obtain ⟨line, eq, on⟩ := h.line named
  exact ⟨fault, p.name, rfl, offends, by simpa [Array.getD_eq_getD_getElem?, eq] using on⟩

end Declaring

/-! ### Where what is found comes from -/

theorem Declaration.apply_ofLine (d : Declaration) (s : Script) : ∀ f ∈ (d.apply s).2, f.OfLine := by
  have refined : ∀ (keyword : String) (g : Parameter → Parameter),
      ∀ f ∈ (Declaration.refine s keyword g).2, f.OfLine := by
    intro keyword g f mem
    unfold Declaration.refine at mem
    split at mem
    · cases mem
    · obtain rfl := List.mem_singleton.1 mem
      rfl
  intro f mem
  cases d with
  | type t => exact refined _ _ f mem
  | standIn text => exact refined _ _ f mem
  | description text =>
      simp only [Declaration.apply] at mem
      split at mem <;> cases mem
  | interval seconds => cases mem
  | special t => cases mem
  | parameter new required seeds =>
      simp only [Declaration.apply] at mem
      split at mem
      · obtain rfl := List.mem_singleton.1 mem
        rfl
      · cases mem
  | command word =>
      simp only [Declaration.apply] at mem
      split at mem
      · obtain rfl := List.mem_singleton.1 mem
        trivial
      · cases mem
  | _ =>
      simp only [Declaration.apply] at mem
      split at mem
      · obtain rfl := List.mem_singleton.1 mem
        trivial
      · cases mem

namespace Draft

/-- What is found about a line when it is read is about that line alone. -/
theorem addLine_ofLine (d : Draft) (n : Nat) (text : String) :
    ∃ fs : List Finding,
      (d.addLine n text).findings = d.findings ++ (fs.map (LineFinding.mk n)).toArray ∧
        ∀ f ∈ fs, f.OfLine := by
  have hnone : d.findings = d.findings ++ (([] : List Finding).map (LineFinding.mk n)).toArray := by simp
  unfold addLine
  split
  · exact ⟨[], hnone, by simp⟩
  · unfold addLabel
    split
    · exact ⟨_, rfl, List.forall_mem_singleton.2 rfl⟩
    · split
      · exact ⟨_, rfl, List.forall_mem_singleton.2 rfl⟩
      · exact ⟨[], hnone, by simp⟩
  · rename_i keyword tail _
    unfold addKeyword
    split
    · exact ⟨_, rfl, List.forall_mem_singleton.2 rfl⟩
    · rename_i read known
      obtain ⟨new, found, own⟩ := (Instruction.settles_reader known tail).adds []
      rw [List.nil_append] at found
      split
      · rename_i i fs outcome
        rw [outcome] at found
        obtain rfl : fs = new := found
        split
        · exact ⟨fs, by cases i <;> rfl, own⟩
        · exact ⟨fs, rfl, own⟩
      · rename_i fs outcome
        rw [outcome] at found
        obtain rfl : fs = new := found
        refine ⟨_, rfl, ?_⟩
        split
        · exact List.forall_mem_append.2 ⟨own, List.forall_mem_singleton.2 rfl⟩
        · exact own

theorem addLines_ofLine (d : Draft) (n : Nat) (texts : List String)
    (own : ∀ f ∈ d.findings, f.finding.OfLine) :
    ∀ f ∈ (d.addLines n texts).findings, f.finding.OfLine := by
  induction texts generalizing d n with
  | nil => exact own
  | cons text texts ih =>
      refine ih _ _ fun f mem => ?_
      obtain ⟨fs, eq, found⟩ := d.addLine_ofLine n text
      rw [eq] at mem
      rcases Array.mem_append.1 mem with mem | mem
      · exact own f mem
      · obtain ⟨g, hg, rfl⟩ := List.mem_map.1 (List.mem_toArray.1 mem)
        exact found g hg

end Draft

theorem Declaring.addAll_ofLine (c : Declaring) (ds : List (Nat × Declaration))
    (own : ∀ f ∈ c.findings, f.finding.OfLine) :
    ∀ f ∈ (c.addAll ds).findings, f.finding.OfLine := by
  induction ds generalizing c with
  | nil => exact own
  | cons x ds ih =>
      refine ih (c.add x.1 x.2) fun f mem => ?_
      rcases Array.mem_append.1 mem with mem | mem
      · exact own f mem
      · obtain ⟨g, hg, rfl⟩ := List.mem_map.1 (List.mem_toArray.1 mem)
        exact Declaration.apply_ofLine x.2 c.script g hg

namespace Draft

/-- What is found in the first two passes is about a line of the text. -/
theorem line_of_mem {texts : List String} {f : LineFinding}
    (mem : f ∈ (({} : Draft).addLines 1 texts).findings ∨
      f ∈ (({} : Draft).addLines 1 texts).declaring.findings) :
    1 ≤ f.line ∧ f.line ≤ texts.length := by
  refine Decidable.byContradiction fun outside => ?_
  obtain ⟨⟨fs, found, about⟩, ds, declared, on⟩ :=
    ({} : Draft).addLines_others (k := f.line) (n := 1) texts (by omega)
  rcases mem with mem | mem
  · rw [found] at mem
    exact about f (by simpa using mem) rfl
  · have elsewhere : ∀ x ∈ (({} : Draft).addLines 1 texts).declarations.toList, x.1 ≠ f.line := by
      rw [declared]
      exact fun x hx => on x (by simpa using hx)
    obtain ⟨⟨gs, all, lines⟩, _⟩ := Declaring.addAll_others
      { script := (({} : Draft).addLines 1 texts).undeclared } _ elsewhere
    rw [declaring, all] at mem
    exact lines f (by simpa using mem) rfl

end Draft

/-- The parameter that a line declares. -/
def Item.parameter? (item : Item) : Option String := item.declaration?.bind Declaration.parameter?

/-- **A line of a text is the one that declares a parameter**: no line before it does. -/
def Text.DeclaresAt (text name : String) (k : Nat) : Prop :=
  ∃ before line after, Text.lines text = before ++ line :: after ∧ k = before.length + 1 ∧
    (Item.ofText line).parameter? = some name ∧
    ∀ earlier ∈ before, (Item.ofText earlier).parameter? ≠ some name

theorem Text.DeclaresAt.le {text name : String} {k : Nat} (h : Text.DeclaresAt text name k) :
    1 ≤ k ∧ k ≤ (Text.lines text).length := by
  obtain ⟨before, line, after, split, rfl, _⟩ := h
  rw [split, List.length_append, List.length_cons]
  omega

theorem Item.mem_numbered {n : Nat} {items : List Item} {d : Declaration}
    (mem : Item.declaration d ∈ items) : ∃ k, (k, d) ∈ Item.numbered n items := by
  induction items generalizing n with
  | nil => cases mem
  | cons item items ih =>
      rw [Item.numbered]
      rcases List.mem_cons.1 mem with rfl | mem
      · exact ⟨n, List.mem_append_left _ (by simp [Item.declaration?])⟩
      · obtain ⟨k, later⟩ := ih (n := n + 1) mem
        exact ⟨k, List.mem_append_right _ later⟩

/-- The line that a declaration is numbered with is the line it stands on. -/
theorem Text.declaresAt_of_declaredOn {text name : String} {k : Nat}
    (h : DeclaredOn (Draft.ofText text).declarations.toList name k) : Text.DeclaresAt text name k := by
  obtain ⟨first, d, last, split, declares, fresh⟩ := h
  rw [Draft.ofText, Draft.addLines_declarations] at split
  obtain ⟨before, after, items, line, numbers⟩ := Item.numbered_eq_append split
  obtain ⟨earlier, rest, texts, rfl, tail⟩ := List.map_eq_append_iff.1 items
  obtain ⟨text', later, rfl, is, rfl⟩ := List.map_eq_cons_iff.1 tail
  refine ⟨earlier, text', later, texts, ?_, ?_, ?_⟩
  · rw [List.length_map] at line
    omega
  · rw [is]
    exact declares
  · intro other mem same
    cases kind : (Item.ofText other).declaration? with
    | none => simp [Item.parameter?, kind] at same
    | some x =>
        have among : Item.declaration x ∈ earlier.map Item.ofText :=
          List.mem_map.2 ⟨other, mem, Item.declaration?_eq_some kind⟩
        obtain ⟨j, numbered⟩ := Item.mem_numbered (n := 1) among
        rw [numbers] at numbered
        refine fresh (j, x) numbered ?_
        simpa [Item.parameter?, kind] using same

/-- **Where what is found comes from**: it is about a line by itself, or about the parameters as a whole,
and then the line is the one that declared the parameter at fault. -/
theorem Draft.allFindings_place {text : String} {f : LineFinding}
    (mem : f ∈ (Draft.ofText text).allFindings) :
    (f.finding.OfLine ∧ 1 ≤ f.line ∧ f.line ≤ (Text.lines text).length) ∨
      ∃ fault name, f.finding = .fault fault ∧ fault.offender? = some name ∧
        Text.DeclaresAt text name f.line := by
  rcases List.mem_append.1 mem with mem | mem
  · refine .inl ?_
    rcases List.mem_append.1 mem with mem | mem
    · rw [Array.mem_toList_iff] at mem
      exact ⟨Draft.addLines_ofLine {} 1 _ (by simp) f mem, Draft.line_of_mem (.inl mem)⟩
    · rw [Array.mem_toList_iff] at mem
      exact ⟨Declaring.addAll_ofLine _ _ (by simp) f mem, Draft.line_of_mem (.inr mem)⟩
  · have start : ({ script := (Draft.ofText text).undeclared } : Declaring).Traced [] :=
      ⟨rfl, fun hat => (by cases hat), fun x mem => (by cases mem)⟩
    have traced := start.addAll (Draft.ofText text).declarations.toList
    obtain ⟨fault, name, eq, offends, on⟩ := traced.parameterFindings mem
    exact .inr ⟨fault, name, eq, offends, Text.declaresAt_of_declaredOn on⟩

/-! ### Lines that say something -/

/-- **A line brings something into the draft**: a statement, a label that was not set, or a declaration
that takes effect after those before it. -/
inductive Draft.Gains (d : Draft) (n : Nat) (line : String) : Prop
  | statement {s : Statement} (pushed : (d.addLine n line).statements = d.statements.push s)
  | label {l : String} (new : d.labels.contains l = false)
      (set : (d.addLine n line).labels = d.labels.insert l d.statements.size)
  | declaration {x : Declaration}
      (pushed : (d.addLine n line).declarations = d.declarations.push (n, x))
      (applied : sound (x.apply d.declaring.script).2 = true)

/-- What is found about a declaration in the middle of others. -/
theorem Declaring.mem_addAll {c : Declaring} {first : List (Nat × Declaration)} {d : Declaration}
    {f : Finding} (mem : f ∈ (d.apply (c.addAll first).script).2) (k : Nat)
    (last : List (Nat × Declaration)) :
    ⟨k, f⟩ ∈ (c.addAll (first ++ (k, d) :: last)).findings := by
  have kept : ∀ (e : Declaring) (ds : List (Nat × Declaration)), ∀ g ∈ e.findings,
      g ∈ (e.addAll ds).findings := by
    intro e ds
    induction ds generalizing e with
    | nil => exact fun g mem => mem
    | cons x ds ih => exact fun g mem => ih (e.add x.1 x.2) g (Array.mem_append_left _ mem)
  rw [addAll_append]
  refine kept ((c.addAll first).add k d) last _ (Array.mem_append_right _ ?_)
  exact List.mem_toArray.2 (List.mem_map_of_mem mem)

namespace Draft

/-- A fault that is found about a declaration does not depend on statements and labels. -/
theorem apply_declaring (d e : Draft) (x : Declaration) :
    (x.apply d.declaring.script).2 =
      (x.apply (({ script := e.undeclared } : Declaring).addAll d.declarations.toList).script).2 := by
  have other : (({ script := e.undeclared } : Declaring).addAll d.declarations.toList).script =
      (({} : Script).declared (d.declarations.toList.map Prod.snd)).withCode e.finishedStatements
        e.labels := (Declaring.addAll_script _ _).trans (Script.declared_withCode {} _ _ _)
  rw [declaring_script, other, Declaration.apply_withCode, Declaration.apply_withCode]

/-- **A line that says something brings it in or has a fault.** -/
theorem gains_or_fault (d : Draft) (n : Nat) {line : String} (speaks : Line.Speaks line)
    (after : List String) :
    d.Gains n line ∨ ∃ f, ⟨n, .fault f⟩ ∈ ((d.addLine n line).addLines (n + 1) after).allFindings := by
  have grown := (grows_addLines (d.addLine n line) (n + 1) after).findings
  -- a fault that was noted when the line was read is still there in the end
  have noted : ∀ f, ⟨n, .fault f⟩ ∈ (d.addLine n line).findings →
      ∃ f, ⟨n, .fault f⟩ ∈ ((d.addLine n line).addLines (n + 1) after).allFindings :=
    fun f mem => ⟨f, List.mem_append_left _
      (List.mem_append_left _ (Array.mem_toList_iff.2 (grown _ mem)))⟩
  have takes := d.takes_addLine n line
  generalize item : Item.ofText line = it at takes
  generalize read : d.addLine n line = e at takes noted ⊢
  cases takes with
  | nothing => exact absurd speaks (Item.ofText_eq_nothing.1 item)
  | label new => exact .inl (.label new (by rw [read]))
  | @twice l old => exact .inr (noted (.labelTwice l) (by simp [note]))
  | statement clean => exact .inl (.statement (by rw [read]; rfl))
  | refused wrong =>
      obtain ⟨f, mem⟩ := exists_fault_of_unsound wrong
      exact .inr (noted f (by simp [note, mem]))
  | @declaration x fs clean =>
      cases applied : sound (x.apply d.declaring.script).2 with
      | true => exact .inl (.declaration (by rw [read]; rfl) applied)
      | false =>
          obtain ⟨f, mem⟩ := exists_fault_of_unsound applied
          refine .inr ⟨f, List.mem_append_left _ (List.mem_append_right _ (Array.mem_toList_iff.2 ?_))⟩
          rw [apply_declaring d (addLines _ (n + 1) after)] at mem
          rw [declaring, addLines_declarations]
          simpa [note, addInstruction] using
            Declaring.mem_addAll mem n (Item.numbered (n + 1) (after.map Item.ofText))

end Draft

/-! ### The error and what is said -/

namespace LineFault

/-- What is said about a fault, as it is broadcast about the named text. -/
def broadcast (name : String) (f : LineFault) : Broadcast :=
  ⟨.error, s!"{name}:{f.line}", f.fault.message⟩

/-- **Sorted by line**, and in the order found within each line. -/
structure StablySorted (found sorted : List LineFault) : Prop where
  perm : sorted.Perm found
  ordered : sorted.Pairwise fun a b => a.line ≤ b.line
  stable : ∀ k, sorted.filter (fun f => f.line = k) = found.filter fun f => f.line = k

theorem stablySorted_mergeSort (found : List LineFault) :
    StablySorted found (found.mergeSort fun a b => a.line ≤ b.line) := by
  have trans : ∀ a b c : LineFault, decide (a.line ≤ b.line) = true → decide (b.line ≤ c.line) = true →
      decide (a.line ≤ c.line) = true := by
    intro a b c
    simp only [decide_eq_true_eq]
    omega
  have total : ∀ a b : LineFault, (decide (a.line ≤ b.line) || decide (b.line ≤ a.line)) = true := by
    intro a b
    simp only [Bool.or_eq_true, decide_eq_true_eq]
    omega
  have perm := List.mergeSort_perm found fun a b => decide (a.line ≤ b.line)
  refine ⟨perm, ?_, fun k => ?_⟩
  · simpa using List.pairwise_mergeSort trans total found
  · -- the faults of a line are in order already, so sorting keeps them as they are
    have same : (found.filter fun f => f.line = k).Pairwise
        fun a b => decide (a.line ≤ b.line) = true := by
      refine List.pairwise_of_forall_mem_list fun a ha b hb => ?_
      simp only [List.mem_filter, decide_eq_true_eq] at ha hb ⊢
      omega
    have inside := List.sublist_mergeSort trans total same List.filter_sublist
    have filtered := inside.filter fun f : LineFault => decide (f.line = k)
    rw [List.filter_filter] at filtered
    simp only [Bool.and_self] at filtered
    exact (filtered.eq_of_length (perm.filter _).length_eq.symm).symm

end LineFault

theorem LineFinding.eq_of_fault? {g : LineFinding} {f : LineFault} (h : g.fault? = some f) :
    g = ⟨f.line, .fault f.fault⟩ := by
  obtain ⟨line, finding⟩ := g
  cases finding <;> cases h
  rfl

/-- The place of a fault: a line of the text, which declared the parameter if one is at fault. -/
theorem Draft.faults_place {text : String} {f : LineFault} (mem : f ∈ (Draft.ofText text).faults) :
    1 ≤ f.line ∧ f.line ≤ (Text.lines text).length ∧
      ∀ p, f.fault.offender? = some p → Text.DeclaresAt text p f.line := by
  obtain ⟨g, among, fault⟩ := List.mem_filterMap.1 mem
  obtain rfl := LineFinding.eq_of_fault? fault
  rcases Draft.allFindings_place among with ⟨own, first, last⟩ | ⟨_, name, eq, offends, on⟩
  · refine ⟨first, last, fun p offends => ?_⟩
    rw [show f.fault.offender? = none from own] at offends
    cases offends
  · cases eq
    refine ⟨on.le.1, on.le.2, fun p same => ?_⟩
    rw [offends] at same
    exact Option.some.inj same ▸ on

/-- The messages at the level of errors are those of the faults, in the order found. -/
theorem filter_error_broadcast (name : String) (fs : List LineFinding) :
    (fs.map (LineFinding.broadcast name)).filter (fun b => b.level = .error) =
      (fs.filterMap LineFinding.fault?).map (LineFault.broadcast name) := by
  induction fs with
  | nil => rfl
  | cons f fs ih =>
      obtain ⟨line, finding⟩ := f
      rw [List.map_cons]
      cases finding with
      | fault g =>
          rw [List.filter_cons_of_pos rfl, ih]
          rfl
      | caution c =>
          rw [List.filter_cons_of_neg (by simp [LineFinding.broadcast, Finding.broadcast, Finding.level]),
            ih]
          rfl

/-- **What is said about a text is complete and in place.**  There is a script just if no error is said;
else the error lists what was said, sorted by line.  Every line is one of the text, a fault of the
parameters as a whole is on the line that declared the one at fault, and each line is in the script,
says nothing or is spoken of. -/
theorem compile_diagnoses (text name : String) :
    ((∃ script, (compile text name).result = .ok script) ↔
      ∀ b ∈ (compile text name).broadcasts, b.level ≠ .error) ∧
    (∀ e, (compile text name).result = .error e →
      ∃ found faults, e = .invalid name faults ∧ faults ≠ [] ∧
        (compile text name).broadcasts.filter (fun b => b.level = .error) =
          found.map (LineFault.broadcast name) ∧
        LineFault.StablySorted found faults ∧
        ∀ f ∈ faults, 1 ≤ f.line ∧ f.line ≤ (Text.lines text).length ∧
          ∀ p, f.fault.offender? = some p → Text.DeclaresAt text p f.line) ∧
    ∀ before line after, Text.lines text = before ++ line :: after → Line.Speaks line →
      (({} : Draft).addLines 1 before).Gains (before.length + 1) line ∨
        ∃ b ∈ (compile text name).broadcasts,
          b.level = .error ∧ b.origin = s!"{name}:{before.length + 1}" := by
  have said := compile_broadcasts text name
  have errors := filter_error_broadcast name (Draft.ofText text).allFindings
  rw [← said] at errors
  change _ = (Draft.ofText text).faults.map _ at errors
  refine ⟨?_, ?_, ?_⟩
  · rw [compile_eq_ok_iff, ← List.map_eq_nil_iff (f := LineFault.broadcast name), ← errors,
      List.filter_eq_nil_iff]
    simp
  · intro e failed
    have wrong : (Draft.ofText text).faults ≠ [] := by
      intro hnone
      obtain ⟨script, ok⟩ := (@compile_eq_ok_iff text name).2 hnone
      rw [ok] at failed
      cases failed
    rw [compile_eq_error wrong] at failed
    have sorted := LineFault.stablySorted_mergeSort (Draft.ofText text).faults
    refine ⟨_, _, (Except.error.inj failed).symm, ?_, errors, sorted, ?_⟩
    · exact fun hnone => wrong (by simpa [hnone] using sorted.perm.symm)
    · exact fun f mem => Draft.faults_place (sorted.perm.mem_iff.1 mem)
  · intro before line after lines speaks
    rcases Draft.gains_or_fault (({} : Draft).addLines 1 before) (before.length + 1) speaks after with
      gains | ⟨f, mem⟩
    · exact .inl gains
    · refine .inr ⟨(LineFinding.mk (before.length + 1) (.fault f)).broadcast name, ?_, rfl, rfl⟩
      rw [said, Draft.ofText, lines, Draft.addLines_append, Nat.add_comm 1]
      exact List.mem_map_of_mem mem

/-- A required parameter after an optional one, and a line without a keyword: the former is found last. -/
def misplaced : String := "optional a\nrequired b\nnonsense\n"

/-- The fault of the parameters comes first in the error, on the line that declared the second one. -/
theorem compile_diagnoses_misplaced :
    (compile misplaced "s").result =
        .error (.invalid "s" [⟨2, .requiredAfterOptional "b" "a"⟩, ⟨3, .unknownKeyword "nonsense"⟩]) ∧
      Text.DeclaresAt misplaced "b" 2 := by
  have found : (Draft.ofText misplaced).faults =
      [⟨3, .unknownKeyword "nonsense"⟩, ⟨2, .requiredAfterOptional "b" "a"⟩] := by decide +kernel
  have failed : (compile misplaced "s").result =
      .error (.invalid "s" [⟨2, .requiredAfterOptional "b" "a"⟩, ⟨3, .unknownKeyword "nonsense"⟩]) := by
    rw [compile_eq_error (by simp [found]), found]
    simp [List.mergeSort, List.MergeSort.Internal.splitInTwo]
  obtain ⟨_, faults, same, _, _, _, place⟩ := (compile_diagnoses misplaced "s").2.1 _ failed
  obtain rfl := (CompileError.invalid.inj same).2
  exact ⟨failed, (place ⟨2, .requiredAfterOptional "b" "a"⟩ (by simp)).2.2 "b" rfl⟩

end LineScript
