import LineScript.Compile

/-!
**Faults of lines are independent.**

A text is compiled in three passes: its lines are read, then what they declare takes effect, then the
parameters are looked at as a whole.  A line that is refused when it is read leaves nothing in the draft,
and a declaration with a fault leaves the script as it was.  So a line that fails might as well be empty:
all else is read, declared and found as before.

What is found about one line and what it declares are set apart by the number of the line.  Leaving them
out commutes with reading any other line, and with any other declaration; that, and that a line that
fails changes nothing else, is all there is to it.

Main definitions:

* `LineScript.Text.blankLine` — a text with one line left empty;
* `LineScript.Draft.Reads` — what reading a line can do;
* `LineScript.Draft.without`, `LineScript.Declaring.without` — all but what a line has brought in;
* `LineScript.Draft.FailsAt` — a line has a fault of its own.

Main results:

* `LineScript.Text.lines_blankLine` — the other lines are as they were;
* `LineScript.Declaration.apply_fault` — a declaration that has a fault has no effect;
* `LineScript.Draft.declaring_without` — a line that fails leaves nothing behind but what is found about
  it;
* `LineScript.faults_independent` — **without a line that fails, all else that is said is said as
  before**.
-/

set_option autoImplicit false

namespace LineScript

/-! ### A line left empty -/

namespace Blank

/-- The text with all of its `k`-th line left out but for the line feed. -/
def blankLine : Nat → List Char → List Char
  | _, [] => []
  | k, c :: cs =>
    if c = '\n' then '\n' :: blankLine (k - 1) cs
    else if k = 1 then blankLine k cs
    else c :: blankLine k cs

theorem blankLine_zero (cs : List Char) : blankLine 0 cs = cs := by
  induction cs with
  | nil => rfl
  | cons c cs ih =>
      by_cases hc : c = '\n'
      · simp [blankLine, hc, ih]
      · simp [blankLine, hc, ih]

theorem feeds_blankLine (k : Nat) (cs : List Char) :
    feeds (blankLine (k + 1) cs) =
      ((feeds cs).1.set k [], if (feeds cs).1.length = k then [] else (feeds cs).2) := by
  induction cs generalizing k with
  | nil => cases k <;> simp [blankLine, feeds]
  | cons c cs ih =>
      by_cases hc : c = '\n'
      · cases k with
        | zero => simp [blankLine, feeds, hc, blankLine_zero]
        | succ k => simp [blankLine, feeds, hc, ih]
      · cases k with
        | zero =>
            simp only [blankLine, hc, if_false, if_true, ih, feeds]
            cases (feeds cs).1 <;> simp
        | succ k =>
            have later : k + 1 + 1 ≠ 1 := by omega
            simp only [blankLine, hc, if_false, later, feeds, ih]
            cases (feeds cs).1 <;> simp

/-- **Leaving a line empty leaves the other lines as they are.**  If it was the last it may be gone. -/
theorem lines_blankLine {cs line : List Char} {before after : List (List Char)}
    (h : lines cs = before ++ line :: after) :
    lines (blankLine (before.length + 1) cs) = before ++ [] :: after ∨
      (after = [] ∧ lines (blankLine (before.length + 1) cs) = before) := by
  simp only [lines, feeds_blankLine] at h ⊢
  rcases hf : feeds cs with ⟨ended, rest⟩
  rw [hf] at h
  simp only at h ⊢
  by_cases inside : before.length < ended.length
  · left
    obtain ⟨first, x, last, rfl, len⟩ : ∃ first x last, ended = first ++ x :: last ∧
        first.length = before.length :=
      ⟨ended.take before.length, ended[before.length], ended.drop (before.length + 1), by simp,
        by rw [List.length_take]; omega⟩
    rw [List.map_append, List.map_cons, List.append_assoc] at h
    obtain ⟨same, tail⟩ := List.append_inj h (by simpa using len)
    obtain ⟨_, others⟩ := List.cons.inj tail
    have more : (first ++ x :: last).length ≠ before.length := by
      simp only [List.length_append, List.length_cons]
      omega
    rw [if_neg more, ← len, List.set_append_right _ _ (Nat.le_refl _), Nat.sub_self, List.set_cons_zero,
      List.map_append, List.map_cons, List.append_assoc, same, ← others]
    rfl
  · right
    have sizes := congrArg List.length h
    have len : ended.length = before.length := by
      split at sizes <;> simp at sizes <;> omega
    obtain ⟨same, tail⟩ := List.append_inj h (by simpa using len)
    rw [if_pos len, List.set_eq_of_length_le (by omega), same]
    refine ⟨?_, by simp⟩
    split at tail
    · cases tail
    · exact (List.cons.inj tail).2.symm

end Blank

/-- The text with its `k`-th line left empty. -/
def Text.blankLine (k : Nat) (s : String) : String := .ofList (Blank.blankLine k s.toList)

theorem Text.lines_blankLine {text line : String} {before after : List String}
    (h : Text.lines text = before ++ line :: after) :
    Text.lines (Text.blankLine (before.length + 1) text) = before ++ "" :: after ∨
      (after = [] ∧ Text.lines (Text.blankLine (before.length + 1) text) = before) := by
  obtain ⟨first, tail, split, rfl, rest⟩ := List.map_eq_append_iff.1 h
  obtain ⟨x, last, rfl, rfl, rfl⟩ := List.map_eq_cons_iff.1 rest
  simp only [Text.lines, Text.blankLine, List.length_map, String.toList_ofList]
  rcases Blank.lines_blankLine split with same | ⟨rfl, same⟩
  · exact .inl (by rw [same]; simp)
  · exact .inr ⟨rfl, by rw [same]⟩

/-! ### What a line says -/

/-- What is found about another line is not about this one. -/
theorem filter_of_other {k n : Nat} (other : n ≠ k) (fs : List Finding) :
    (fs.map (LineFinding.mk n)).filter (fun f => f.line != k) = fs.map (LineFinding.mk n) := by
  rw [List.filter_eq_self]
  intro f hf
  obtain ⟨_, _, rfl⟩ := List.mem_map.1 hf
  simpa using other

theorem filter_of_self (k : Nat) (fs : List Finding) :
    (fs.map (LineFinding.mk k)).filter (fun f => f.line != k) = [] := by
  rw [List.filter_eq_nil_iff]
  intro f hf
  obtain ⟨_, _, rfl⟩ := List.mem_map.1 hf
  simp

namespace Draft

/-- **What reading a line can do**: something is found, and nothing else happens; or a label is set; or
an instruction is added, and no fault is found. -/
inductive Reads (d : Draft) (n : Nat) : Draft → Prop
  | notes (fs : List Finding) : Reads d n (d.note n fs)
  | sets (label : String) : Reads d n { d with labels := d.labels.insert label d.statements.size }
  | adds (i : Instruction) {fs : List Finding} (clean : sound fs = true) :
      Reads d n ((d.addInstruction n i).note n fs)

theorem note_nil (d : Draft) (n : Nat) : d.note n [] = d := by
  simp [note]

theorem reads_addLine (d : Draft) (n : Nat) (text : String) : d.Reads n (d.addLine n text) := by
  unfold addLine
  split
  · have nothing := Reads.notes (d := d) (n := n) []
    rwa [note_nil] at nothing
  · unfold addLabel
    split
    · exact .notes _
    · split
      · exact .notes _
      · exact .sets _
  · unfold addKeyword
    split
    · exact .notes _
    · split
      · split
        · exact .adds _ (by assumption)
        · exact .notes _
      · exact .notes _

theorem addLine_empty (d : Draft) (n : Nat) : d.addLine n "" = d := rfl

/-- The draft without what a line has declared and what was found about it. -/
def without (k : Nat) (d : Draft) : Draft :=
  { d with
    declarations := d.declarations.filter fun x => x.1 != k
    findings := d.findings.filter fun f => f.line != k }

theorem note_without {k n : Nat} (other : n ≠ k) (d : Draft) (fs : List Finding) :
    (d.without k).note n fs = (d.note n fs).without k := by
  simp [note, without, filter_of_other other]

theorem note_without_self (k : Nat) (d : Draft) (fs : List Finding) :
    (d.note k fs).without k = d.without k := by
  simp [note, without, filter_of_self]

theorem addInstruction_without {k n : Nat} (other : n ≠ k) (d : Draft) (i : Instruction) :
    (d.without k).addInstruction n i = (d.addInstruction n i).without k := by
  cases i with
  | declare declaration => simp [addInstruction, without, other]
  | execute statement => rfl

/-- **What another line says does not depend on this one**, as far as declarations and findings go. -/
theorem addLine_without {k n : Nat} (other : n ≠ k) (d : Draft) (text : String) :
    (d.without k).addLine n text = (d.addLine n text).without k := by
  unfold addLine
  cases Line.ofText text with
  | nothing => rfl
  | label label =>
      simp only [addLabel]
      have labels : (d.without k).labels = d.labels := rfl
      rw [labels]
      split
      · exact note_without other d _
      · split
        · exact note_without other d _
        · rfl
  | instruction keyword tail =>
      simp only [addKeyword]
      cases Instruction.reader? keyword with
      | none => exact note_without other d _
      | some read =>
          simp only
          split
          · split
            · rw [addInstruction_without other, note_without other]
            · exact note_without other d _
          · exact note_without other d _

theorem addLines_without {k : Nat} (d : Draft) {n : Nat} (texts : List String)
    (others : k < n ∨ n + texts.length ≤ k) :
    (d.without k).addLines n texts = (d.addLines n texts).without k := by
  induction texts generalizing d n with
  | nil => rfl
  | cons text texts ih =>
      simp only [List.length_cons] at others
      simp only [addLines]
      rw [addLine_without (by omega), ih _ (by omega)]

/-- **What other lines say is not about this one**, be it found or declared. -/
theorem addLine_others {k n : Nat} (other : n ≠ k) (d : Draft) (text : String) :
    (∃ fs, (d.addLine n text).findings = d.findings ++ fs ∧ ∀ f ∈ fs, f.line ≠ k) ∧
      ∃ ds, (d.addLine n text).declarations = d.declarations ++ ds ∧ ∀ x ∈ ds, x.1 ≠ k := by
  have about : ∀ fs : List Finding, ∀ f ∈ (fs.map (LineFinding.mk n)).toArray, f.line ≠ k := by
    intro fs f hf
    obtain ⟨_, _, rfl⟩ := List.mem_map.1 (List.mem_toArray.1 hf)
    exact other
  have reads := d.reads_addLine n text
  generalize d.addLine n text = e at reads ⊢
  cases reads with
  | notes fs => exact ⟨⟨_, rfl, about fs⟩, #[], by simp [note], by simp⟩
  | sets label => exact ⟨⟨#[], by simp, by simp⟩, #[], by simp, by simp⟩
  | @adds i fs clean =>
      cases i with
      | declare declaration =>
          refine ⟨⟨_, rfl, about fs⟩, #[(n, declaration)], by simp [note, addInstruction], ?_⟩
          simpa using other
      | execute statement => exact ⟨⟨_, rfl, about fs⟩, #[], by simp [note, addInstruction], by simp⟩

theorem addLines_others {k : Nat} (d : Draft) {n : Nat} (texts : List String)
    (others : k < n ∨ n + texts.length ≤ k) :
    (∃ fs, (d.addLines n texts).findings = d.findings ++ fs ∧ ∀ f ∈ fs, f.line ≠ k) ∧
      ∃ ds, (d.addLines n texts).declarations = d.declarations ++ ds ∧ ∀ x ∈ ds, x.1 ≠ k := by
  induction texts generalizing d n with
  | nil => exact ⟨⟨#[], by simp [addLines], by simp⟩, #[], by simp [addLines], by simp⟩
  | cons text texts ih =>
      simp only [List.length_cons] at others
      obtain ⟨⟨fs, found, about⟩, ds, declared, on⟩ := addLine_others (show n ≠ k by omega) d text
      obtain ⟨⟨fs', found', about'⟩, ds', declared', on'⟩ :=
        ih (d.addLine n text) (show k < n + 1 ∨ n + 1 + texts.length ≤ k by omega)
      refine ⟨⟨fs ++ fs', ?_, ?_⟩, ds ++ ds', ?_, ?_⟩
      · rw [addLines, found', found, Array.append_assoc]
      · intro f hf
        exact (Array.mem_append.1 hf).elim (about f) (about' f)
      · rw [addLines, declared', declared, Array.append_assoc]
      · intro x hx
        exact (Array.mem_append.1 hx).elim (on x) (on' x)

/-- The script of a draft under its declarations. -/
def declaring (d : Draft) : Declaring :=
  ({ script := d.undeclared } : Declaring).addAll d.declarations.toList

/-- All that is found about a draft, in order. -/
def allFindings (d : Draft) : List LineFinding :=
  d.findings.toList ++ d.declaring.findings.toList ++ d.declaring.parameterFindings

end Draft

/-! ### What a line declares -/

theorem Declaration.refine_fault {s : Script} {keyword : String} {f : Parameter → Parameter}
    (fault : sound (Declaration.refine s keyword f).2 = false) :
    (Declaration.refine s keyword f).1 = s := by
  unfold Declaration.refine at fault ⊢
  split
  · simp_all [sound]
  · rfl

/-- **A declaration that has a fault has no effect.** -/
theorem Declaration.apply_fault {d : Declaration} {s : Script} (fault : sound (d.apply s).2 = false) :
    (d.apply s).1 = s := by
  cases d with
  | type t => exact Declaration.refine_fault fault
  | standIn text => exact Declaration.refine_fault fault
  | description text =>
      simp only [Declaration.apply] at fault
      split at fault <;> simp [sound] at fault
  | command word =>
      simp only [Declaration.apply] at fault ⊢
      split at fault <;> simp_all [sound]
  | parameter new required seeds =>
      simp only [Declaration.apply] at fault ⊢
      split at fault <;> simp_all [sound]
  | name new =>
      simp only [Declaration.apply] at fault
      split at fault <;> simp [sound, Finding.isFault] at fault
  | pattern p =>
      simp only [Declaration.apply] at fault
      split at fault <;> simp [sound, Finding.isFault] at fault
  | interval seconds => simp [Declaration.apply, sound] at fault
  | special t => simp [Declaration.apply, sound] at fault

namespace Declaring

/-- The script under declaration without what was found about a line. -/
def without (k : Nat) (d : Declaring) : Declaring :=
  { d with findings := d.findings.filter fun f => f.line != k }

theorem add_without {k line : Nat} (other : line ≠ k) (d : Declaring) (declaration : Declaration) :
    (d.without k).add line declaration = (d.add line declaration).without k := by
  simp [add, without, filter_of_other other]
  rfl

theorem addAll_without {k : Nat} (d : Declaring) {ds : List (Nat × Declaration)}
    (others : ∀ x ∈ ds, x.1 ≠ k) : (d.without k).addAll ds = (d.addAll ds).without k := by
  induction ds generalizing d with
  | nil => rfl
  | cons x ds ih =>
      have rest := ih (d.add x.1 x.2) fun y hy => others y (by simp [hy])
      rw [← add_without (others x (by simp))] at rest
      exact rest

/-- A declaration that has a fault leaves only that behind. -/
theorem add_fault {k : Nat} {d : Declaring} {declaration : Declaration}
    (fault : sound (declaration.apply d.script).2 = false) :
    (d.add k declaration).without k = d.without k := by
  have same := Declaration.apply_fault fault
  simp [add, without, same, filter_of_self]

/-- **What other lines declare is not about this one.** -/
theorem addAll_others {k : Nat} (d : Declaring) (ds : List (Nat × Declaration))
    (others : ∀ x ∈ ds, x.1 ≠ k) :
    (∃ fs, (d.addAll ds).findings = d.findings ++ fs ∧ ∀ f ∈ fs, f.line ≠ k) ∧
      ((∀ l ∈ d.parameterLines, l ≠ k) → ∀ l ∈ (d.addAll ds).parameterLines, l ≠ k) := by
  induction ds generalizing d with
  | nil => exact ⟨⟨#[], by simp [addAll], by simp⟩, fun h => h⟩
  | cons x ds ih =>
      obtain ⟨⟨fs, found, about⟩, lines⟩ := ih (d.add x.1 x.2) fun y hy => others y (by simp [hy])
      have mine := others x (by simp)
      refine ⟨⟨((x.2.apply d.script).2.map (LineFinding.mk x.1)).toArray ++ fs, ?_, ?_⟩, fun h => ?_⟩
      · rw [← Array.append_assoc]
        exact found
      · intro f hf
        rcases Array.mem_append.1 hf with hf | hf
        · obtain ⟨_, _, rfl⟩ := List.mem_map.1 (List.mem_toArray.1 hf)
          exact mine
        · exact about f hf
      · refine lines fun l hl => ?_
        simp only [add] at hl
        split at hl
        · rcases Array.mem_push.1 hl with hl | rfl
          · exact h l hl
          · exact mine
        · exact h l hl

theorem addAll_append (d : Declaring) (first last : List (Nat × Declaration)) :
    d.addAll (first ++ last) = (d.addAll first).addAll last := List.foldl_append

/-- **A declaration with a fault might as well not be there**: it has one in the middle of others if one
is found about its line. -/
theorem addAll_middle {k : Nat} {d : Declaring} {first last : List (Nat × Declaration)}
    {declaration : Declaration} (spared : d.findings = #[]) (before : ∀ x ∈ first, x.1 ≠ k)
    (after : ∀ x ∈ last, x.1 ≠ k) {f : LineFinding}
    (found : f ∈ (d.addAll (first ++ (k, declaration) :: last)).findings) (line : f.line = k)
    (fault : f.finding.isFault = true) :
    d.addAll (first ++ last) = (d.addAll (first ++ (k, declaration) :: last)).without k := by
  have hnone : d.without k = d := by
    obtain ⟨script, lines, findings⟩ := d
    obtain rfl : findings = #[] := spared
    simp [without]
  have wrong : sound (declaration.apply (d.addAll first).script).2 = false := by
    refine Bool.eq_false_iff.2 fun fine => ?_
    obtain ⟨⟨fs, start, about⟩, _⟩ := d.addAll_others first before
    obtain ⟨⟨gs, rest, about'⟩, _⟩ := ((d.addAll first).add k declaration).addAll_others last after
    rw [addAll_append] at found
    change f ∈ (((d.addAll first).add k declaration).addAll last).findings at found
    rw [rest] at found
    rcases Array.mem_append.1 found with found | found
    · simp only [add] at found
      rcases Array.mem_append.1 found with found | found
      · rw [start, spared] at found
        exact about f (by simpa using found) line
      · obtain ⟨g, hg, rfl⟩ := List.mem_map.1 (List.mem_toArray.1 found)
        have sound := List.all_eq_true.1 fine g hg
        simp [show g.isFault = true from fault] at sound
    · exact about' f found line
  calc d.addAll (first ++ last)
      = (d.addAll first).addAll last := addAll_append ..
    _ = ((d.without k).addAll first).addAll last := by rw [hnone]
    _ = ((d.addAll first).without k).addAll last := by rw [addAll_without d before]
    _ = (((d.addAll first).add k declaration).without k).addAll last := by rw [add_fault wrong]
    _ = (((d.addAll first).add k declaration).addAll last).without k := addAll_without _ after
    _ = (d.addAll (first ++ (k, declaration) :: last)).without k := by rw [addAll_append]; rfl

/-- What is wrong with the parameters as a whole is found about the lines that declared them. -/
theorem parameterFindings_line {k : Nat} {d : Declaring} (pos : 0 < k)
    (lines : ∀ l ∈ d.parameterLines, l ≠ k) : ∀ f ∈ d.parameterFindings, f.line ≠ k := by
  intro f hf
  obtain ⟨⟨i, fault⟩, _, rfl⟩ := List.mem_map.1 hf
  simp only [Array.getD_eq_getD_getElem?]
  cases hi : d.parameterLines[i]? with
  | none => exact fun h => absurd h (by simp; omega)
  | some l => exact lines l (Array.mem_of_getElem? hi)

end Declaring

/-! ### A line that fails -/

namespace Draft

variable {k : Nat} {d e : Draft}

/-- **A line fails**: a fault was found when it was read, or when what it declares took effect. -/
def FailsAt (d : Draft) (k : Nat) : Prop :=
  ∃ f ∈ d.findings.toList ++ d.declaring.findings.toList, f.line = k ∧ f.finding.isFault = true

instance (d : Draft) (k : Nat) : Decidable (d.FailsAt k) :=
  decidable_of_iff ((d.findings.toList ++ d.declaring.findings.toList).any fun f =>
    f.line == k && f.finding.isFault) (by
      rw [List.any_eq_true]
      simp only [Bool.and_eq_true, beq_iff_eq, FailsAt])

theorem addLines_append (d : Draft) (n : Nat) (before after : List String) :
    d.addLines n (before ++ after) = (d.addLines n before).addLines (n + before.length) after := by
  induction before generalizing d n with
  | nil => rfl
  | cons text before ih =>
      simp only [List.cons_append, addLines, List.length_cons]
      rw [ih, Nat.add_assoc, Nat.add_comm 1]

/-- What says nothing about a line has nothing to be left out. -/
theorem not_mem_of_without (spared : d.without k = d) :
    (∀ f ∈ d.findings, f.line ≠ k) ∧ ∀ x ∈ d.declarations, x.1 ≠ k := by
  have findings : d.findings.filter (fun f => f.line != k) = d.findings :=
    congrArg Draft.findings spared
  have declarations : d.declarations.filter (fun x => x.1 != k) = d.declarations :=
    congrArg Draft.declarations spared
  rw [Array.filter_eq_self] at findings declarations
  exact ⟨fun f hf => by simpa using findings f hf, fun x hx => by simpa using declarations x hx⟩

/-- A line that fails without a fault that was read fails by what it declares. -/
theorem FailsAt.declaring {n : Nat} {texts : List String} (fails : (e.addLines n texts).FailsAt k)
    (others : k < n ∨ n + texts.length ≤ k)
    (clean : ∀ f ∈ e.findings, f.line = k → f.finding.isFault = false) :
    ∃ f ∈ (e.addLines n texts).declaring.findings, f.line = k ∧ f.finding.isFault = true := by
  obtain ⟨f, hf, line, fault⟩ := fails
  obtain ⟨⟨fs, found, about⟩, _⟩ := e.addLines_others texts others
  rcases List.mem_append.1 hf with hf | hf
  · rw [found, Array.toList_append] at hf
    rcases List.mem_append.1 hf with hf | hf
    · rw [clean f (Array.mem_toList_iff.1 hf) line] at fault
      cases fault
    · exact absurd line (about f (Array.mem_toList_iff.1 hf))
  · exact ⟨f, Array.mem_toList_iff.1 hf, line, fault⟩

/-- Without a fault that was read and without a declaration, a line does not fail. -/
theorem not_failsAt {n : Nat} {texts : List String} (others : k < n ∨ n + texts.length ≤ k)
    (clean : ∀ f ∈ e.findings, f.line = k → f.finding.isFault = false)
    (undeclared : ∀ x ∈ e.declarations, x.1 ≠ k) : ¬ (e.addLines n texts).FailsAt k := by
  intro fails
  obtain ⟨f, hf, line, _⟩ := fails.declaring others clean
  obtain ⟨_, ds, declared, on⟩ := e.addLines_others texts others
  have elsewhere : ∀ x ∈ (e.addLines n texts).declarations.toList, x.1 ≠ k := by
    intro x hx
    rw [declared, Array.toList_append] at hx
    rcases List.mem_append.1 hx with hx | hx
    · exact undeclared x (Array.mem_toList_iff.1 hx)
    · exact on x (Array.mem_toList_iff.1 hx)
  obtain ⟨⟨gs, all, lines⟩, _⟩ := Declaring.addAll_others
    { script := (e.addLines n texts).undeclared } _ elsewhere
  rw [Draft.declaring, all] at hf
  exact lines f (by simpa using hf) line

/-- Reading a line that fails, what is found about it aside, adds at most a declaration. -/
theorem Reads.of_failsAt {after : List String} (reads : d.Reads k e) (spared : d.without k = d)
    (fails : (e.addLines (k + 1) after).FailsAt k) :
    e.without k = d ∧
      (e.declarations = d.declarations ∨
        (∃ declaration, e.declarations = d.declarations.push (k, declaration)) ∧
          ∀ f ∈ e.findings, f.line = k → f.finding.isFault = false) := by
  obtain ⟨found, declared⟩ := not_mem_of_without spared
  have clean : ∀ fs : List Finding, sound fs = true →
      ∀ f ∈ d.findings ++ (fs.map (LineFinding.mk k)).toArray,
        f.line = k → f.finding.isFault = false := by
    intro fs all f hf line
    rcases Array.mem_append.1 hf with hf | hf
    · exact absurd line (found f hf)
    · obtain ⟨g, hg, rfl⟩ := List.mem_map.1 (List.mem_toArray.1 hf)
      simpa using List.all_eq_true.1 all g hg
  cases reads with
  | notes fs => exact ⟨(note_without_self k d fs).trans spared, .inl rfl⟩
  | sets label =>
      have hnone : ∀ f ∈ d.findings, f.line = k → f.finding.isFault = false :=
        fun f hf line => absurd line (found f hf)
      exact absurd fails (not_failsAt (.inl (Nat.lt_succ_self k)) hnone declared)
  | @adds i fs sound =>
      cases i with
      | declare declaration =>
          refine ⟨?_, .inr ⟨⟨declaration, rfl⟩, clean fs sound⟩⟩
          rw [note_without_self]
          simpa [without, addInstruction] using spared
      | execute statement => exact absurd fails (not_failsAt (.inl (Nat.lt_succ_self k)) (clean fs sound) declared)

/-- **A line that fails leaves nothing behind but what is found about it.** -/
theorem declaring_without {line : String} {after : List String} (spared : d.without k = d)
    (fails : ((d.addLine k line).addLines (k + 1) after).FailsAt k) :
    d.addLines (k + 1) after = ((d.addLine k line).addLines (k + 1) after).without k ∧
      (d.addLines (k + 1) after).declaring =
        ((d.addLine k line).addLines (k + 1) after).declaring.without k := by
  have later : k < k + 1 ∨ k + 1 + after.length ≤ k := .inl (Nat.lt_succ_self k)
  have reads := d.reads_addLine k line
  generalize d.addLine k line = e at reads fails ⊢
  obtain ⟨same, kind⟩ := reads.of_failsAt spared fails
  have drafts : d.addLines (k + 1) after = (e.addLines (k + 1) after).without k := by
    rw [← addLines_without e after later, same]
  refine ⟨drafts, ?_⟩
  obtain ⟨_, ds, declared, on⟩ := e.addLines_others after later
  have before : ∀ x ∈ d.declarations.toList, x.1 ≠ k := fun x hx =>
    (not_mem_of_without spared).2 x (Array.mem_toList_iff.1 hx)
  have behind : ∀ x ∈ ds.toList, x.1 ≠ k := fun x hx => on x (Array.mem_toList_iff.1 hx)
  have edited : (d.addLines (k + 1) after).declaring =
      ({ script := (e.addLines (k + 1) after).undeclared } : Declaring).addAll
        (((e.addLines (k + 1) after).declarations.filter fun x => x.1 != k).toList) := by
    rw [drafts]
    rfl
  rw [edited, declaring]
  rcases kind with kept | ⟨⟨declaration, pushed⟩, clean⟩
  · have others : ∀ x ∈ (e.addLines (k + 1) after).declarations.toList, x.1 ≠ k := by
      rw [declared, kept, Array.toList_append]
      exact fun x hx => (List.mem_append.1 hx).elim (before x) (behind x)
    have all : ((e.addLines (k + 1) after).declarations.filter fun x => x.1 != k) =
        (e.addLines (k + 1) after).declarations := by
      rw [Array.filter_eq_self]
      exact fun x hx => by simpa using others x (Array.mem_toList_iff.2 hx)
    rw [all, ← Declaring.addAll_without _ others]
    simp [Declaring.without]
  · -- the fault is not one of reading, so it is one of the declaration
    obtain ⟨f, here, line, fault⟩ := fails.declaring later clean
    have list : (e.addLines (k + 1) after).declarations.toList =
        d.declarations.toList ++ (k, declaration) :: ds.toList := by
      simp [declared, pushed]
    have left : ((e.addLines (k + 1) after).declarations.filter fun x => x.1 != k).toList =
        d.declarations.toList ++ ds.toList := by
      rw [Array.toList_filter, list, List.filter_append, List.filter_cons_of_neg (by simp),
        List.filter_eq_self.2 fun x hx => by simpa using before x hx,
        List.filter_eq_self.2 fun x hx => by simpa using behind x hx]
    rw [declaring, list] at here
    rw [list, left]
    exact Declaring.addAll_middle rfl before behind here line fault

/-- **Without a line that fails, all else is found as before.** -/
theorem allFindings_without {before after : List String} {line : String}
    (fails : (({} : Draft).addLines 1 (before ++ line :: after)).FailsAt (before.length + 1)) :
    (({} : Draft).addLines 1 (before ++ "" :: after)).allFindings =
      (({} : Draft).addLines 1 (before ++ line :: after)).allFindings.filter
        fun f => f.line != before.length + 1 := by
  have early : before.length + 1 < 1 ∨ 1 + before.length ≤ before.length + 1 := by omega
  have spared : (({} : Draft).addLines 1 before).without (before.length + 1) =
      ({} : Draft).addLines 1 before := by
    rw [← addLines_without _ before early]
    rfl
  rw [addLines_append, Nat.add_comm 1] at fails
  rw [addLines_append, addLines_append, Nat.add_comm 1]
  simp only [addLines, addLine_empty] at fails ⊢
  generalize ({} : Draft).addLines 1 before = d at spared fails ⊢
  have pos : 0 < before.length + 1 := Nat.succ_pos _
  generalize before.length + 1 = k at spared fails pos ⊢
  obtain ⟨drafts, declared⟩ := declaring_without spared fails
  have lines : ∀ l ∈ (d.addLines (k + 1) after).declaring.parameterLines, l ≠ k := by
    have still : (d.addLines (k + 1) after).without k = d.addLines (k + 1) after := by
      rw [← addLines_without d after (.inl (Nat.lt_succ_self k)), spared]
    refine (Declaring.addAll_others _ _ fun x hx => ?_).2 (by simp)
    exact (not_mem_of_without still).2 x (Array.mem_toList_iff.1 hx)
  have last := Declaring.parameterFindings_line pos lines
  rw [declared] at last
  simp only [allFindings, List.filter_append]
  rw [declared, drafts]
  congr 1
  · simp [without, Declaring.without]
  · exact (List.filter_eq_self.2 fun f hf => by simpa using last f hf).symm

/-- Only a line of the text fails. -/
theorem exists_line_of_failsAt {texts : List String} (fails : (({} : Draft).addLines 1 texts).FailsAt k) :
    ∃ before line after, texts = before ++ line :: after ∧ k = before.length + 1 := by
  by_cases inside : 1 ≤ k ∧ k ≤ texts.length
  · obtain ⟨m, rfl⟩ : ∃ m, k = m + 1 := ⟨k - 1, by omega⟩
    refine ⟨texts.take m, texts[m], texts.drop (m + 1), by simp, ?_⟩
    rw [List.length_take]
    omega
  · exact absurd fails (not_failsAt (by omega) (by simp) (by simp))

end Draft

/-! ### Compilation -/

theorem Draft.allFindings_blankLine {text : String} {k : Nat} (fails : (ofText text).FailsAt k) :
    (ofText (Text.blankLine k text)).allFindings =
      (ofText text).allFindings.filter fun f => f.line != k := by
  obtain ⟨before, line, after, lines, rfl⟩ := exists_line_of_failsAt fails
  unfold ofText at fails ⊢
  rw [lines] at fails ⊢
  rw [← allFindings_without fails]
  rcases Text.lines_blankLine lines with same | ⟨rfl, same⟩
  · rw [same]
  · rw [same, addLines_append]
    rfl

theorem LineFinding.origin_eq {name : String} {k : Nat} {f : LineFinding} :
    (f.broadcast name).origin = s!"{name}:{k}" ↔ f.line = k := by
  constructor
  · intro same
    have digits : Nat.toDigits 10 f.line = Nat.toDigits 10 k := by
      simpa [LineFinding.broadcast, Finding.broadcast, toString, Nat.repr, String.ext_iff] using same
    have back := congrArg Decimal.digits? digits
    rw [Decimal.digits?_toDigits, Decimal.digits?_toDigits] at back
    exact Option.some_inj.1 back
  · rintro rfl
    rfl

theorem LineFinding.fault?_eq_some {f : LineFinding} {g : LineFault} (h : f.fault? = some g) :
    g.line = f.line := by
  unfold fault? at h
  split at h <;> cases h
  rfl

theorem LineFinding.isSome_fault? (f : LineFinding) : f.fault?.isSome = f.finding.isFault := by
  unfold fault?
  split <;> simp_all [Finding.isFault]

/-- What is not found about a line is what does not come from it. -/
theorem map_broadcast_filter (name : String) (k : Nat) (fs : List LineFinding) :
    (fs.filter fun f => f.line != k).map (LineFinding.broadcast name) =
      (fs.map (LineFinding.broadcast name)).filter fun b => b.origin != s!"{name}:{k}" := by
  rw [List.filter_map]
  refine congrArg _ (List.filter_congr fun f _ => ?_)
  rw [Bool.eq_iff_iff, Function.comp_apply, bne_iff_ne, bne_iff_ne]
  exact (not_congr LineFinding.origin_eq).symm

theorem compile_broadcasts (text name : String) :
    (compile text name).broadcasts =
      (Draft.ofText text).allFindings.map (LineFinding.broadcast name) := by
  simp only [compile, Draft.allFindings, Draft.declaring]

/-- The faults of a text, as they are found. -/
def Draft.faults (d : Draft) : List LineFault := d.allFindings.filterMap LineFinding.fault?

theorem compile_result (text name : String) :
    ∃ script, (compile text name).result =
      if (Draft.ofText text).faults.isEmpty then .ok script
      else .error (.invalid name ((Draft.ofText text).faults.mergeSort fun a b => a.line ≤ b.line)) := by
  simp only [compile, Draft.faults, Draft.allFindings, Draft.declaring]
  exact ⟨_, rfl⟩

theorem compile_eq_ok_iff {text name : String} :
    (∃ script, (compile text name).result = .ok script) ↔ (Draft.ofText text).faults = [] := by
  obtain ⟨script, result⟩ := compile_result text name
  rw [result]
  split <;> simp_all

theorem compile_eq_error {text name : String} (wrong : (Draft.ofText text).faults ≠ []) :
    (compile text name).result =
      .error (.invalid name ((Draft.ofText text).faults.mergeSort fun a b => a.line ≤ b.line)) := by
  obtain ⟨script, result⟩ := compile_result text name
  rw [result, if_neg (by simpa using wrong)]

theorem Draft.FailsAt.faults_ne_nil {d : Draft} {k : Nat} (fails : d.FailsAt k) : d.faults ≠ [] := by
  obtain ⟨f, hf, _, fault⟩ := fails
  obtain ⟨g, hg⟩ := Option.isSome_iff_exists.1 (f.isSome_fault?.trans fault)
  exact List.ne_nil_of_mem (List.mem_filterMap.2 ⟨f, List.mem_append_left _ hf, hg⟩)

/-- No fault is left without those of a line if there is none on any other. -/
theorem faults_filter_eq_nil {k : Nat} {fs : List LineFinding} :
    (fs.filter fun f => f.line != k).filterMap LineFinding.fault? = [] ↔
      ∀ g ∈ fs.filterMap LineFinding.fault?, g.line = k := by
  rw [List.filterMap_eq_nil_iff]
  constructor
  · intro hnone g hg
    obtain ⟨f, hf, fault⟩ := List.mem_filterMap.1 hg
    rw [LineFinding.fault?_eq_some fault]
    refine Decidable.byContradiction fun other => ?_
    rw [hnone f (List.mem_filter.2 ⟨hf, by simpa using other⟩)] at fault
    cases fault
  · intro all f hf
    obtain ⟨hf, other⟩ := List.mem_filter.1 hf
    cases fault : f.fault? with
    | none => rfl
    | some g =>
        have line := all g (List.mem_filterMap.2 ⟨f, hf, fault⟩)
        rw [LineFinding.fault?_eq_some fault] at line
        simp [line] at other

/-- **Faults of lines are independent.**  If a line fails, be it when it is read or when what it declares
takes effect, then the text with that line left empty is told all that was said before, in order, except
what was said of that line: so no line that fails hides, adds or alters what is said of another.  There is
a script then just if no other line had a fault. -/
theorem faults_independent {text : String} {k : Nat} (fails : (Draft.ofText text).FailsAt k)
    (name : String) :
    (compile (Text.blankLine k text) name).broadcasts =
        (compile text name).broadcasts.filter (fun b => b.origin != s!"{name}:{k}") ∧
      ∃ faults, (compile text name).result = .error (.invalid name faults) ∧
        ((∃ script, (compile (Text.blankLine k text) name).result = .ok script) ↔
          ∀ f ∈ faults, f.line = k) := by
  have found := Draft.allFindings_blankLine fails
  refine ⟨?_, _, compile_eq_error fails.faults_ne_nil, ?_⟩
  · rw [compile_broadcasts, compile_broadcasts, found, map_broadcast_filter]
  · rw [compile_eq_ok_iff, Draft.faults, found, faults_filter_eq_nil]
    simp only [List.mem_mergeSort]
    rfl

/-- A text with three faults: a type without a parameter, a parameter that is declared twice, and no
keyword. -/
def crossed : String := "type text\nrequired a\nrequired a\ntype number\nnonsense\n"

/-- Without the second declaration what is said of the other two is said as before. -/
theorem faults_independent_crossed :
    ((Draft.ofText crossed).FailsAt 1 ∧ (Draft.ofText crossed).FailsAt 3 ∧
      (Draft.ofText crossed).FailsAt 5) ∧
      (compile (Text.blankLine 3 crossed) "s").broadcasts =
        (compile crossed "s").broadcasts.filter (fun b => b.origin != "s:3") := by
  have fails : (Draft.ofText crossed).FailsAt 1 ∧ (Draft.ofText crossed).FailsAt 3 ∧
      (Draft.ofText crossed).FailsAt 5 := by decide +kernel
  exact ⟨fails, (faults_independent fails.2.1 "s").1⟩

end LineScript
