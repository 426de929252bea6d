import LineScript.Proofs.Budget
import LineScript.Proofs.Changes
import LineScript.Proofs.Editing

/-!
**A script writes only its own variables.**

The sigil of a key says whose it is: variables belong to the script, and all other keys to the host and to
whoever called the script.  A statement that was read from a line has a variable for its target, so no
value that it sets is under a key of others.  What is left are the keys by which the engine itself tells a
script the time and where it is in a list; a `drop`, which may remove anything; and reads, which leave the
empty value under a key that was missing.

Main definitions:

* `LineScript.Foreign` — a key that is not of a variable;
* `LineScript.Session.Leaves` — **what a statement leaves of such a key**;
* `LineScript.Told` — a key by which the engine tells a script something;
* `LineScript.ValueMap.NothingNew` — no value has come in under any other key of others.

Main results:

* `LineScript.Session.Changes.get?_of_not_sets` — what may not be set stays, or comes in empty when it is
  read;
* `LineScript.Session.exec_leaves` — so it is with every statement that writes to variables only;
* `LineScript.Invocation.nothingNew_stages` — and nothing new comes in by a run, over all its sleeps;
* `LineScript.writes_own_variables` — **statements and scripts leave what is not theirs**.
-/

set_option autoImplicit false

namespace LineScript

/-! ### Keys of others -/

/-- The key is not of a variable of the script. -/
def Foreign (key : String) : Prop := key.toList.head? ≠ some Scope.script.sigil

instance (key : String) : Decidable (Foreign key) := inferInstanceAs (Decidable (_ ≠ _))

/-- **A variable stands for keys of variables only**, wildcard or not. -/
theorem ScopedName.Covers.not_foreign {name : ScopedName} {key : String} (covers : name.Covers key)
    (own : name.scope = .script) : ¬ Foreign key := by
  have first : name.key.toList.head? = some Scope.script.sigil := by simp [ScopedName.key, own]
  unfold ScopedName.Covers at covers
  split at covers
  · obtain ⟨rest, eq⟩ := KeyMap.begins_iff.1 covers
    intro foreign
    apply foreign
    rw [← eq, List.head?_append, first]
    rfl
  · exact fun foreign => foreign (covers ▸ first)

namespace ValueMap

/-- A read changes nothing, or brings in the empty value. -/
theorem get?_touch (m : ValueMap) (read key : String) :
    (m.touch read).get? key = m.get? key ∨
      key = read ∧ m.get? key = none ∧ (m.touch read).get? key = some .empty := by
  unfold touch
  split
  · exact Or.inl rfl
  · rename_i missing
    by_cases hat : key = read
    · subst hat
      exact Or.inr ⟨rfl, by simpa [KeyMap.contains] using missing, KeyMap.get?_insert_self ..⟩
    · exact Or.inl (KeyMap.get?_insert_of_ne m hat _)

/-- **A `drop` removes just what its name stands for.** -/
theorem get?_drop (m : ValueMap) (name : ScopedName) (key : String) :
    (name.Covers key → (m.drop name).get? key = none) ∧
      (¬ name.Covers key → (m.drop name).get? key = m.get? key) := by
  unfold drop ScopedName.Covers
  split
  · rw [KeyMap.get?_eraseSpan]
    exact ⟨fun covers => if_pos covers, fun other => if_neg other⟩
  · exact ⟨fun covers => covers ▸ KeyMap.get?_erase_self m key, fun other => KeyMap.get?_erase_of_ne m other⟩

end ValueMap

/-- A script is told where it is under keys of others. -/
theorem ListView.foreign_of_mem_cursorKeys {key : String} (told : key ∈ cursorKeys) : Foreign key := by
  simp only [cursorKeys, List.mem_cons, List.not_mem_nil, or_false] at told
  rcases told with rfl | rfl | rfl | rfl | rfl <;> decide

/-- What a script is told of a list does not depend on the values that it had. -/
theorem ListView.get?_publish {key : String} (told : key ∈ cursorKeys) (v : ListView)
    (m n : ValueMap) : (v.publish m).get? key = (v.publish n).get? key := by
  have set : ∀ {m n : ValueMap} (other : String) (x : Value),
      (key ≠ other → m.get? key = n.get? key) → (m.set other x).get? key = (n.set other x).get? key := by
    intro m n other x same
    by_cases hat : key = other
    · simp [ValueMap.set, hat]
    · simp only [ValueMap.set, KeyMap.get?_insert_of_ne _ hat, same hat]
  refine set _ _ fun h₅ => set _ _ fun h₄ => set _ _ fun h₃ => set _ _ fun h₂ => set _ _ fun h₁ => ?_
  simp [cursorKeys, h₁, h₂, h₃, h₄, h₅] at told

namespace Session

/-! ### Statements -/

/-- **What may not be set stays as it was**, unless it was missing and came in empty by a read. -/
theorem Changes.get?_of_not_sets {p : Permit} {s t : Session} (h : Changes p s t) {key : String}
    (kept : ¬ p.sets key) :
    t.values.get? key = s.values.get? key ∨
      p.reads key ∧ s.values.get? key = none ∧ t.values.get? key = some .empty := by
  induction h with
  | refl => exact Or.inl rfl
  | @touch t _ read may ih =>
      rcases ValueMap.get?_touch t.values read key with same | ⟨rfl, missing, now⟩
      · exact ih.imp same.trans fun ⟨reads, missing, now⟩ => ⟨reads, missing, same.trans now⟩
      · rcases ih with same | ⟨_, _, there⟩
        · exact Or.inr ⟨may, same.symm.trans missing, now⟩
        · rw [there] at missing
          cases missing
  | @set t _ other may v ih =>
      have elsewhere : key ≠ other := fun hat => kept (hat ▸ may)
      have same : (t.values.set other v).get? key = t.values.get? key :=
        KeyMap.get?_insert_of_ne _ elsewhere v
      exact ih.imp same.trans fun ⟨reads, missing, now⟩ => ⟨reads, missing, same.trans now⟩
  | remark _ _ ih => exact ih
  | hand _ _ ih => exact ih
  | output _ _ values ih => rwa [values]
  | rest _ same ih =>
      simp only [visible, Prod.mk.injEq] at same
      rwa [same.2.1]

/-- **What a statement leaves of a key that is not of a variable.**  A `drop` removes it if its name
stands for it; a statement on lists tells where the script is in the open list.  In all other cases but
that of the present time it stays, unless it is missing and is read, and so comes in empty. -/
structure Leaves (s : Session) (st : Statement) (key : String) : Prop where
  dropped : ∀ name, st = .drop name → name.Covers key → (s.exec st).2.values.get? key = none
  told : s.MovesCursor st → key ∈ ListView.cursorKeys →
    (s.exec st).2.values.get? key =
      ((s.exec st).2.context.desk.publish (s.exec st).2.host .empty).get? key
  kept : (∀ name, st = .drop name → ¬ name.Covers key) →
    (s.MovesCursor st → key ∉ ListView.cursorKeys) →
    (∀ format, st = .timestamp format → key ≠ timestampKey) →
    (s.exec st).2.values.get? key = s.values.get? key ∨
      key ∈ st.reads ∧ s.values.get? key = none ∧ (s.exec st).2.values.get? key = some .empty

/-- **A statement on lists tells where the script is**, whether it succeeds or not. -/
theorem exec_told {s : Session} {st : Statement} (moves : s.MovesCursor st) {key : String}
    (hat : key ∈ ListView.cursorKeys) :
    (s.exec st).2.values.get? key =
      ((s.exec st).2.context.desk.publish (s.exec st).2.host .empty).get? key := by
  cases st with
  | list st =>
      simp only [exec, execList]
      generalize s.listEffect st = done
      obtain ⟨_ | _, t⟩ := done
      · exact ListView.get?_publish hat _ _ _
      · exact ListView.get?_publish hat _ _ _
  | storage st =>
      cases st with
      | list name =>
          simp only [MovesCursor] at moves
          rcases s.storedEffect_list_cases name with ⟨e, failed⟩ | ⟨st, there, done⟩
          · rw [failed] at moves
            cases moves
          · simp only [exec, execStorage, there, Option.isNone_some, Bool.false_eq_true, if_false, done]
            exact ListView.get?_publish hat _ _ _
      | _ => exact absurd moves id
  | _ => exact absurd moves id

/-- **A statement that writes to variables only leaves the keys of others.** -/
theorem exec_leaves (s : Session) {st : Statement} (own : st.WritesOwn) {key : String}
    (foreign : Foreign key) : s.Leaves st key where
  dropped := by
    rintro name rfl
    exact (ValueMap.get?_drop s.values name key).1
  told moves hat := exec_told moves hat
  kept notDropped notTold notNow := by
    by_cases drops : ∃ name, st = .drop name
    · obtain ⟨name, rfl⟩ := drops
      exact Or.inl ((ValueMap.get?_drop s.values name key).2 (notDropped name rfl))
    · refine (exec_changes s fun name is => drops ⟨name, is⟩).get?_of_not_sets ?_
      rintro (⟨target, covers⟩ | ⟨is, hat⟩ | ⟨moves, hat⟩)
      · exact covers.not_foreign (own target) foreign
      · exact notNow _ is hat
      · exact notTold moves hat

theorem flush_values (s : Session) : s.flush.values = s.values := by
  unfold flush
  dsimp only
  split <;> rfl

end Session

/-! ### Runs -/

/-- By this key the engine tells a script something: the time, or where it is in a list. -/
def Told (key : String) : Prop := key = Session.timestampKey ∨ key ∈ ListView.cursorKeys

namespace ValueMap

/-- **No value has come in from the first map to the second**, neither under a key of others nor in
place of what was there; keys by which the engine tells something and empty values aside. -/
def NothingNew (m n : ValueMap) : Prop :=
  ∀ ⦃key : String⦄ ⦃v : Value⦄, Foreign key → ¬ Told key → n.get? key = some v → v ≠ .empty →
    m.get? key = some v

theorem NothingNew.refl (m : ValueMap) : m.NothingNew m := fun _ _ _ _ now _ => now

theorem NothingNew.trans {m n k : ValueMap} (h : m.NothingNew n) (h' : n.NothingNew k) :
    m.NothingNew k := by
  intro key v foreign untold now hsome
  exact h foreign untold (h' foreign untold now hsome) hsome

end ValueMap

theorem Session.exec_nothingNew (s : Session) {st : Statement} (own : st.WritesOwn) :
    s.values.NothingNew (s.exec st).2.values := by
  intro key v foreign untold now hsome
  have leaves := s.exec_leaves own foreign
  have there : ∀ name, st = .drop name → ¬ name.Covers key := by
    intro name is covers
    rw [leaves.dropped name is covers] at now
    cases now
  rcases leaves.kept there (fun _ hat => untold (.inr hat)) fun _ _ hat => untold (.inl hat) with
    same | ⟨_, _, empty⟩
  · exact same ▸ now
  · rw [empty] at now
    exact absurd (Option.some.inj now).symm hsome

/-- The values that a run has when it stops. -/
def Outcome.values : Outcome → ValueMap
  | completed _ values => values
  | suspended s => s.invocation.context.values
  | unfinished i => i.context.values

namespace Invocation

/-- What a step brings in is what its statement brings in. -/
theorem Moves.nothingNew {i : Invocation} {h g : Host} {p : Progress} (m : i.Moves h p g)
    (own : ∀ st ∈ i.script.statements, st.WritesOwn) :
    i.context.values.NothingNew p.outcome.values := by
  have executed : ∀ {st flow s}, i.ready? = some st → (i.session h).exec st = (flow, s) →
      i.context.values.NothingNew s.values := by
    intro st flow s ready exec
    have mem : st ∈ i.script.statements := Array.mem_of_getElem? (ready?_eq_some.1 ready).2
    have new := (i.session h).exec_nothingNew (own st mem)
    rwa [exec] at new
  cases m with
  | pastLast _ => exact .refl _
  | overBudget _ _ => exact .refl _
  | next ready exec => exact executed ready exec
  | ended ready exec =>
      simp only [Progress.outcome, Outcome.values, Session.flush_values]
      exact executed ready exec
  | jumps ready exec _ => exact executed ready exec
  | missingLabel ready exec _ => exact executed ready exec
  | sleeps ready exec _ => exact executed ready exec
  | breaks ready exec => exact executed ready exec

theorem nothingNew_run {i : Invocation} (own : ∀ st ∈ i.script.statements, st.WritesOwn) (fuel : Nat)
    (h : Host) : i.context.values.NothingNew (i.run fuel h).1.values := by
  induction fuel generalizing i h with
  | zero => exact .refl _
  | succ fuel ih =>
      rcases hs : i.step h with ⟨p, g⟩
      have m := Moves.of_step hs
      have first := m.nothingNew own
      cases p with
      | goesOn j =>
          rw [run_of_goesOn hs]
          exact first.trans (ih (m.script_eq ▸ own) g)
      | stops o =>
          rw [run_of_stops hs]
          exact first

/-- **Nothing new comes in by a run**, over all its sleeps. -/
theorem nothingNew_stages {i : Invocation} (own : ∀ st ∈ i.script.statements, st.WritesOwn)
    (turns : List Turn) (fuel : Nat) (h : Host) :
    ∀ x ∈ Outcome.stages turns (i.run fuel h), i.context.values.NothingNew x.1.values := by
  induction turns, fuel, i, h using chain_induction with
  | last turns fuel i h last =>
      rw [(chain_last turns fuel i h last).2]
      intro x mem
      rw [List.mem_singleton.1 mem]
      exact nothingNew_run own fuel h
  | resumed turn turns fuel i h s g hr ih =>
      have first := nothingNew_run own fuel h
      rw [hr] at first
      rw [stages_of_suspended hr]
      intro x mem
      rcases List.mem_cons.1 mem with rfl | later
      · exact first
      · exact first.trans (ih (run_script_of_suspended hr ▸ own) x later)

end Invocation

/-! ### Compiled scripts -/

/-- **The statements of a compiled script write to variables only.** -/
theorem writesOwn_of_compile {text name : String} {script : Script}
    (compiled : (compile text name).result = .ok script) : ∀ st ∈ script.statements, st.WritesOwn := by
  have reads := readsOff_of_compile compiled
  have lines : ∀ st ∈ Item.statements (Text.items text), st.WritesOwn := by
    intro st mem
    obtain ⟨item, among, is⟩ := List.mem_filterMap.1 mem
    obtain ⟨line, _, rfl⟩ := List.mem_map.1 among
    obtain ⟨keyword, tail, read, known, yields⟩ :=
      Item.ofText_eq_statement (Item.statement?_eq_some is)
    exact ((Instruction.settles_reader known tail).only yields).writesOwn
  intro st mem
  rw [← Array.mem_toList_iff] at mem
  by_cases ends : Item.NeedsEnd (Text.items text)
  · rw [reads.ended ends] at mem
    rcases List.mem_append.1 mem with line | last
    · exact lines st line
    · rw [List.mem_singleton.1 last]
      exact Statement.writesOwn_of_none rfl
  · rw [reads.whole ends] at mem
    exact lines st mem

/-- **A script writes only its own variables.**  A statement that some reader yields leaves the value
under each key that is not of a variable, but for the exceptions listed.  No run of a compiled script
brings in a value under such a key, but for those by which the engine tells the time and the place in a
list. -/
theorem writes_own_variables :
    (∀ (keyword tail : String) (read : String → Reading Instruction) (before : List Finding)
      (st : Statement), Instruction.reader? keyword = some read →
      ((read tail).outcome before).1 = some (.execute st) →
      ∀ (s : Session) (key : String), Foreign key → s.Leaves st key) ∧
    ∀ (text name : String) (i : Invocation), (compile text name).result = .ok i.script →
      ∀ (turns : List Turn) (fuel : Nat) (h : Host),
        ∀ x ∈ Outcome.stages turns (i.run fuel h), i.context.values.NothingNew x.1.values := by
  constructor
  · intro keyword tail read before st known yields s key foreign
    exact s.exec_leaves ((Instruction.settles_reader known tail).only yields).writesOwn foreign
  · intro text name i compiled
    exact Invocation.nothingNew_stages (writesOwn_of_compile compiled)

/-- A script that looks at what it was given, and drops it after a sleep. -/
def borrowing : String := "set !kept ?item\nsleep 1\nlist:next !item*\ndrop ?item"

/-- The context of a call with an argument. -/
def lent : Context := .ofInputs "b" { values := KeyMap.empty.insert "?item" (.ofText "tea") }

/-- Records go into variables, also by a wildcard that is named as the argument is; what the script drops
does not come back as something else. -/
theorem writes_own_variables_borrowing :
    let next : Statement := .list (.move .next ⟨.script, "item", true⟩)
    Foreign "?item" ∧
      (∃ keyword tail read, Instruction.reader? keyword = some read ∧
        ((read tail).outcome []).1 = some (.execute next)) ∧
      (Session.exec ⟨lent, {}⟩ next).2.values.get? "?item" = some (.ofText "tea") ∧
      ∃ script, (compile borrowing "b").result = .ok script ∧
        ∀ x ∈ Outcome.stages [⟨id, 9⟩] (Invocation.run 9 { script, context := lent } {}),
          lent.values.NothingNew x.1.values := by
  intro next
  obtain ⟨statements, runs⟩ := writes_own_variables
  have foreign : Foreign "?item" := by decide
  have line : (Item.ofText "List:Next !item*").statement? = some next := by decide +kernel
  obtain ⟨keyword, tail, read, known, yields⟩ :=
    Item.ofText_eq_statement (Item.statement?_eq_some line)
  obtain ⟨script, compiled⟩ := (@compile_eq_ok_iff borrowing "b").2 (by decide +kernel)
  have leaves := statements keyword tail read [] next known yields ⟨lent, {}⟩ "?item" foreign
  refine ⟨foreign, ⟨keyword, tail, read, known, yields⟩, ?_, script, compiled,
    runs borrowing "b" { script, context := lent } compiled [⟨id, 9⟩] 9 {}⟩
  have given : (Session.values ⟨lent, {}⟩).get? "?item" = some (.ofText "tea") := by decide +kernel
  have elsewhere : "?item" ∉ ListView.cursorKeys := by decide
  rcases leaves.kept (by simp [next]) (fun _ => elsewhere) (by simp [next]) with same | ⟨_, missing, _⟩
  · exact same.trans given
  · rw [given] at missing
    cases missing

end LineScript
