import LineScript.Instruction

/-!
**What the readers find and yield.**

Every keyword has a reader for the tail of its line, and the readers are put together from a few shapes by
the rules of readings.  A reader records faults on the way and goes on, so that what it yields and what it
records are two different things.  Here one specification is followed through all of them: what is found is
about the line at hand, what is yielded is as it should be, and a reading that starts without a fault yields
a result just when it ends without one.  It holds of the shapes, is kept by the rules, and so holds of every
reader in the table.

Main definitions:

* `LineScript.Fault.offender?` — the parameter that a fault of the parameters as a whole is about;
* `LineScript.Reading.Settles` — **the specification of a reading**;
* `LineScript.Reading.GoesOn` — a step that goes on whatever it finds, and what holds if that is no fault;
* `LineScript.ScopedName.Fits`, `LineScript.Operand.Fits` — names and operands as they should be;
* `LineScript.Statement.target?`, `LineScript.Statement.names`, `LineScript.Statement.WellNamed` — the name a
  statement writes to, its other names, and that they all are as its keyword wants them;
* `LineScript.Declaration.IsFor` — a declaration is one of the keyword, and names a parameter by a plain name.

Main results:

* `LineScript.Reading.Settles.bind`, `LineScript.Reading.GoesOn.checked`,
  `LineScript.Reading.settles_every` — the rules;
* `LineScript.Grammar.settles_statements`, `LineScript.Grammar.settles_declarations` — the readers of all
  statements and declarations;
* `LineScript.Instruction.settles_reader` — **every reader settles its line**, and what it yields is for its
  keyword.
-/

set_option autoImplicit false

namespace LineScript

/-! ### Faults of the parameters as a whole -/

/-- The parameter whose value is missing or wrong. -/
def BindError.parameter : BindError → String
  | missing name => name
  | notNumber name _ => name
  | badUser name _ => name

/-- The parameter that a fault of the parameters as a whole is about. -/
def Fault.offender? : Fault → Option String
  | tailNotLast name => some name
  | requiredAfterOptional required _ => some required
  | badDefault e => some e.parameter
  | _ => none

/-- What is found is about a line by itself. -/
def Finding.OfLine : Finding → Prop
  | fault f => f.offender? = none
  | caution _ => True

theorem sound_append (fs gs : List Finding) : sound (fs ++ gs) = (sound fs && sound gs) :=
  List.all_append

theorem exists_fault_of_unsound {fs : List Finding} (wrong : sound fs = false) :
    ∃ f, Finding.fault f ∈ fs := by
  obtain ⟨f, mem, fault⟩ := List.all_eq_false.1 wrong
  cases f with
  | fault f => exact ⟨f, mem⟩
  | caution c => simp [Finding.isFault] at fault

/-- **All that was found before is kept, and what is added is about the line at hand.** -/
def Extends (before after : List Finding) : Prop := ∃ new, after = before ++ new ∧ ∀ f ∈ new, f.OfLine

namespace Extends

variable {fs gs hs : List Finding}

theorem refl (fs : List Finding) : Extends fs fs := ⟨[], (List.append_nil fs).symm, List.forall_mem_nil _⟩

theorem snoc {f : Finding} (own : f.OfLine) (fs : List Finding) : Extends fs (fs ++ [f]) :=
  ⟨[f], rfl, List.forall_mem_singleton.2 own⟩

theorem trans (h : Extends fs gs) (h' : Extends gs hs) : Extends fs hs := by
  obtain ⟨new, rfl, own⟩ := h
  obtain ⟨more, rfl, too⟩ := h'
  exact ⟨new ++ more, List.append_assoc .., List.forall_mem_append.2 ⟨own, too⟩⟩

/-- What has a fault keeps it. -/
theorem unsound (h : Extends fs gs) (wrong : sound fs = false) : sound gs = false := by
  obtain ⟨new, rfl, _⟩ := h
  rw [sound_append, wrong, Bool.false_and]

theorem sound (h : Extends fs gs) (fine : sound gs = true) : LineScript.sound fs = true := by
  cases start : LineScript.sound fs with
  | true => rfl
  | false => rw [h.unsound start] at fine; cases fine

end Extends

/-! ### The rules of readings -/

namespace Reading

variable {α β : Type}

theorem outcome_pure (a : α) (before : List Finding) :
    (pure a : Reading α).outcome before = (some a, before) := rfl

theorem outcome_failure (before : List Finding) :
    (failure : Reading α).outcome before = (none, before) := rfl

theorem outcome_record (f : Finding) (before : List Finding) :
    (record f).outcome before = (some (), before ++ [f]) := rfl

theorem outcome_attempt (r : Reading α) (before : List Finding) :
    (attempt r).outcome before = (some (r.outcome before).1, (r.outcome before).2) := rfl

/-- A reading goes on with what was yielded, unless the line was refused. -/
theorem outcome_bind (r : Reading α) (k : α → Reading β) (before : List Finding) :
    (r >>= k).outcome before =
      match (r.outcome before).1 with
      | some a => (k a).outcome (r.outcome before).2
      | none => (none, (r.outcome before).2) := by
  change (OptionT.bind r k).run.run before = _
  simp only [OptionT.bind, OptionT.run_mk, StateT.run_bind]
  change (match (r.outcome before).1 with | some a => (k a).run | none => pure none).run
    (r.outcome before).2 = _
  cases (r.outcome before).1 <;> rfl

theorem outcome_check (before : List Finding) :
    check.outcome before = (if sound before then some () else none, before) := by
  unfold check
  rw [outcome_bind]
  change (if sound before then pure () else failure : Reading Unit).outcome before = _
  split <;> rfl

theorem outcome_refuse (f : Fault) (before : List Finding) :
    (refuse f : Reading α).outcome before = (none, before ++ [.fault f]) := by
  unfold refuse
  rw [outcome_bind, outcome_record, outcome_failure]

/-- **A reading finds only what is about its line and yields only what it should**, whatever was found
before, and one that starts without a fault yields a result just when it ends without one. -/
structure Settles (r : Reading α) (good : α → Prop) : Prop where
  adds : ∀ before, Extends before (r.outcome before).2
  only : ∀ {before a}, (r.outcome before).1 = some a → good a
  accepts : ∀ {before a}, sound before = true → (r.outcome before).1 = some a →
    sound (r.outcome before).2 = true
  refuses : ∀ {before}, sound before = true → (r.outcome before).1 = none →
    sound (r.outcome before).2 = false

/-- A step of a reading goes on whatever it finds, and where no fault is found, its condition is met. -/
structure GoesOn (r : Reading Unit) (met : Prop) : Prop where
  adds : ∀ before, Extends before (r.outcome before).2
  goes : ∀ before, (r.outcome before).1 = some ()
  meets : ∀ {before}, sound (r.outcome before).2 = true → met

variable {good : α → Prop}

theorem settles_pure {a : α} (fits : good a) : (pure a : Reading α).Settles good where
  adds := Extends.refl
  only eq := by
    rw [outcome_pure] at eq
    cases eq
    exact fits
  accepts start _ := start
  refuses _ eq := by
    rw [outcome_pure] at eq
    cases eq

theorem settles_refuse {f : Fault} (own : f.offender? = none) : (refuse f : Reading α).Settles good where
  adds before := by
    rw [outcome_refuse]
    exact Extends.snoc (f := .fault f) own before
  only eq := by
    rw [outcome_refuse] at eq
    cases eq
  accepts _ eq := by
    rw [outcome_refuse] at eq
    cases eq
  refuses _ _ := by
    rw [outcome_refuse, sound_append]
    exact Bool.and_false _

theorem Settles.mono {r : Reading α} {better : α → Prop} (h : r.Settles good)
    (imp : ∀ a, good a → better a) : r.Settles better :=
  ⟨h.adds, fun eq => imp _ (h.only eq), h.accepts, h.refuses⟩

theorem settles_ite {c : Prop} [Decidable c] {r r' : Reading α} (pos : r.Settles good)
    (neg : r'.Settles good) : (if c then r else r').Settles good := by
  split
  · exact pos
  · exact neg

/-- What is read in two steps: the second starts without a fault, for the first has yielded. -/
theorem Settles.bind {r : Reading α} {k : α → Reading β} {fine : β → Prop} (h : r.Settles good)
    (next : ∀ a, good a → (k a).Settles fine) : (r >>= k).Settles fine where
  adds before := by
    rw [outcome_bind]
    cases result : (r.outcome before).1 with
    | none => exact h.adds before
    | some a => exact (h.adds before).trans ((next a (h.only result)).adds _)
  only {before b} eq := by
    rw [outcome_bind] at eq
    cases result : (r.outcome before).1 with
    | none => simp [result] at eq
    | some a =>
        simp only [result] at eq
        exact (next a (h.only result)).only eq
  accepts {before b} start eq := by
    rw [outcome_bind] at eq ⊢
    cases result : (r.outcome before).1 with
    | none => simp [result] at eq
    | some a =>
        simp only [result] at eq ⊢
        exact (next a (h.only result)).accepts (h.accepts start result) eq
  refuses {before} start eq := by
    rw [outcome_bind] at eq ⊢
    cases result : (r.outcome before).1 with
    | none => exact h.refuses start result
    | some a =>
        simp only [result] at eq ⊢
        exact (next a (h.only result)).refuses (h.accepts start result) eq

theorem Settles.map {r : Reading α} {fine : β → Prop} {f : α → β} (h : r.Settles good)
    (imp : ∀ a, good a → fine (f a)) : (f <$> r).Settles fine :=
  h.bind fun a fits => settles_pure (imp a fits)

theorem goesOn_pure {met : Prop} (h : met) : (pure () : Reading Unit).GoesOn met :=
  ⟨Extends.refl, fun _ => rfl, fun _ => h⟩

theorem goesOn_warn {met : Prop} (c : Caution) (h : met) : (warn c).GoesOn met :=
  ⟨Extends.snoc trivial, fun _ => rfl, fun _ => h⟩

/-- Behind a fault anything may be taken for granted. -/
theorem goesOn_fault {met : Prop} {f : Fault} (own : f.offender? = none) :
    (record (.fault f)).GoesOn met where
  adds := Extends.snoc own
  goes _ := rfl
  meets {before} fine := by
    rw [outcome_record, sound_append] at fine
    exact absurd fine (by simp [sound, Finding.isFault])

theorem goesOn_require {ok : Bool} {f : Fault} (own : f.offender? = none) :
    (require ok f).GoesOn (ok = true) := by
  cases ok with
  | true => exact goesOn_pure rfl
  | false => exact goesOn_fault own

theorem goesOn_argCount (count least expected : Nat) (more : Bool) :
    (argCount count least expected more).GoesOn (least ≤ count) := by
  unfold argCount
  split
  · exact goesOn_fault rfl
  · rename_i enough
    split
    · exact goesOn_warn _ (Nat.not_lt.1 enough)
    · exact goesOn_pure (Nat.not_lt.1 enough)

theorem GoesOn.andThen {r r' : Reading Unit} {met met' : Prop} (h : r.GoesOn met) (h' : r'.GoesOn met') :
    (do r; r' : Reading Unit).GoesOn (met ∧ met') := by
  have outcome : ∀ before, (do r; r' : Reading Unit).outcome before = r'.outcome (r.outcome before).2 := by
    intro before
    rw [outcome_bind, h.goes]
  refine ⟨fun before => ?_, fun before => ?_, fun {before} fine => ?_⟩
  · rw [outcome]
    exact (h.adds before).trans (h'.adds _)
  · rw [outcome]
    exact h'.goes _
  · rw [outcome] at fine
    exact ⟨h.meets ((h'.adds _).sound fine), h'.meets fine⟩

theorem goesOn_forM {step : β → Reading Unit} {met : β → Prop} (h : ∀ b, (step b).GoesOn (met b))
    (items : List β) : (items.forM step).GoesOn (∀ b ∈ items, met b) := by
  induction items with
  | nil => exact goesOn_pure (List.forall_mem_nil _)
  | cons b items ih =>
      rw [List.forall_mem_cons]
      exact (h b).andThen ih

/-- **What comes after a check may take for granted what the line was required to meet.** -/
theorem GoesOn.checked {r : Reading Unit} {met : Prop} {k : Reading α} (h : r.GoesOn met)
    (next : met → k.Settles good) : (do r; check; k : Reading α).Settles good := by
  have outcome : ∀ before, (do r; check; k : Reading α).outcome before =
      if sound (r.outcome before).2 = true then k.outcome (r.outcome before).2
      else (none, (r.outcome before).2) := by
    intro before
    rw [outcome_bind, h.goes]
    simp only [outcome_bind, outcome_check]
    cases sound (r.outcome before).2 <;> rfl
  refine ⟨fun before => ?_, fun {before a} eq => ?_, fun {before a} _ eq => ?_, fun {before} _ eq => ?_⟩
  · rw [outcome]
    split
    · rename_i fine
      exact (h.adds before).trans ((next (h.meets fine)).adds _)
    · exact h.adds before
  · rw [outcome] at eq
    split at eq
    · rename_i fine
      exact (next (h.meets fine)).only eq
    · cases eq
  · rw [outcome] at eq ⊢
    split at eq
    · rename_i fine
      rw [if_pos fine]
      exact (next (h.meets fine)).accepts fine eq
    · cases eq
  · rw [outcome] at eq ⊢
    split at eq
    · rename_i fine
      rw [if_pos fine]
      exact (next (h.meets fine)).refuses fine eq
    · rename_i wrong
      rw [if_neg wrong]
      exact Bool.eq_false_iff.2 wrong

theorem Settles.required {ok : Bool} {f : Fault} {k : Reading α} (own : f.offender? = none)
    (next : ok = true → k.Settles good) : (do require ok f; check; k : Reading α).Settles good :=
  (goesOn_require own).checked next

theorem Settles.counted {count least expected : Nat} {more : Bool} {k : Reading α}
    (next : least ≤ count → k.Settles good) :
    (do argCount count least expected more; check; k : Reading α).Settles good :=
  (goesOn_argCount count least expected more).checked next

/-- The first item is attempted, then the others, and only then does one look at the results. -/
theorem outcome_every_cons (read : β → Reading α) (b : β) (items : List β) (before : List Finding) :
    (every read (b :: items)).outcome before =
      (((read b).outcome before).1.bind fun a =>
        ((every read items).outcome ((read b).outcome before).2).1.map (a :: ·),
      ((every read items).outcome ((read b).outcome before).2).2) := by
  rw [every, outcome_bind, outcome_attempt]
  simp only
  rw [outcome_bind, outcome_attempt]
  simp only
  cases ((read b).outcome before).1 with
  | none => simp [outcome_failure]
  | some a =>
      cases ((every read items).outcome ((read b).outcome before).2).1 with
      | none => simp [outcome_failure]
      | some as => simp [outcome_pure]

/-- **All items are read, or one of them is at fault**: the others are read all the same, but do not undo
the fault. -/
theorem settles_every {read : β → Reading α} (h : ∀ b, (read b).Settles good) (items : List β) :
    (every read items).Settles fun as => as.length = items.length ∧ ∀ a ∈ as, good a := by
  induction items with
  | nil => exact settles_pure ⟨rfl, List.forall_mem_nil _⟩
  | cons b items ih =>
      refine ⟨fun before => ?_, fun {before all} eq => ?_, fun {before all} start eq => ?_,
        fun {before} start eq => ?_⟩
      · rw [outcome_every_cons]
        exact ((h b).adds before).trans (ih.adds _)
      · rw [outcome_every_cons] at eq
        obtain ⟨a, first, rest⟩ := Option.bind_eq_some_iff.1 eq
        obtain ⟨as, others, rfl⟩ := Option.map_eq_some_iff.1 rest
        obtain ⟨length, fit⟩ := ih.only others
        exact ⟨by simp [length], List.forall_mem_cons.2 ⟨(h b).only first, fit⟩⟩
      · rw [outcome_every_cons] at eq ⊢
        obtain ⟨a, first, rest⟩ := Option.bind_eq_some_iff.1 eq
        obtain ⟨as, others, _⟩ := Option.map_eq_some_iff.1 rest
        exact ih.accepts ((h b).accepts start first) others
      · rw [outcome_every_cons] at eq ⊢
        cases first : ((read b).outcome before).1 with
        | none => exact (ih.adds _).unsound ((h b).refuses start first)
        | some a => exact ih.refuses ((h b).accepts start first) (by simpa [first] using eq)

end Reading

/-! ### Names and operands -/

/-- **The name is well formed**: letters, digits and dots, at least one, and a wildcard only where one may
stand. -/
structure ScopedName.Fits (name : ScopedName) (wild : Prop) : Prop where
  base : Name.isPlain name.base = true
  mark : name.wildcard = true → wild

/-- What a target has to be: a well-formed name of a variable. -/
structure ScopedName.IsTarget (name : ScopedName) (wild : Prop) : Prop where
  own : name.scope = .script
  fits : name.Fits wild

namespace ScopedName

theorem Fits.mono {name : ScopedName} {wild wilder : Prop} (h : name.Fits wild) (imp : wild → wilder) :
    name.Fits wilder :=
  ⟨h.base, fun mark => imp (h.mark mark)⟩

/-- **A word that passes the test for names is one, and well formed.** -/
theorem parse?_of_isScopedBy {sigilOk : Char → Bool} {wild : Bool} {word : String}
    (known : ∀ c, sigilOk c = true → (Scope.ofSigil? c).isSome = true)
    (fits : Name.isScopedBy sigilOk wild word = true) :
    ∃ name, ScopedName.parse? word = some name ∧ name.Fits (wild = true) := by
  unfold Name.isScopedBy at fits
  unfold ScopedName.parse?
  cases chars : word.toList with
  | nil => simp [chars] at fits
  | cons c rest =>
      simp only [chars, Bool.and_eq_true] at fits
      obtain ⟨⟨sigil, mark⟩, plain⟩ := fits
      obtain ⟨scope, is⟩ := Option.isSome_iff_exists.1 (known c sigil)
      refine ⟨⟨scope, .ofList (dropMark rest).1, (dropMark rest).2⟩, by simp only [is]; rfl, ?_, ?_⟩
      · simpa [Name.isPlain] using plain
      · intro wildcard
        have marked : (dropMark rest).2 = true := wildcard
        simpa [marked] using mark

/-- A well-formed name of a variable is of the scope of the script. -/
theorem scope_of_isVariable {word : String} {wild : Bool} {name : ScopedName}
    (fits : Name.isVariable word wild = true) (parsed : ScopedName.parse? word = some name) :
    name.scope = .script := by
  unfold Name.isVariable Name.isScopedBy at fits
  unfold ScopedName.parse? at parsed
  cases chars : word.toList with
  | nil => simp [chars] at parsed
  | cons c rest =>
      simp only [chars, Bool.and_eq_true, beq_iff_eq] at fits parsed
      obtain ⟨⟨rfl, _⟩, _⟩ := fits
      rw [Scope.ofSigil?_sigil] at parsed
      obtain rfl := Option.some.inj parsed
      rfl

/-- **A word that passes the test for variables is one, and well formed.** -/
theorem parse?_of_isVariable {word : String} {wild : Bool} (fits : Name.isVariable word wild = true) :
    ∃ name, ScopedName.parse? word = some name ∧ name.IsTarget (wild = true) := by
  have known : ∀ c, (c == Scope.script.sigil) = true → (Scope.ofSigil? c).isSome = true := by
    intro c ok
    rw [beq_iff_eq.1 ok, Scope.ofSigil?_sigil]
    rfl
  obtain ⟨name, parsed, wellFormed⟩ := parse?_of_isScopedBy known fits
  exact ⟨name, parsed, scope_of_isVariable fits parsed, wellFormed⟩

end ScopedName

namespace Operand

/-- The names that an operand is made of. -/
def names (o : Operand) : List ScopedName := o.name?.toList

/-- The operand is not an empty constant. -/
def Spoken (o : Operand) : Prop := ∀ v, o = constant v → v.isEmpty = false

/-- **An operand as it is read**: the name that it is, if it is one, is well formed, and a constant is not
empty. -/
structure Fits (o : Operand) (wild : Prop) : Prop where
  named : ∀ name ∈ o.names, name.Fits wild
  spoken : o.Spoken

/-- What is no wildcard may stand anywhere. -/
theorem Fits.anywhere {o : Operand} {wild : Prop} (h : o.Fits (false = true)) :
    ∀ name ∈ o.names, name.Fits wild :=
  fun name own => (h.named name own).mono (absurd · Bool.false_ne_true)

/-- What holds of each of several operands holds of their names. -/
theorem fits_names {os : List Operand} {wild : Prop} (h : ∀ o ∈ os, o.Fits (false = true)) :
    ∀ name ∈ os.flatMap names, name.Fits wild := by
  intro name mem
  obtain ⟨o, within, own⟩ := List.mem_flatMap.1 mem
  exact (h o within).anywhere name own

theorem fits_constant {v : Value} {wild : Prop} (written : v.isEmpty = false) : (constant v).Fits wild := by
  refine ⟨List.forall_mem_nil _, ?_⟩
  rintro _ ⟨⟩
  exact written

theorem fits_named {name : ScopedName} {wild : Prop} (fits : name.Fits wild) : (named name).Fits wild := by
  refine ⟨List.forall_mem_singleton.2 fits, ?_⟩
  rintro _ ⟨⟩

/-- Text in a script after a double quote is not empty. -/
theorem isEmpty_ofText_ofList {text : List Char} (written : text ≠ []) :
    (Value.ofText (.ofList text)).isEmpty = false := by
  simpa [Value.isEmpty, Value.ofText, ← String.toList_eq_nil_iff] using written

/-- Decimal text is not empty. -/
theorem isEmpty_ofNumber (n : Int64) : (Value.ofNumber n).isEmpty = false := by
  have hne : Decimal.write n ≠ [] := by
    intro hnone
    have back := Decimal.int64?_write n
    rw [hnone] at back
    cases back
  simpa [Value.ofNumber, Value.isEmpty, Text.ofInt64, ← String.toList_eq_nil_iff] using hne

open Reading

theorem settles_scopedName (word : String) (wild : Bool) :
    (scopedName word wild).Settles fun name =>
      ScopedName.parse? word = some name ∧ name.Fits (wild = true) := by
  refine Settles.required rfl fun fits => ?_
  obtain ⟨name, parsed, wellFormed⟩ := ScopedName.parse?_of_isScopedBy (fun _ ok => ok) fits
  rw [parsed]
  exact settles_pure ⟨rfl, wellFormed⟩

/-- **An operand that is read is as it should be.** -/
theorem settles_read (word : String) (wild : Bool) :
    (Operand.read word wild).Settles fun o => o.Fits (wild = true) := by
  unfold Operand.read
  split
  · rename_i text _
    cases text with
    | nil => exact settles_refuse rfl
    | cons c text => exact settles_pure (fits_constant (isEmpty_ofText_ofList (List.cons_ne_nil c text)))
  · split
    · rename_i n _
      exact settles_pure (fits_constant (isEmpty_ofNumber n))
    · exact (settles_scopedName word wild).map fun _ found => fits_named found.2

end Operand

/-! ### The shapes of tails -/

namespace Tail

open Reading

/-- Of a tail with several words the first one counts. -/
theorem settles_singleWord (tail : String) :
    (singleWord tail).Settles fun word => (Text.words tail).head? = some word := by
  refine Settles.counted fun enough => ?_
  cases words : Text.words tail with
  | nil => simp [words] at enough
  | cons word _ => exact settles_pure rfl

theorem settles_none (tail : String) : (Tail.none tail).Settles fun _ => True := by
  have done : (pure () : Reading Unit).Settles fun _ => True := settles_pure trivial
  simpa [Tail.none] using (goesOn_argCount (Text.words tail).length 0 0 false).checked fun _ => done

theorem settles_text (tail what : String) : (text tail what).Settles fun _ => True :=
  settles_ite (settles_refuse rfl) (settles_pure trivial)

theorem settles_operand (tail : String) (wild : Bool) :
    (operand tail wild).Settles fun o => o.Fits (wild = true) :=
  (settles_singleWord tail).bind fun word _ => Operand.settles_read word wild

/-- **There are as many operands as were asked for.** -/
theorem settles_operands (tail : String) (least expected : Nat) (more : Bool) :
    (operands tail least expected more).Settles fun os =>
      (more = false → min least expected ≤ os.length ∧ os.length ≤ expected) ∧
        ∀ o ∈ os, o.Fits (false = true) := by
  refine Settles.counted fun enough => ?_
  have read := settles_every (fun word => Operand.settles_read word false)
    (if more then Text.words tail else (Text.words tail).take expected)
  refine read.mono fun os ⟨length, fit⟩ => ⟨?_, fit⟩
  rintro rfl
  have : os.length = min expected (Text.words tail).length := by simpa using length
  omega

/-- **A target is a variable.** -/
theorem settles_target (tail : String) (wild : Bool) :
    (target tail wild).Settles fun found => found.1.IsTarget (wild = true) := by
  unfold target
  generalize Text.cutOrAll (Text.trimStart tail) = cut
  obtain ⟨word, rest⟩ := cut
  refine settles_ite (settles_refuse rfl) (Settles.required rfl fun fits => ?_)
  obtain ⟨name, parsed, target⟩ := ScopedName.parse?_of_isVariable fits
  rw [parsed]
  exact settles_pure target

theorem settles_soleTarget (tail : String) (wild : Bool) :
    (soleTarget tail wild).Settles fun name => name.IsTarget (wild = true) := by
  refine (settles_singleWord tail).bind fun word _ => Settles.required rfl fun fits => ?_
  exact (Operand.settles_scopedName word wild).mono fun name ⟨parsed, wellFormed⟩ =>
    ⟨ScopedName.scope_of_isVariable fits parsed, wellFormed⟩

theorem settles_targetAndTwo (tail : String) :
    (targetAndTwo tail).Settles fun found => found.1.IsTarget (false = true) ∧
      found.2.1.Fits (false = true) ∧ found.2.2.Fits (false = true) := by
  refine (settles_target tail false).bind fun found target => ?_
  refine (settles_operands found.2 2 2 false).bind fun bounds ⟨length, fit⟩ => ?_
  match bounds, length rfl with
  | [a, b], _ => exact settles_pure ⟨target, fit a (by simp), fit b (by simp)⟩

theorem settles_listName (tail : String) : (listName tail).Settles fun o => o.Fits (false = true) := by
  refine (settles_singleWord tail).bind fun word _ => ?_
  extract_lets bare
  split
  · rename_i plain
    have hne : word.toList ≠ [] := by
      intro hnil
      simp [bare, hnil, Name.isPlainChars] at plain
    exact settles_pure (Operand.fits_constant (by simpa using Operand.isEmpty_ofText_ofList hne))
  · exact Operand.settles_read word false

theorem settles_eitherWord (word? : Option String) (first second : String) :
    (eitherWord word? first second).Settles fun _ => True := by
  unfold eitherWord
  split
  · exact settles_pure trivial
  · exact settles_ite (settles_pure trivial) (settles_ite (settles_pure trivial) (settles_refuse rfl))

end Tail

/-! ### Statements -/

/-- The names in a statement on lists, its target apart. -/
def ListStatement.names : ListStatement → List ScopedName
  | load o | get _ o | remove (some o) | filter _ o | limit o _ => o.names
  | add source => [source]
  | move _ _ | remove none | clear | unique _ | sort _ _ | shuffle => []

/-- The names in a statement on storage, its target apart. -/
def StorageStatement.names : StorageStatement → List ScopedName
  | .open o | get _ o | has _ o | remove o | list o => o.names
  | set key value => key.names ++ value.names
  | close | clear | save => []

namespace Statement

/-- The name that a statement writes to. -/
def target? : Statement → Option ScopedName
  | fold _ target _ | not target _ | has target _ | stash target => some target
  | randomize target _ _ | clamp target _ _ | .match target _ _ => some target
  | list (.get target _) | list (.move _ target) => some target
  | storage (.get target _) | storage (.has target _) => some target
  | _ => none

/-- **What the statement writes to is a variable of the script.** -/
def WritesOwn (s : Statement) : Prop := ∀ ⦃target⦄, s.target? = some target → target.scope = .script

/-- **The names in a statement, its target apart.** -/
def names : Statement → List ScopedName
  | fold _ _ operands => operands.flatMap Operand.names
  | not _ operand => operand.toList.flatMap Operand.names
  | jump _ condition => condition.toList.flatMap Operand.names
  | sleep o | print o | hurl o | .match _ o _ => o.names
  | randomize _ a b | clamp _ a b => a.names ++ b.names
  | has _ name | drop name => [name]
  | list st => st.names
  | storage st => st.names
  | leap _ | finish | write _ | stash _ | flush | timestamp _ => []

/-- The keywords whose target may be a wildcard. -/
def wildTargets : List String :=
  ["list:get", "list:first", "list:last", "list:next", "list:previous", "list:random"]

/-- The keywords that may name several values by a wildcard besides. -/
def wildNames : List String := ["has", "drop", "hurl", "list:add"]

/-- **All names in a statement are as its keyword wants them.** -/
structure WellNamed (keyword : String) (s : Statement) : Prop where
  target : ∀ ⦃name⦄, s.target? = some name →
    name.scope = .script ∧ name.Fits (keyword ∈ wildTargets)
  others : ∀ name ∈ s.names, name.Fits (keyword ∈ wildNames)

theorem writesOwn_of_none {s : Statement} (hnone : s.target? = Option.none) : s.WritesOwn := by
  intro target eq
  rw [hnone] at eq
  cases eq

variable {keyword : String} {s : Statement}

theorem WellNamed.writesOwn (h : s.WellNamed keyword) : s.WritesOwn := fun _ is => (h.target is).1

theorem wellNamed_of_target {name : ScopedName} {wild : Prop} (is : s.target? = some name)
    (target : name.IsTarget wild) (imp : wild → keyword ∈ wildTargets)
    (others : ∀ other ∈ s.names, other.Fits (keyword ∈ wildNames)) : s.WellNamed keyword := by
  refine ⟨fun other eq => ?_, others⟩
  rw [is] at eq
  obtain rfl := Option.some.inj eq
  exact ⟨target.own, target.fits.mono imp⟩

theorem wellNamed_of_plain {name : ScopedName} (is : s.target? = some name)
    (target : name.IsTarget (false = true))
    (others : ∀ other ∈ s.names, other.Fits (keyword ∈ wildNames)) : s.WellNamed keyword :=
  wellNamed_of_target is target (absurd · Bool.false_ne_true) others

theorem wellNamed_of_none (hnone : s.target? = Option.none)
    (others : ∀ other ∈ s.names, other.Fits (keyword ∈ wildNames)) : s.WellNamed keyword := by
  refine ⟨fun other eq => ?_, others⟩
  rw [hnone] at eq
  cases eq

end Statement

namespace Grammar

open Reading Statement

variable (keyword : String)

theorem settles_fold (op : FoldOp) (tail : String) : (fold op tail).Settles (WellNamed keyword) :=
  (Tail.settles_target tail false).bind fun _ own =>
    (Tail.settles_operands _ _ _ _).bind fun _ fit => settles_pure
      (wellNamed_of_plain rfl own (Operand.fits_names fit.2))

theorem settles_not (tail : String) : (not tail).Settles (WellNamed keyword) := by
  refine (Tail.settles_target tail false).bind fun _ own => ?_
  refine (Tail.settles_operands _ _ _ _).bind fun os fit => settles_pure ?_
  refine wellNamed_of_plain rfl own (Operand.fits_names fun o mem => ?_)
  exact fit.2 o (List.mem_of_head? (Option.mem_toList.1 mem))

theorem settles_jump (tail : String) : (jump tail).Settles (WellNamed keyword) := by
  refine Settles.counted fun enough => ?_
  cases words : Text.words tail with
  | nil => simp [words] at enough
  | cons label rest =>
      refine Settles.required rfl fun _ => ?_
      cases rest with
      | nil => exact settles_pure (wellNamed_of_none rfl (List.forall_mem_nil _))
      | cons word _ =>
          refine (Operand.settles_read word false).bind fun o fits => settles_pure ?_
          exact wellNamed_of_none rfl (Operand.fits_names (List.forall_mem_singleton.2 fits))

theorem settles_leap (tail : String) : (leap tail).Settles (WellNamed keyword) := by
  unfold leap
  extract_lets words
  have labels : (words.forM labelName).GoesOn (∀ word ∈ words, Name.isLabel word = true) :=
    goesOn_forM (fun _ => goesOn_require rfl) words
  rw [← bind_assoc]
  refine ((goesOn_argCount _ _ _ _).andThen labels).checked fun _ => ?_
  exact settles_pure (wellNamed_of_none rfl (List.forall_mem_nil _))

theorem settles_has (tail : String) : (has tail).Settles (WellNamed "has") :=
  (Tail.settles_target tail false).bind fun _ own =>
    (Tail.settles_singleWord _).bind fun word _ =>
      (Operand.settles_scopedName word true).bind fun _ fits => settles_pure
        (wellNamed_of_plain rfl own
          (List.forall_mem_singleton.2 (fits.2.mono fun _ => by simp [wildNames])))

theorem settles_write (tail : String) : (write tail).Settles (WellNamed keyword) :=
  settles_ite (settles_refuse rfl) (settles_pure (wellNamed_of_none rfl (List.forall_mem_nil _)))

theorem settles_timestamp (tail : String) : (timestamp tail).Settles (WellNamed keyword) := by
  unfold timestamp
  extract_lets text format
  clear_value format
  exact settles_ite (settles_pure (wellNamed_of_none rfl (List.forall_mem_nil _))) (settles_refuse rfl)

theorem settles_matchText (tail : String) : (matchText tail).Settles (WellNamed keyword) := by
  refine (Tail.settles_target tail false).bind fun found own => ?_
  simp only
  generalize Text.cutOrAll (Text.trimStart found.2) = cut
  obtain ⟨word, literal⟩ := cut
  refine settles_ite (settles_refuse rfl) ((Operand.settles_read word false).bind fun o fits => ?_)
  refine (Tail.settles_text literal _).bind fun _ _ => settles_pure ?_
  exact wellNamed_of_plain rfl own fits.anywhere

theorem settles_listGet (tail : String) : (listGet tail).Settles (WellNamed "list:get") :=
  (Tail.settles_target tail true).bind fun _ own =>
    (Tail.settles_operand _ false).bind fun _ fits => settles_pure
      (wellNamed_of_target rfl own (fun _ => by simp [wildTargets]) fits.anywhere)

theorem settles_listAdd (tail : String) : (listAdd tail).Settles (WellNamed "list:add") :=
  (Tail.settles_singleWord tail).bind fun word _ =>
    (Operand.settles_scopedName word true).bind fun _ fits => settles_pure
      (wellNamed_of_none rfl (List.forall_mem_singleton.2 (fits.2.mono fun _ => by simp [wildNames])))

theorem settles_listRemove (tail : String) : (listRemove tail).Settles (WellNamed keyword) := by
  refine (Tail.settles_operands tail 0 1 false).bind fun os fit => settles_pure ?_
  refine wellNamed_of_none rfl ?_
  cases os with
  | nil => exact List.forall_mem_nil _
  | cons o _ => exact (fit.2 o (by simp)).anywhere

theorem settles_listFilter (tail : String) : (listFilter tail).Settles (WellNamed keyword) := by
  refine Settles.counted fun enough => ?_
  match words : Text.words tail with
  | [] => simp [words] at enough
  | [_] => simp [words] at enough
  | field :: word :: _ =>
      refine Settles.required rfl fun _ => ?_
      refine (Operand.settles_read word false).bind fun _ fits => settles_pure ?_
      exact wellNamed_of_none rfl fits.anywhere

theorem settles_listUnique (tail : String) : (listUnique tail).Settles (WellNamed keyword) :=
  (Tail.settles_singleWord tail).bind fun _ _ =>
    Settles.required rfl fun _ => settles_pure (wellNamed_of_none rfl (List.forall_mem_nil _))

theorem settles_listSort (tail : String) : (listSort tail).Settles (WellNamed keyword) := by
  refine Settles.counted fun enough => ?_
  cases words : Text.words tail with
  | nil => simp [words] at enough
  | cons field rest =>
      refine Settles.required rfl fun _ => (Tail.settles_eitherWord _ _ _).bind fun _ _ => ?_
      exact settles_pure (wellNamed_of_none rfl (List.forall_mem_nil _))

theorem settles_listLimit (tail : String) : (listLimit tail).Settles (WellNamed keyword) := by
  refine Settles.counted fun enough => ?_
  cases words : Text.words tail with
  | nil => simp [words] at enough
  | cons word rest =>
      refine (Operand.settles_read word false).bind fun _ fits => ?_
      refine (Tail.settles_eitherWord _ _ _).bind fun _ _ => settles_pure ?_
      exact wellNamed_of_none rfl fits.anywhere

theorem settles_targetAndKey {make : ScopedName → Operand → StorageStatement}
    (writes : ∀ target key, (storage (make target key)).target? = some target)
    (reads : ∀ target key, (make target key).names = key.names) (tail : String) :
    (targetAndKey make tail).Settles (WellNamed keyword) := by
  refine (Tail.settles_target tail false).bind fun found own => ?_
  refine (Tail.settles_operand _ false).bind fun key fits => settles_pure ?_
  refine wellNamed_of_plain (writes found.1 key) own fun name mem => ?_
  exact fits.anywhere name (reads found.1 key ▸ mem)

theorem settles_storageSet (tail : String) : (storageSet tail).Settles (WellNamed keyword) := by
  refine (Tail.settles_operands tail 2 2 false).bind fun operands ⟨length, fit⟩ => ?_
  match operands, length rfl with
  | [key, value], _ =>
      refine settles_pure (wellNamed_of_none rfl (List.forall_mem_append.2 ⟨?_, ?_⟩))
      · exact (fit key (by simp)).anywhere
      · exact (fit value (by simp)).anywhere

theorem settles_bare {s : Statement} (hnone : s.target? = Option.none) (reads : s.names = [])
    (tail : String) : (bare s tail).Settles (WellNamed keyword) :=
  (Tail.settles_none tail).bind fun _ _ =>
    settles_pure (wellNamed_of_none hnone (by rw [reads]; exact List.forall_mem_nil _))

theorem settles_unary {make : Operand → Statement} {wild : Bool}
    (hnone : ∀ o, (make o).target? = Option.none) (reads : ∀ o, (make o).names = o.names)
    (imp : wild = true → keyword ∈ wildNames) (tail : String) :
    (unary make wild tail).Settles (WellNamed keyword) := by
  refine (Tail.settles_operand tail wild).bind fun o fits => settles_pure ?_
  refine wellNamed_of_none (hnone o) fun name mem => ?_
  exact (fits.named name (reads o ▸ mem)).mono imp

theorem settles_naming {make : Operand → Statement} (hnone : ∀ o, (make o).target? = Option.none)
    (reads : ∀ o, (make o).names = o.names) (tail : String) :
    (naming make tail).Settles (WellNamed keyword) := by
  refine (Tail.settles_listName tail).bind fun o fits => settles_pure ?_
  exact wellNamed_of_none (hnone o) fun name mem => fits.anywhere name (reads o ▸ mem)

theorem settles_storing {make : ScopedName → Statement} {wild : Bool}
    (writes : ∀ target, (make target).target? = some target) (reads : ∀ target, (make target).names = [])
    (imp : wild = true → keyword ∈ wildTargets) (tail : String) :
    (storing make wild tail).Settles (WellNamed keyword) := by
  refine (Tail.settles_soleTarget tail wild).bind fun target own => settles_pure ?_
  refine wellNamed_of_target (writes target) own imp ?_
  rw [reads]
  exact List.forall_mem_nil _

theorem settles_bounded {make : ScopedName → Operand → Operand → Statement}
    (writes : ∀ target a b, (make target a b).target? = some target)
    (reads : ∀ target a b, (make target a b).names = a.names ++ b.names) (tail : String) :
    (bounded make tail).Settles (WellNamed keyword) := by
  refine (Tail.settles_targetAndTwo tail).bind fun ⟨target, a, b⟩ ⟨own, first, second⟩ => settles_pure ?_
  refine wellNamed_of_plain (writes target a b) own ?_
  rw [reads]
  exact List.forall_mem_append.2 ⟨first.anywhere, second.anywhere⟩

theorem settles_drop (tail : String) :
    (do return drop (← Operand.scopedName (← Tail.singleWord tail) true) : Reading Statement).Settles
      (WellNamed "drop") :=
  (Tail.settles_singleWord tail).bind fun word _ =>
    (Operand.settles_scopedName word true).bind fun _ fits => settles_pure
      (wellNamed_of_none rfl (List.forall_mem_singleton.2 (fits.2.mono fun _ => by simp [wildNames])))

/-- **Every reader of a statement settles its line**, and what it yields has the names that its keyword
wants. -/
theorem settles_statements :
    ∀ entry ∈ statements, ∀ tail, (entry.2 tail).Settles (WellNamed entry.1) := by
  have never : ∀ {wild : Prop}, false = true → wild := (absurd · Bool.false_ne_true)
  unfold statements
  refine List.forall_mem_append.2 ⟨List.forall_mem_append.2 ⟨List.forall_mem_append.2 ⟨?_, ?_⟩, ?_⟩, ?_⟩
  · exact List.forall_mem_map.2 fun op _ => settles_fold _ op
  · simp only [List.forall_mem_cons]
    exact ⟨settles_not _, settles_jump _, settles_leap _,
      settles_unary _ (fun _ => rfl) (fun _ => rfl) never, settles_bare _ rfl rfl, settles_has,
      settles_write _, settles_unary _ (fun _ => rfl) (fun _ => rfl) never,
      settles_storing _ (fun _ => rfl) (fun _ => rfl) never, settles_bare _ rfl rfl,
      settles_bounded _ (fun _ _ _ => rfl) fun _ _ _ => rfl,
      settles_bounded _ (fun _ _ _ => rfl) fun _ _ _ => rfl, settles_timestamp _, settles_drop,
      settles_matchText _, settles_unary _ (fun _ => rfl) (fun _ => rfl) fun _ => by simp [wildNames],
      settles_naming _ (fun _ => rfl) fun _ => rfl, settles_listGet, List.forall_mem_nil _⟩
  · refine List.forall_mem_map.2 fun m _ => settles_storing _ (fun _ => rfl) (fun _ => rfl) fun _ => ?_
    cases m <;> simp [wildTargets, CursorMove.keyword]
  · simp only [List.forall_mem_cons]
    exact ⟨settles_listAdd, settles_listRemove _, settles_bare _ rfl rfl, settles_listFilter _,
      settles_listUnique _, settles_listSort _, settles_bare _ rfl rfl, settles_listLimit _,
      settles_naming _ (fun _ => rfl) fun _ => rfl, settles_bare _ rfl rfl, settles_bare _ rfl rfl,
      settles_bare _ rfl rfl, settles_targetAndKey _ (fun _ _ => rfl) fun _ _ => rfl,
      settles_storageSet _, settles_targetAndKey _ (fun _ _ => rfl) fun _ _ => rfl,
      settles_unary _ (fun _ => rfl) (fun _ => rfl) never,
      settles_naming _ (fun _ => rfl) fun _ => rfl, List.forall_mem_nil _⟩

/-! ### Declarations -/

end Grammar

namespace Declaration

/-- The keyword a declaration is written with. -/
def keyword : Declaration → String
  | name _ => "script"
  | description _ => "description"
  | command _ => "command"
  | pattern _ => "regex"
  | interval _ => "periodic"
  | parameter _ required _ => if required then "required" else "optional"
  | type _ => "type"
  | standIn _ => "default"
  | special _ => "special"

/-- What a declaration calls a parameter is a plain name. -/
def WellNamed : Declaration → Prop
  | parameter new _ _ => Name.isPlain new = true
  | _ => True

/-- **A declaration as its keyword wants it.** -/
structure IsFor (keyword : String) (d : Declaration) : Prop where
  same : d.keyword = keyword
  named : d.WellNamed

end Declaration

namespace Grammar

open Reading
open Declaration (IsFor)

theorem settles_scriptName (tail : String) : (scriptName tail).Settles (IsFor "script") :=
  (Tail.settles_singleWord tail).bind fun _ _ =>
    Settles.required rfl fun _ => settles_pure ⟨rfl, trivial⟩

theorem settles_description (tail : String) :
    (do return .description (← Tail.text tail "a description") : Reading Declaration).Settles
      (IsFor "description") :=
  (Tail.settles_text tail _).bind fun _ _ => settles_pure ⟨rfl, trivial⟩

/-- **A command is declared by the first word**, in lower case.  The word is made of letters and digits. -/
theorem settles_command (tail : String) :
    (command tail).Settles fun d => ∃ word, (Text.words tail).head? = some word ∧
      Name.isCommand word = true ∧ d = .command (Case.lowercase word) :=
  (Tail.settles_singleWord tail).bind fun word first =>
    Settles.required rfl fun valid => settles_pure ⟨word, first, valid, rfl⟩

theorem settles_pattern (tail : String) : (pattern tail).Settles (IsFor "regex") := by
  refine (Tail.settles_text tail _).bind fun source _ => ?_
  split
  · exact settles_pure ⟨rfl, trivial⟩
  · exact settles_refuse rfl

theorem settles_interval (tail : String) : (interval tail).Settles (IsFor "periodic") := by
  refine (Tail.settles_singleWord tail).bind fun word _ => ?_
  split
  · exact settles_pure ⟨rfl, trivial⟩
  · exact settles_refuse rfl

/-- **A parameter is declared by a plain name**, with a sigil in front or without one. -/
theorem settles_parameter (required : Bool) (tail : String) :
    (parameter required tail).Settles (IsFor (if required then "required" else "optional")) := by
  have declares : ∀ name seeds, (parameter.declare required name seeds).Settles
      (IsFor (if required then "required" else "optional")) :=
    fun name seeds => Settles.required rfl fun plain => settles_pure ⟨rfl, plain⟩
  refine (Tail.settles_singleWord tail).bind fun word _ => ?_
  simp only
  split
  · exact settles_refuse rfl
  · exact declares _ _
  · exact declares _ _
  · exact declares _ _

theorem settles_type (tail : String) : (type tail).Settles (IsFor "type") := by
  refine (Tail.settles_singleWord tail).bind fun word _ => ?_
  split
  · exact settles_pure ⟨rfl, trivial⟩
  · exact settles_refuse rfl

theorem settles_standIn (tail : String) :
    (do return .standIn (← Tail.text tail "a default value") : Reading Declaration).Settles
      (IsFor "default") :=
  (Tail.settles_text tail _).bind fun _ _ => settles_pure ⟨rfl, trivial⟩

theorem settles_special (tail : String) : (special tail).Settles (IsFor "special") := by
  refine (Tail.settles_singleWord tail).bind fun word _ => ?_
  split
  · exact settles_pure ⟨rfl, trivial⟩
  · exact settles_refuse rfl

/-- **Every declaration that is read is one of the keyword it was read for.** -/
theorem settles_declarations :
    ∀ entry ∈ declarations, ∀ tail, (entry.2 tail).Settles (IsFor entry.1) := by
  simp only [declarations, List.forall_mem_cons]
  refine ⟨settles_scriptName, settles_description, fun tail => ?_, settles_pattern, settles_interval,
    settles_parameter true, settles_parameter false, settles_type, settles_standIn, settles_special,
    List.forall_mem_nil _⟩
  refine (settles_command tail).mono ?_
  rintro d ⟨word, _, _, rfl⟩
  exact ⟨rfl, trivial⟩

end Grammar

/-! ### Instructions -/

namespace Instruction

/-- An instruction as its keyword wants it. -/
def IsFor (keyword : String) : Instruction → Prop
  | declare d => d.IsFor keyword
  | execute s => s.WellNamed keyword

/-- **Every reader settles its line**, and what it yields is for its keyword. -/
theorem settles_reader {keyword : String} {read : String → Reading Instruction}
    (known : reader? keyword = some read) (tail : String) :
    (read tail).Settles (IsFor (Case.asciiLowercase keyword)) := by
  have all : ∀ entry ∈ table, ∀ tail, (entry.2 tail).Settles (IsFor entry.1) := by
    refine List.forall_mem_append.2 ⟨List.forall_mem_map.2 ?_, List.forall_mem_map.2 ?_⟩
    · exact fun entry mem tail => (Grammar.settles_declarations entry mem tail).map fun _ is => is
    · exact fun entry mem tail => (Grammar.settles_statements entry mem tail).map fun _ named => named
  obtain ⟨before, after, split, _⟩ := List.lookup_eq_some_iff.1 known
  exact all (Case.asciiLowercase keyword, read) (by rw [split]; simp) tail

end Instruction

end LineScript
