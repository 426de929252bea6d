import LineScript.Proofs.Commands
import LineScript.Proofs.Refusals
import LineScript.Proofs.Unobserved

/-!
**What the operations on numbers store.**

`add`, `subtract`, `multiply` and `divide` combine numbers of 64 bits from left to right.  Here they are
compared with the exact operations on integers: a sum, difference or product is the exact one, brought back into
the range after each step; a quotient is the exact one, cut off toward zero, and a division fails just at a
divisor of zero and where the least number is divided by minus one.

With one operand, every operation but `set` takes the target's own value for the first.  It reads the target
after the operand, while the target written out as the first operand is read before it.  The two orders leave
the same entries behind, so that nothing tells the two ways of writing apart.

Main definitions:

* `LineScript.clampInt` — the integer of the 64-bit range that is nearest;
* `LineScript.Undividable` — some step of a division has no quotient;
* `LineScript.Session.folded`, `LineScript.Session.numbers` — the values that an operation combines, and their
  numbers;
* `LineScript.Session.Stores`, `LineScript.Session.Complains` — what was executed stored a number, or said that
  a quotient does not exist;
* `LineScript.Text.IsWord` — a text that is one word.

Main results:

* `LineScript.toInt_saturate`, `LineScript.divide?_eq_none_iff`, `LineScript.toInt_of_divide?` — one step;
* `LineScript.FoldOp.toInt_arithmetic`, `LineScript.FoldOp.quotient_spec` — all steps;
* `LineScript.Session.exec_fold_alone` — **one operand is the target and the operand**;
* `LineScript.Grammar.fold_target_written` — the same for lines;
* `LineScript.Session.fold_results` — all of it together.
-/

set_option autoImplicit false

namespace LineScript

/-! ### One step -/

/-- The integer of the 64-bit range that is nearest. -/
def clampInt (n : Int) : Int := max Int64.minValue.toInt (min n Int64.maxValue.toInt)

theorem toInt_saturate (n : Int) : (saturate n).toInt = clampInt n := by
  unfold saturate clampInt
  rw [Int64.toInt_minValue, Int64.toInt_maxValue]
  split
  · rw [Int64.toInt_minValue]
    omega
  · split
    · rw [Int64.toInt_maxValue]
      omega
    · rw [Int64.toInt_ofInt_of_le (by omega) (by omega)]
      omega

/-- **There is no quotient by zero, and none of the least number by minus one.** -/
theorem divide?_eq_none_iff (a b : Int64) :
    divide? a b = none ↔ b.toInt = 0 ∨ (a.toInt = Int64.minValue.toInt ∧ b.toInt = -1) := by
  have zero : b.toInt = 0 ↔ b = 0 := Int64.toInt_inj (y := 0)
  have minusOne : b.toInt = -1 ↔ b = -1 := Int64.toInt_inj (y := -1)
  rw [zero, Int64.toInt_inj, minusOne, divide?]
  split
  · rename_i stuck
    exact iff_of_true rfl stuck
  · rename_i fine
    exact iff_of_false (by simp) fine

/-- A quotient is the exact one, cut off toward zero. -/
theorem toInt_of_divide? {a b q : Int64} (h : divide? a b = some q) : q.toInt = a.toInt.tdiv b.toInt := by
  unfold divide? at h
  split at h
  · cases h
  · rename_i fine
    obtain rfl := Option.some.inj h
    by_cases least : a = Int64.minValue
    · exact Int64.toInt_div_of_ne_right a b fun minusOne => fine (.inr ⟨least, minusOne⟩)
    · exact Int64.toInt_div_of_ne_left a b least

/-! ### All steps -/

/-- **Some step of a division has no quotient**: a divisor is zero, or the least number, reached by the steps
before, is divided by minus one. -/
def Undividable (n : Int) (divisors : List Int) : Prop :=
  ∃ before d after, divisors = before ++ d :: after ∧
    (d = 0 ∨ (before.foldl Int.tdiv n = Int64.minValue.toInt ∧ d = -1))

theorem not_undividable_nil (n : Int) : ¬ Undividable n [] := by
  rintro ⟨before, d, after, eq, _⟩
  simp at eq

/-- The first step has no quotient, or a later one has none. -/
theorem undividable_cons {n d : Int} {ds : List Int} :
    Undividable n (d :: ds) ↔ (d = 0 ∨ (n = Int64.minValue.toInt ∧ d = -1)) ∨ Undividable (n.tdiv d) ds := by
  constructor
  · rintro ⟨before, e, after, eq, stuck⟩
    cases before with
    | nil =>
        obtain ⟨rfl, rfl⟩ := List.cons.inj eq
        exact .inl stuck
    | cons x before =>
        obtain ⟨rfl, rest⟩ := List.cons.inj eq
        exact .inr ⟨before, e, after, rest, stuck⟩
  · rintro (stuck | ⟨before, e, after, rfl, stuck⟩)
    · exact ⟨[], d, ds, rfl, stuck⟩
    · exact ⟨d :: before, e, after, rfl, stuck⟩

namespace FoldOp

/-- **A sum, difference or product is the exact one, brought back into the range after each step.** -/
theorem toInt_arithmetic (f : Int → Int → Int) (first : Value) (rest : List Value) :
    (arithmetic f first rest).number.toInt =
      (rest.map fun v => v.number.toInt).foldl (fun acc n => clampInt (f acc n)) first.number.toInt := by
  rw [arithmetic, Value.number_ofNumber]
  generalize first.number = acc
  induction rest generalizing acc with
  | nil => rfl
  | cons v rest ih => rw [List.foldl_cons, ih, List.map_cons, List.foldl_cons, toInt_saturate]

/-- **A division fails just if some step has no quotient**, and gives the exact quotient otherwise. -/
theorem quotient_spec (acc : Int64) (vs : List Value) :
    (Undividable acc.toInt (vs.map fun v => v.number.toInt) ∧
        ∃ a b, quotient acc vs = .error (.cannotDivide a b)) ∨
      (¬ Undividable acc.toInt (vs.map fun v => v.number.toInt) ∧
        ∃ q : Int64, quotient acc vs = .ok q ∧
          q.toInt = (vs.map fun v => v.number.toInt).foldl Int.tdiv acc.toInt) := by
  induction vs generalizing acc with
  | nil => exact .inr ⟨not_undividable_nil _, acc, rfl, rfl⟩
  | cons v vs ih =>
      rw [List.map_cons, undividable_cons, ← divide?_eq_none_iff, List.foldl_cons]
      cases step : divide? acc v.number with
      | none => exact .inl ⟨.inl rfl, acc, v.number, by simp [quotient, step]⟩
      | some q =>
          have next : quotient acc (v :: vs) = quotient q vs := by simp [quotient, step]
          rw [next, ← toInt_of_divide? step]
          simpa using ih q

end FoldOp

/-! ### Reads in either order -/

namespace ValueMap

theorem get?_touch_eq (m : ValueMap) (read key : String) :
    (m.touch read).get? key = if key = read then some (m.read key) else m.get? key := by
  unfold touch
  by_cases same : key = read
  · subst same
    cases there : m.get? key with
    | none => simp [KeyMap.contains, there, ValueMap.read]
    | some v => simp [KeyMap.contains, there, ValueMap.read]
  · rw [if_neg same]
    split
    · rfl
    · exact KeyMap.get?_insert_of_ne m same _

/-- Two reads leave the same entries behind, whichever comes first. -/
theorem touch_comm (m : ValueMap) (a b : String) : (m.touch a).touch b = (m.touch b).touch a := by
  refine KeyMap.ext_get? fun key v => ?_
  rw [get?_touch_eq, get?_touch_eq, get?_touch_eq, get?_touch_eq, read_touch, read_touch]
  split <;> split <;> rfl

end ValueMap

namespace Session

variable (s : Session)

theorem touch_touchName (o : Operand) (name : ScopedName) :
    (s.touch o).touchName name = (s.touchName name).touch o := by
  have values : (o.touch s.values).touch name.key = o.touch (s.values.touch name.key) := by
    cases o with
    | constant v => rfl
    | named other =>
        simp only [Operand.touch]
        split
        · rfl
        · exact ValueMap.touch_comm _ _ _
  exact congrArg s.setValues values

/-- **One operand is the target and the operand**: what a single operand is combined with may as well be
written in front of it. -/
theorem exec_fold_alone {op : FoldOp} (combines : op ≠ .set) {target : ScopedName}
    (plain : target.wildcard = false) (o : Operand) :
    s.exec (.fold op target [o]) = s.exec (.fold op target [.named target, o]) := by
  have value : s.value (.named target) = s.valueOf target := by
    simp [Session.value, Operand.value, plain, valueOf]
  have touch : s.touch (.named target) = s.touchName target := by
    simp [Session.touch, Operand.touch, plain, touchName]
  simp only [exec, execFold, List.map_cons, List.map_nil, List.length_cons, List.length_nil, List.foldl_cons,
    List.foldl_nil, value, touch, touch_touchName]
  simp [combines]

/-! ### What is stored, and what is said -/

/-- **The values that an operation combines**: those of the operands, but the target's own comes first if there
is only one operand and the operation is not `set`. -/
def folded (op : FoldOp) (target : ScopedName) (o : Operand) (more : List Operand) : Value × List Value :=
  if more = [] ∧ op ≠ .set then (s.valueOf target, [s.value o]) else (s.value o, more.map s.value)

/-- **What was executed stored a number**: the target has it, every other name reads as before, and nothing else
has changed or was shown. -/
structure Stores (done : Flow × Session) (target : ScopedName) (n : Int) : Prop where
  next : done.1 = .next
  rest : done.2 = { s with context.values := done.2.values }
  values : ∃ m : Int64, m.toInt = n ∧
    ∀ key, done.2.values.read key = if key = target.key then .ofNumber m else s.values.read key

/-- **What was executed said that a quotient does not exist**: one error is broadcast, every name reads as
before, and nothing else has changed. -/
structure Complains (done : Flow × Session) : Prop where
  next : done.1 = .next
  rest : ∃ a b : Int64, done.2 = { s with
    context.values := done.2.values
    host := s.host.emit (.broadcast ⟨.error, s.context.script, (Remark.cannotDivide a b).message⟩) }
  values : ∀ key, done.2.values.read key = s.values.read key

/-- The session has read some of its values, and no more. -/
structure Reread (t : Session) : Prop where
  rest : t = { s with context.values := t.values }
  values : ∀ key, t.values.read key = s.values.read key

theorem reread_refl : s.Reread s := ⟨rfl, fun _ => rfl⟩

variable {s}
variable {t : Session}

theorem Reread.touchName (reread : s.Reread t) (name : ScopedName) : s.Reread (t.touchName name) where
  rest := by
    conv_lhs => rw [reread.rest]
    rfl
  values key := by rw [← reread.values]; exact ValueMap.read_touch _ _ _

theorem Reread.touch (reread : s.Reread t) (o : Operand) : s.Reread (t.touch o) := by
  cases o with
  | constant v => exact reread
  | named name =>
      cases wild : name.wildcard with
      | true =>
          have same : t.touch (.named name) = t := by
            simp only [Session.touch, Operand.touch, wild, if_true]
            rfl
          rwa [same]
      | false =>
          have same : t.touch (.named name) = t.touchName name := by
            simp [Session.touch, Operand.touch, wild, Session.touchName]
          rw [same]
          exact reread.touchName name

theorem Reread.operands (reread : s.Reread t) (os : List Operand) : s.Reread (os.foldl Session.touch t) := by
  induction os generalizing t with
  | nil => exact reread
  | cons o os ih => exact ih (reread.touch o)

variable (s)

/-- **An operation is executed in three steps**: the operands are read, their values are combined, and the
result is stored or said not to exist. -/
theorem exists_reread_execFold (op : FoldOp) (target : ScopedName) (o : Operand) (more : List Operand) :
    ∃ t, s.Reread t ∧
      (∀ v, op.combine (s.folded op target o more).1 (s.folded op target o more).2 = .ok v →
        s.execFold op target (o :: more) = t.assign target v) ∧
      ∀ r, op.combine (s.folded op target o more).1 (s.folded op target o more).2 = .error r →
        s.execFold op target (o :: more) = t.remark r := by
  have read := s.reread_refl.operands (o :: more)
  have single : (List.map s.value (o :: more)).length = 1 ↔ more = [] := by simp
  unfold folded execFold
  simp only [single]
  by_cases alone : more = [] ∧ op ≠ .set
  · simp only [if_pos alone]
    obtain ⟨rfl, _⟩ := alone
    refine ⟨_, read.touchName target, fun v combined => ?_, fun r combined => ?_⟩
    · simp only [List.map_cons, List.map_nil, combined]
    · simp only [List.map_cons, List.map_nil, combined]
  · simp only [if_neg alone]
    refine ⟨_, read, fun v combined => ?_, fun r combined => ?_⟩
    · simp only [List.map_cons, combined]
    · simp only [List.map_cons, combined]

/-- The numbers that an operation combines. -/
def numbers (op : FoldOp) (target : ScopedName) (o : Operand) (more : List Operand) : Int × List Int :=
  ((s.folded op target o more).1.number.toInt, (s.folded op target o more).2.map fun v => v.number.toInt)

variable {s}

theorem Reread.stores (reread : s.Reread t) (target : ScopedName) (m : Int64) :
    s.Stores (.next, t.assign target (.ofNumber m)) target m.toInt where
  next := rfl
  rest := by
    conv_lhs => rw [reread.rest]
    rfl
  values := ⟨m, rfl, fun key => by rw [← reread.values]; exact ValueMap.read_set _ _ _ _⟩

theorem Reread.complains (reread : s.Reread t) (a b : Int64) :
    s.Complains (.next, t.remark (.cannotDivide a b)) where
  next := rfl
  rest := by
    refine ⟨a, b, ?_⟩
    conv_lhs => rw [reread.rest]
    rfl
  values := reread.values

/-- What was shown tells an error from a number that was stored. -/
theorem Complains.not_stores {done : Flow × Session} {target : ScopedName} {n : Int}
    (complains : s.Complains done) : ¬ s.Stores done target n := by
  intro stores
  obtain ⟨a, b, shown⟩ := complains.rest
  have emitted := congrArg (fun t : Session => t.host.emitted.length) (shown.symm.trans stores.rest)
  simp [Host.emit] at emitted

variable (s)

/-- An operation that clamps stores the exact result, brought back into the range after each step. -/
theorem stores_arithmetic {op : FoldOp} {f : Int → Int → Int}
    (is : ∀ first rest, op.combine first rest = .ok (FoldOp.arithmetic f first rest)) (target : ScopedName)
    (o : Operand) (more : List Operand) :
    s.Stores (s.exec (.fold op target (o :: more))) target
      ((s.numbers op target o more).2.foldl (fun acc n => clampInt (f acc n))
        (s.numbers op target o more).1) := by
  obtain ⟨t, reread, stored, _⟩ := s.exists_reread_execFold op target o more
  have done : s.exec (.fold op target (o :: more)) = (.next, t.assign target (.ofNumber _)) :=
    congrArg (Prod.mk Flow.next) (stored _ (is _ _))
  rw [done, numbers, ← FoldOp.toInt_arithmetic]
  exact reread.stores target _

/-- **A division says that a quotient does not exist, or stores the exact one.** -/
theorem divide_complains_or_stores (target : ScopedName) (o : Operand) (more : List Operand) :
    (Undividable (s.numbers .divide target o more).1 (s.numbers .divide target o more).2 ∧
        s.Complains (s.exec (.fold .divide target (o :: more)))) ∨
      (¬ Undividable (s.numbers .divide target o more).1 (s.numbers .divide target o more).2 ∧
        s.Stores (s.exec (.fold .divide target (o :: more))) target
          ((s.numbers .divide target o more).2.foldl Int.tdiv (s.numbers .divide target o more).1)) := by
  obtain ⟨t, reread, stored, said⟩ := s.exists_reread_execFold .divide target o more
  rcases FoldOp.quotient_spec (s.folded .divide target o more).1.number (s.folded .divide target o more).2 with
    ⟨stuck, a, b, failed⟩ | ⟨fine, q, reached, value⟩
  · refine .inl ⟨stuck, ?_⟩
    have done : s.exec (.fold .divide target (o :: more)) = (.next, t.remark (.cannotDivide a b)) :=
      congrArg (Prod.mk Flow.next) (said _ (by rw [FoldOp.combine, failed]; rfl))
    rw [done]
    exact reread.complains a b
  · refine .inr ⟨fine, ?_⟩
    have done : s.exec (.fold .divide target (o :: more)) = (.next, t.assign target (.ofNumber q)) :=
      congrArg (Prod.mk Flow.next) (stored _ (by rw [FoldOp.combine, reached]; rfl))
    rw [done, numbers, ← value]
    exact reread.stores target q

end Session

/-! ### Words -/

namespace Text

/-- **The text is one word**: it has a character, and none that is blank. -/
structure IsWord (word : String) : Prop where
  nonempty : word ≠ ""
  solid : ∀ c ∈ word.toList, Blank.isBlank c = false

instance (word : String) : Decidable (IsWord word) :=
  decidable_of_iff (word ≠ "" ∧ word.toList.all (!Blank.isBlank ·) = true)
    ⟨fun ⟨nonempty, solid⟩ => ⟨nonempty, by simpa using solid⟩, fun is => ⟨is.nonempty, by simpa using is.solid⟩⟩

variable {word : String}

theorem IsWord.words_eq (is : IsWord word) : words word = [word] := by
  simp [words, Blank.words, Blank.pieces_of_cut_none (Blank.cut_eq_none.2 is.solid), is.nonempty]

theorem IsWord.cutOrAll_append (is : IsWord word) (rest : String) :
    cutOrAll (trimStart (word ++ " " ++ rest)) = (word, rest) := by
  have chars : word ++ " " ++ rest = .ofList (word.toList ++ ' ' :: rest.toList) := by
    rw [← String.toList_inj]
    simp
  have front : Blank.trimStart (word.toList ++ ' ' :: rest.toList) = word.toList ++ ' ' :: rest.toList := by
    cases shape : word.toList with
    | nil => exact absurd (by simpa using shape) is.nonempty
    | cons c cs => simp [Blank.trimStart, is.solid c (by simp [shape])]
  have stops : ∀ c ∈ (' ' :: rest.toList).head?, Blank.isBlank c = true := by simp [Blank.isBlank]
  rw [trimStart, chars, String.toList_ofList, front, cutOrAll_ofList, Blank.cut_append is.solid stops]
  simp

theorem IsWord.words_append (is : IsWord word) (rest : String) :
    words (word ++ " " ++ rest) = word :: words rest := by
  rcases words_of_cutOrAll (trimmed_trimStart (word ++ " " ++ rest)) with ⟨_, nothing, _⟩ | ⟨_, words⟩
  · rw [is.cutOrAll_append] at nothing
    exact absurd (Prod.mk.inj nothing).1 is.nonempty
  · rwa [is.cutOrAll_append, words_trimStart, words_trimStart] at words

end Text

open Reading

/-- A word that may be a target has the sigil of variables, and is a well-formed name. -/
theorem Name.isScoped_of_isVariable {word : String} (fits : Name.isVariable word false = true) :
    (∃ rest, word.toList = '!' :: rest) ∧ Name.isScoped word false = true := by
  unfold Name.isVariable Name.isScopedBy at fits
  unfold Name.isScoped Name.isScopedBy
  cases chars : word.toList with
  | nil => simp [chars] at fits
  | cons c rest =>
      simp only [chars, Bool.and_eq_true, beq_iff_eq] at fits ⊢
      obtain ⟨⟨rfl, unmarked⟩, plain⟩ := fits
      exact ⟨⟨rest, rfl⟩, ⟨rfl, unmarked⟩, plain⟩

/-- A word that may be a target is read as an operand as well. -/
theorem Operand.outcome_read_variable {word : String} {name : ScopedName}
    (fits : Name.isVariable word false = true) (parsed : ScopedName.parse? word = some name) :
    (Operand.read word false).outcome [] = (some (.named name), []) := by
  obtain ⟨⟨rest, chars⟩, wellFormed⟩ := Name.isScoped_of_isVariable fits
  unfold Operand.read
  simp only [chars, Operand.scopedName, valueName, require, wellFormed, if_true, parsed]
  rfl

theorem Tail.outcome_target {word : String} (is : Text.IsWord word) (rest : String) :
    ((Tail.target (word ++ " " ++ rest) false).outcome []) =
      if Name.isVariable word false then ((ScopedName.parse? word).map fun name => (name, rest), [])
      else (Option.none, [.fault (.badVariable word)]) := by
  unfold Tail.target
  simp only [is.cutOrAll_append, String.isEmpty_iff, is.nonempty, if_false, variableName]
  cases fits : Name.isVariable word false with
  | false => rfl
  | true =>
      cases ScopedName.parse? word with
      | none => rfl
      | some name => rfl

/-- Of several words at least one has to be there. -/
theorem Tail.outcome_operands {rest : String} (hne : Text.words rest ≠ []) (most : Nat) :
    (Tail.operands rest 1 most true).outcome [] = (every (Operand.read · false) (Text.words rest)).outcome [] := by
  have count : ¬ (Text.words rest).length < 1 := by
    have := List.length_pos_iff.2 hne
    omega
  simp only [Tail.operands, argCount, count, if_false, Bool.not_true, Bool.and_false]
  rfl

theorem Grammar.outcome_fold {op : FoldOp} (combines : op ≠ .set) {word : String} (is : Text.IsWord word)
    {name : ScopedName} (fits : Name.isVariable word false = true) (parsed : ScopedName.parse? word = some name)
    (rest : String) (hne : Text.words rest ≠ []) :
    (Grammar.fold op (word ++ " " ++ rest)).outcome [] =
      (((every (Operand.read · false) (Text.words rest)).outcome []).1.map (Statement.fold op name),
        ((every (Operand.read · false) (Text.words rest)).outcome []).2) := by
  rw [Grammar.fold, outcome_bind, Tail.outcome_target is, if_pos fits, parsed]
  simp only [Option.map_some, combines, if_false, ne_eq, not_false_eq_true, decide_true]
  rw [outcome_bind, Tail.outcome_operands hne]
  cases ((every (Operand.read · false) (Text.words rest)).outcome []).1 with
  | none => rfl
  | some os => rfl

/-- The reader of the keyword of an operation. -/
theorem Instruction.reader?_fold (op : FoldOp) :
    reader? op.keyword = some fun tail => execute <$> Grammar.fold op tail := by
  cases op <;> rfl

theorem FoldOp.isKeyword_keyword (op : FoldOp) : IsKeyword op.keyword.toList := by
  have solid : op.keyword.toList.all (fun c => !Blank.isBlank c) = true := by cases op <;> decide
  have first : ∃ c rest, op.keyword.toList = c :: rest ∧ c ≠ '#' ∧ c ≠ Name.labelSigil := by
    cases op <;> exact ⟨_, _, rfl, by decide, by decide⟩
  obtain ⟨c, rest, shape, comment, label⟩ := first
  exact ⟨c, rest, shape, comment, label, by simpa using solid⟩

theorem Reading.outcome_map {α β : Type} (f : α → β) (r : Reading α) (before : List Finding) :
    (f <$> r).outcome before = ((r.outcome before).1.map f, (r.outcome before).2) := by
  change (r >>= fun a => pure (f a)).outcome before = _
  rw [outcome_bind]
  cases (r.outcome before).1 with
  | none => rfl
  | some a => rfl

/-- A keyword of statements and its tail are the statement that is read without a fault. -/
theorem Instruction.read?_eq_execute_iff {keyword : String} {read : String → Reading Statement}
    (known : reader? keyword = some fun tail => execute <$> read tail) {tail : String} {st : Statement} :
    read? keyword tail = some (.execute st) ↔
      ((read tail).outcome []).1 = some st ∧ sound ((read tail).outcome []).2 = true := by
  unfold read?
  simp only [known, outcome_map]
  cases ((read tail).outcome []).1 with
  | none => simp
  | some other => by_cases fine : sound ((read tail).outcome []).2 = true <;> simp [fine]

/-- A line of an operation brings in the statement that its tail is read as. -/
theorem Item.ofText_fold_eq_statement {op : FoldOp} {tail : String} {st : Statement} :
    Item.ofText (op.keyword ++ " " ++ tail) = .statement st ↔
      ((Grammar.fold op tail).outcome []).1 = some st ∧ sound ((Grammar.fold op tail).outcome []).2 = true := by
  have item : Item.ofText (op.keyword ++ " " ++ tail) =
      Item.ofInstruction (Instruction.read? op.keyword tail) := by
    unfold Item.ofText
    rw [Line.ofText_keyword op.isKeyword_keyword]
  rw [item, ← Instruction.read?_eq_execute_iff (Instruction.reader?_fold op)]
  generalize Instruction.read? op.keyword tail = read
  rcases read with _ | (d | other)
  · simp [Item.ofInstruction]
  · simp [Item.ofInstruction]
  · simp [Item.ofInstruction]

/-- **A target that is written out as the first operand makes no difference**, to any session. -/
theorem Grammar.fold_target_written {op : FoldOp} (combines : op ≠ .set) {word operand : String}
    (is : Text.IsWord word) (one : Text.IsWord operand) {st : Statement}
    (read : Item.ofText (op.keyword ++ " " ++ (word ++ " " ++ operand)) = .statement st) :
    ∃ st', Item.ofText (op.keyword ++ " " ++ (word ++ " " ++ (word ++ " " ++ operand))) = .statement st' ∧
      ∃ name o, st = .fold op name [o] ∧ st' = .fold op name [.named name, o] ∧ name.wildcard = false := by
  obtain ⟨yields, fine⟩ := Item.ofText_fold_eq_statement.1 read
  have fits : Name.isVariable word false = true := by
    by_contra unfit
    rw [Grammar.fold, outcome_bind, Tail.outcome_target is, if_neg unfit] at yields
    cases yields
  obtain ⟨name, parsed, target⟩ := ScopedName.parse?_of_isVariable fits
  have plain : name.wildcard = false := Bool.eq_false_iff.2 fun wild => by cases target.fits.mark wild
  have short := Grammar.outcome_fold combines is fits parsed operand (by simp [one.words_eq])
  have long := Grammar.outcome_fold combines is fits parsed (word ++ " " ++ operand)
    (by simp [is.words_append])
  rw [is.words_append, Reading.outcome_every_cons, Operand.outcome_read_variable fits parsed,
    one.words_eq] at long
  rw [one.words_eq] at short
  rw [short] at yields fine
  obtain ⟨os, all, rfl⟩ := Option.map_eq_some_iff.1 yields
  have length := ((settles_every (fun w => Operand.settles_read w false) [operand]).only all).1
  obtain ⟨o, rfl⟩ := List.length_eq_one_iff.1 length
  refine ⟨.fold op name [.named name, o], Item.ofText_fold_eq_statement.2 ?_, name, o, rfl, rfl, plain⟩
  rw [long, all]
  exact ⟨rfl, fine⟩

/-! ### All of it together -/

/-- **What the operations on numbers do.**  One operand is the same as the target and the operand, for statements
and for lines.  Sums, differences and products are exact and clamped step by step.  A division says so just if
some step has no quotient, and stores the exact quotient, cut off toward zero, otherwise. -/
theorem Session.fold_results (s : Session) (target : ScopedName) (o : Operand) (more : List Operand) :
    (∀ op, op ≠ FoldOp.set → target.wildcard = false →
      s.exec (.fold op target [o]) = s.exec (.fold op target [.named target, o])) ∧
    (∀ op, op ≠ FoldOp.set → ∀ word operand, Text.IsWord word → Text.IsWord operand → ∀ st,
      Item.ofText (op.keyword ++ " " ++ (word ++ " " ++ operand)) = .statement st →
      ∃ st', Item.ofText (op.keyword ++ " " ++ (word ++ " " ++ (word ++ " " ++ operand))) = .statement st' ∧
        s.exec st = s.exec st') ∧
    s.Stores (s.exec (.fold .add target (o :: more))) target
      ((s.numbers .add target o more).2.foldl (fun acc n => clampInt (acc + n))
        (s.numbers .add target o more).1) ∧
    s.Stores (s.exec (.fold .subtract target (o :: more))) target
      ((s.numbers .subtract target o more).2.foldl (fun acc n => clampInt (acc - n))
        (s.numbers .subtract target o more).1) ∧
    s.Stores (s.exec (.fold .multiply target (o :: more))) target
      ((s.numbers .multiply target o more).2.foldl (fun acc n => clampInt (acc * n))
        (s.numbers .multiply target o more).1) ∧
    (s.Complains (s.exec (.fold .divide target (o :: more))) ↔
      Undividable (s.numbers .divide target o more).1 (s.numbers .divide target o more).2) ∧
    (¬ Undividable (s.numbers .divide target o more).1 (s.numbers .divide target o more).2 →
      s.Stores (s.exec (.fold .divide target (o :: more))) target
        ((s.numbers .divide target o more).2.foldl Int.tdiv (s.numbers .divide target o more).1)) := by
  refine ⟨fun op combines plain => s.exec_fold_alone combines plain o, ?_,
    s.stores_arithmetic (fun _ _ => rfl) target o more, s.stores_arithmetic (fun _ _ => rfl) target o more,
    s.stores_arithmetic (fun _ _ => rfl) target o more, ?_⟩
  · intro op combines word operand is one st read
    obtain ⟨st', read', name, v, rfl, rfl, plain⟩ := Grammar.fold_target_written combines is one read
    exact ⟨_, read', s.exec_fold_alone combines plain v⟩
  · rcases s.divide_complains_or_stores target o more with ⟨stuck, complains⟩ | ⟨fine, stores⟩
    · exact ⟨iff_of_true complains stuck, fun fine => absurd stuck fine⟩
    · exact ⟨iff_of_false (fun complains => complains.not_stores stores) fine, fun _ => stores⟩

/-- The least number has no quotient by minus one, and its sum with minus one is brought back to it.  The line of
the sum may name the target twice. -/
theorem Session.fold_results_least :
    let s : Session := ⟨.ofInputs "s" { values := KeyMap.empty.insert "!x" (.ofNumber Int64.minValue) }, {}⟩
    let x : ScopedName := .plain .script "x"
    s.Complains (s.exec (.fold .divide x [.constant (.ofNumber (-1))])) ∧
      s.Stores (s.exec (.fold .add x [.constant (.ofNumber (-1))])) x Int64.minValue.toInt ∧
      ∃ st st', Item.ofText ("add" ++ " " ++ ("!x" ++ " " ++ "-1")) = .statement st ∧
        Item.ofText ("add" ++ " " ++ ("!x" ++ " " ++ ("!x" ++ " " ++ "-1"))) = .statement st' ∧
        s.exec st = s.exec st' := by
  intro s x
  obtain ⟨_, lines, add, _, _, divide, _⟩ := fold_results s x (.constant (.ofNumber (-1))) []
  have numbers : ∀ op, op ≠ FoldOp.set → s.numbers op x (.constant (.ofNumber (-1))) [] = (Int64.minValue.toInt, [-1]) := by
    intro op combines
    rw [Session.numbers, folded, if_pos ⟨rfl, combines⟩]
    decide +kernel
  have hsome : ((Grammar.fold .add ("!x" ++ " " ++ "-1")).outcome []).1.isSome = true := by decide +kernel
  obtain ⟨st, yields⟩ := Option.isSome_iff_exists.1 hsome
  have read := Item.ofText_fold_eq_statement.2 ⟨yields, by decide +kernel⟩
  rw [numbers .divide (by decide)] at divide
  rw [numbers .add (by decide)] at add
  obtain ⟨st', read', same⟩ := lines .add (by decide) "!x" "-1" (by decide) (by decide) st read
  exact ⟨divide.2 ⟨[], -1, [], rfl, .inr ⟨rfl, rfl⟩⟩, add, st, st', read, read', same⟩

end LineScript
