import LineScript.Proofs.Diagnosis
import LineScript.Proofs.Refusals
import Mathlib.Data.List.DropRight

/-!
**The parameters of a script go together, and what binding can fail on.**

Parameters are put together by several lines each, in any order: a type may come after the default that
has to be of it.  Some rules are kept by every declaration, the others are looked at when all lines have
been read.  Here it is shown that the parameters of a script meet all of them, and what that is good for:
a call fails on a word of its text or for want of one, never on a default.

Main definitions:

* `LineScript.Parameter.WellFormed` — the rules for a list of parameters;
* `LineScript.Parameter.Fails` — why a word, or none, does not do for a parameter.

Main results:

* `LineScript.Text.words_of_cutOrAll` — binding goes through the words of the text one by one;
* `LineScript.Parameter.faults_eq_nil_iff` — what is looked at in the end;
* `LineScript.Script.declared_names` — what every declaration keeps;
* `LineScript.Parameter.bindFrom_eq_error_iff` — **binding fails just for the first parameter that its word
  does not do for**;
* `LineScript.compile_parameters_bind` — the parameters of a compiled script are well formed, and so it is
  with every call.
-/

set_option autoImplicit false

namespace LineScript

/-! ### Words and cuts -/

namespace Blank

theorem pieces_of_cut {cs before after : List Char} (h : cut cs = some (before, after)) :
    pieces cs = before :: pieces after := by
  induction cs generalizing before with
  | nil => simp [cut] at h
  | cons c cs ih =>
      by_cases blank : isBlank c
      · simp only [cut, blank, if_true, Option.some.injEq, Prod.mk.injEq] at h
        obtain ⟨rfl, rfl⟩ := h
        simp [pieces, blank]
      · simp only [cut, blank, Bool.false_eq_true, if_false] at h
        obtain ⟨⟨front, back⟩, inner, eq⟩ := Option.map_eq_some_iff.1 h
        obtain ⟨rfl, rfl⟩ := Prod.mk.inj eq
        simp [pieces, blank, ih inner]

theorem pieces_of_cut_none {cs : List Char} (h : cut cs = none) : pieces cs = [cs] := by
  induction cs with
  | nil => rfl
  | cons c cs ih =>
      by_cases blank : isBlank c
      · simp [cut, blank] at h
      · simp only [cut, blank, Bool.false_eq_true, if_false, Option.map_eq_none_iff] at h
        simp [pieces, blank, ih h]

/-- Blanks at the front belong to no word. -/
theorem words_trimStart (cs : List Char) : words (trimStart cs) = words cs := by
  induction cs with
  | nil => rfl
  | cons c cs ih =>
      by_cases blank : isBlank c
      · have skips : trimStart (c :: cs) = trimStart cs := by simp [trimStart, blank]
        rw [skips, ih]
        simp [words, pieces, blank]
      · have stays : trimStart (c :: cs) = c :: cs := by simp [trimStart, blank]
        rw [stays]

end Blank

namespace Text

/-- The text starts with no blank. -/
def Trimmed (text : String) : Prop := trimStart text = text

theorem trimmed_trimStart (text : String) : Trimmed (trimStart text) := by
  simp [Trimmed, trimStart, Blank.trimStart, List.dropWhile_idempotent]

theorem words_trimStart (text : String) : words (trimStart text) = words text := by
  simp [words, trimStart, Blank.words_trimStart]

/-- **A text that starts with no blank is cut after its first word**; only without a word is there nothing
before the cut, and then there is nothing after it. -/
theorem words_of_cutOrAll {text : String} (trimmed : Trimmed text) :
    (text = "" ∧ cutOrAll text = ("", "") ∧ words text = []) ∨
      ((cutOrAll text).1 ≠ "" ∧
        words text = (cutOrAll text).1 :: words (trimStart (cutOrAll text).2)) := by
  rw [words_trimStart]
  unfold cutOrAll cut
  cases split : Blank.cut text.toList with
  | none =>
      by_cases empty : text = ""
      · exact .inl ⟨empty, by simp [empty], by simp [empty, words, Blank.words, Blank.pieces]⟩
      · have hne : text.toList ≠ [] := by simpa using empty
        refine .inr ⟨by simpa using empty, ?_⟩
        simp [words, Blank.words, Blank.pieces_of_cut_none split, hne, Blank.pieces]
  | some parts =>
      obtain ⟨before, after⟩ := parts
      have solid : before ≠ [] := by
        -- otherwise the cut would be at a blank in front
        rintro rfl
        obtain ⟨c, blank, chars, _⟩ := Blank.cut_eq_append split
        have shorter := congrArg (fun s => s.toList.length) trimmed
        have drops : (after.dropWhile Blank.isBlank).length ≤ after.length :=
          (List.dropWhile_sublist _).length_le
        simp only [trimStart, Blank.trimStart, chars, List.nil_append, String.toList_ofList,
          List.dropWhile_cons_of_pos blank, List.length_cons] at shorter
        omega
      refine .inr ⟨by simpa using solid, ?_⟩
      simp [words, Blank.words, Blank.pieces_of_cut split, solid]

end Text

namespace Parameter

/-! ### The rules, and which of them are looked at in the end -/

/-- **The rules for a list of parameters.** -/
structure WellFormed (ps : List Parameter) : Prop where
  named : ∀ p ∈ ps, p.name ≠ "" ∧ ∀ c ∈ p.name.toList, Letter.isAlphanumeric c = true ∨ c = '.'
  distinct : (ps.map Parameter.name).Nodup
  /-- no required one follows an optional one -/
  ordered : ps.Pairwise fun p q => p.required = false → q.required = false
  /-- only the last can take all that is left -/
  tailLast : ∀ p ∈ ps.dropLast, p.type ≠ .tail
  /-- every default is of the type that the parameter has in the end -/
  standIns : ∀ p ∈ ps, ∀ text, p.standIn = some text → ∃ value, p.convert text = .ok value

theorem faultsAt_eq_nil_iff (p : Parameter) (optional : Option String) (isLast : Bool) :
    p.faultsAt optional isLast = [] ↔
      (isLast = false → p.type ≠ .tail) ∧ (optional.isSome = true → p.required = false) ∧
        ∀ text, p.standIn = some text → ∃ value, p.convert text = .ok value := by
  unfold faultsAt
  rw [List.append_eq_nil_iff, List.append_eq_nil_iff, and_assoc]
  refine and_congr ?_ (and_congr ?_ ?_)
  · cases isLast <;> simp
  · cases optional <;> simp
  · cases standIn : p.standIn with
    | none => simp
    | some text => cases converted : p.convert text <;> simp [converted]

theorem faultsFrom_eq_nil_iff (i : Nat) (optional : Option String) (ps : List Parameter) :
    faultsFrom i optional ps = [] ↔
      (optional.isSome = true → ∀ p ∈ ps, p.required = false) ∧
        (ps.Pairwise fun p q => p.required = false → q.required = false) ∧
        (∀ p ∈ ps.dropLast, p.type ≠ .tail) ∧
        ∀ p ∈ ps, ∀ text, p.standIn = some text → ∃ value, p.convert text = .ok value := by
  induction ps generalizing i optional with
  | nil => simp [faultsFrom]
  | cons p ps ih =>
      have after : (optional <|> if p.required then none else some p.name).isSome = true ↔
          optional.isSome = true ∨ p.required = false := by
        cases optional <;> cases p.required <;> simp
      have inner : (∀ q ∈ (p :: ps).dropLast, q.type ≠ .tail) ↔
          (ps.isEmpty = false → p.type ≠ .tail) ∧ ∀ q ∈ ps.dropLast, q.type ≠ .tail := by
        cases ps <;> simp
      simp only [faultsFrom, List.append_eq_nil_iff, List.map_eq_nil_iff, faultsAt_eq_nil_iff, ih, after,
        inner, List.pairwise_cons, List.forall_mem_cons]
      grind

/-- **What is looked at in the end**, when all lines have been read. -/
theorem faults_eq_nil_iff (ps : List Parameter) :
    faults ps = [] ↔
      (ps.Pairwise fun p q => p.required = false → q.required = false) ∧
        (∀ p ∈ ps.dropLast, p.type ≠ .tail) ∧
        ∀ p ∈ ps, ∀ text, p.standIn = some text → ∃ value, p.convert text = .ok value := by
  simp [faults, faultsFrom_eq_nil_iff]

/-! ### Binding -/

/-- **Why a word, or none, does not do for a parameter**: the word is not of its type, or there is none
where one is required and nothing stands in. -/
inductive Fails (p : Parameter) : Option String → BindError → Prop
  | word {w : String} {e : BindError} (wrong : p.convert w = .error e) : Fails p (some w) e
  | missing (required : p.required = true) (without : p.standIn = none) :
      Fails p none (.missing p.name)

theorem Fails.unique {p : Parameter} {word? : Option String} {e e' : BindError} (h : p.Fails word? e)
    (h' : p.Fails word? e') : e = e' := by
  cases h with
  | word wrong =>
      cases h' with
      | word wrong' => exact Except.error.inj (wrong.symm.trans wrong')
  | missing _ _ =>
      cases h' with
      | missing _ _ => rfl

theorem convert_of_tail {p : Parameter} (tail : p.type = .tail) (text : String) :
    p.convert text = .ok (.ofText text) := by
  simp [convert, tail]

/-- The argument that a parameter takes from the text, if any is left. -/
def argument? (p : Parameter) (text : String) : Option String :=
  if (p.take text).1.isEmpty then none else some (p.take text).1

/-- Binding the first of several parameters fails, or leaves the rest of the text for the others. -/
theorem bindFrom_cons {p : Parameter} (ps : List Parameter) (text : String) (values : ValueMap)
    (standIns : ∀ text, p.standIn = some text → ∃ value, p.convert text = .ok value) :
    (∃ e, p.Fails (p.argument? text) e ∧ bindFrom (p :: ps) text values = (.error e, values)) ∨
      (∀ e, ¬ p.Fails (p.argument? text) e) ∧
        ∃ values', bindFrom (p :: ps) text values = bindFrom ps (p.take text).2 values' := by
  unfold argument?
  rw [bindFrom]
  cases empty : (p.take text).1.isEmpty with
  | true =>
      simp only [empty, if_true]
      cases standIn : p.standIn with
      | none =>
          cases required : p.required with
          | true => exact .inl ⟨_, .missing required standIn, rfl⟩
          | false =>
              refine .inr ⟨fun e fails => ?_, values, rfl⟩
              cases fails with
              | missing needed _ => exact Bool.false_ne_true (required.symm.trans needed)
      | some other =>
          obtain ⟨value, converted⟩ := standIns other standIn
          refine .inr ⟨fun e fails => ?_, p.store value values, by simp only [converted]⟩
          cases fails with
          | missing _ without => exact Option.some_ne_none other (standIn.symm.trans without)
  | false =>
      simp only [empty, Bool.false_eq_true, if_false]
      cases converted : p.convert (p.take text).1 with
      | error e => exact .inl ⟨e, .word converted, rfl⟩
      | ok value =>
          refine .inr ⟨fun e fails => ?_, p.store value values, rfl⟩
          cases fails with
          | word wrong =>
              rw [converted] at wrong
              cases wrong

/-- **A parameter takes the next word of the text**, unless it takes all that is left, and then it does
with whatever there is just if it does with the first word. -/
theorem fails_argument?_iff {p : Parameter} {text : String} (trimmed : Text.Trimmed text) (e : BindError) :
    p.Fails (p.argument? text) e ↔ p.Fails (Text.words text)[0]? e := by
  unfold argument? take
  rcases Text.words_of_cutOrAll trimmed with ⟨rfl, nothing, hnone⟩ | ⟨solid, words⟩
  · rw [hnone]
    split <;> simp [nothing]
  · rw [words]
    split
    · rename_i tail
      -- text of any kind will do
      have fine : ∀ w, ¬ p.Fails (some w) e := by
        intro w fails
        cases fails with
        | word wrong =>
            rw [convert_of_tail tail] at wrong
            cases wrong
      have hne : text ≠ "" := by
        rintro rfl
        simp [Text.words, Blank.words, Blank.pieces] at words
      simp [hne, fine]
    · simp [solid]

/-- What is left starts with no blank, and has the words after the first. -/
theorem take_rest {p : Parameter} {text : String} (notTail : p.type ≠ .tail)
    (trimmed : Text.Trimmed text) :
    Text.Trimmed (p.take text).2 ∧ Text.words (p.take text).2 = (Text.words text).tail := by
  have rest : (p.take text).2 = Text.trimStart (Text.cutOrAll text).2 := by simp [take, notTail]
  rw [rest]
  refine ⟨Text.trimmed_trimStart _, ?_⟩
  rcases Text.words_of_cutOrAll trimmed with ⟨_, nothing, hnone⟩ | ⟨_, words⟩
  · rw [hnone, nothing, Text.words_trimStart]
    simp [Text.words, Blank.words, Blank.pieces]
  · rw [words, List.tail_cons]

/-- The first parameter that its word does not do for, and why. -/
def FailsFirst (ps : List Parameter) (words : List String) (e : BindError) : Prop :=
  ∃ (i : Nat) (p : Parameter), ps[i]? = some p ∧ p.Fails words[i]? e ∧
    ∀ j < i, ∀ q, ps[j]? = some q → ∀ e', ¬ q.Fails words[j]? e'

theorem failsFirst_cons (p : Parameter) (ps : List Parameter) (words : List String) (e : BindError) :
    FailsFirst (p :: ps) words e ↔
      p.Fails words[0]? e ∨ (∀ e', ¬ p.Fails words[0]? e') ∧ FailsFirst ps words.tail e := by
  constructor
  · rintro ⟨i, q, hat, fails, earlier⟩
    cases i with
    | zero =>
        obtain rfl : p = q := by simpa using hat
        exact .inl fails
    | succ i =>
        refine .inr ⟨earlier 0 (by omega) p rfl, i, q, hat, by simpa using fails, ?_⟩
        intro j before r there
        simpa using earlier (j + 1) (by omega) r there
  · rintro (fails | ⟨fine, i, q, hat, fails, earlier⟩)
    · exact ⟨0, p, rfl, fails, fun j before => absurd before (by omega)⟩
    · refine ⟨i + 1, q, hat, by simpa using fails, ?_⟩
      intro j before r there
      cases j with
      | zero =>
          obtain rfl : p = r := by simpa using there
          exact fine
      | succ j => simpa using earlier j (by omega) r there

/-- **Binding fails just for the first parameter that its word does not do for**: defaults are of their
types, and only the last parameter takes more than a word. -/
theorem bindFrom_eq_error_iff {ps : List Parameter} {text : String} {values : ValueMap} {e : BindError}
    (tailLast : ∀ p ∈ ps.dropLast, p.type ≠ .tail)
    (standIns : ∀ p ∈ ps, ∀ text, p.standIn = some text → ∃ value, p.convert text = .ok value)
    (trimmed : Text.Trimmed text) :
    (bindFrom ps text values).1 = .error e ↔ FailsFirst ps (Text.words text) e := by
  induction ps generalizing text values with
  | nil => simp [bindFrom, FailsFirst]
  | cons p ps ih =>
      rw [failsFirst_cons]
      simp only [← fails_argument?_iff trimmed]
      rcases bindFrom_cons ps text values (standIns p (by simp)) with
        ⟨reason, fails, stops⟩ | ⟨fine, values', goesOn⟩
      · rw [stops]
        constructor
        · rintro ⟨⟩
          exact .inl fails
        · rintro (other | ⟨fine, _⟩)
          · rw [fails.unique other]
          · exact absurd fails (fine reason)
      · rw [goesOn]
        have rest : (bindFrom ps (p.take text).2 values').1 = .error e ↔
            FailsFirst ps (Text.words text).tail e := by
          cases ps with
          | nil => simp [bindFrom, FailsFirst]
          | cons q qs =>
              -- another parameter comes after it, so that it takes a word at most
              have notTail : p.type ≠ .tail := tailLast p (by simp)
              obtain ⟨still, words⟩ := take_rest notTail trimmed
              rw [← words]
              refine ih (fun r mem => tailLast r ?_) (fun r mem => standIns r ?_) still
              · exact List.mem_cons_of_mem p mem
              · exact List.mem_cons_of_mem p mem
        constructor
        · exact fun fails => .inr ⟨fine, rest.1 fails⟩
        · rintro (fails | ⟨_, later⟩)
          · exact absurd fails (fine e)
          · exact rest.2 later

end Parameter

/-! ### What every declaration keeps -/

/-- A line that declares a parameter adds it, or finds that there is one of that name. -/
theorem Declaration.apply_parameterNames {d : Declaration} {s : Script}
    (admitted : sound (d.apply s).2 = true) :
    (d.apply s).1.parameterNames = s.parameterNames ++ d.parameter?.toList := by
  rcases d.apply_names s with ⟨kept, old⟩ | ⟨new, declares, _, added⟩
  · cases d with
    | parameter new required seeds =>
        -- there is one of that name, and that would be a fault
        obtain ⟨p, mem, named⟩ := List.mem_map.1 (old new rfl)
        have twice : s.parameters.any (·.name == new) = true :=
          List.any_eq_true.2 ⟨p, mem, by simp [named]⟩
        simp [Declaration.apply, twice, sound, Finding.isFault] at admitted
    | _ => simpa [Declaration.parameter?] using kept
  · rw [added, declares]
    rfl

namespace Script

/-- **The parameters are those that were declared, each once**, if no fault was found. -/
theorem declared_names {s : Script} {ds : List Declaration} (admitted : s.Admits ds)
    (distinct : s.parameterNames.Nodup) :
    (s.declared ds).parameterNames = s.parameterNames ++ ds.filterMap Declaration.parameter? ∧
      (s.declared ds).parameterNames.Nodup := by
  induction ds generalizing s with
  | nil => exact ⟨by simp [declared], distinct⟩
  | cons d ds ih =>
      obtain ⟨first, others⟩ := admitted
      have names := d.apply_parameterNames first
      have still : (d.apply s).1.parameterNames.Nodup := by
        rcases d.apply_names s with ⟨kept, _⟩ | ⟨new, _, fresh, added⟩
        · rwa [kept]
        · rw [added, List.nodup_append]
          refine ⟨distinct, by simp, fun old mem other is => ?_⟩
          rw [List.mem_singleton.1 is]
          rintro rfl
          exact fresh mem
      obtain ⟨eq, nodup⟩ := ih others still
      refine ⟨?_, nodup⟩
      change ((d.apply s).1.declared ds).parameterNames = _
      rw [eq, names, List.append_assoc]
      cases d <;> rfl

end Script

theorem Name.of_isPlain {word : String} (plain : Name.isPlain word = true) :
    word ≠ "" ∧ ∀ c ∈ word.toList, Letter.isAlphanumeric c = true ∨ c = '.' := by
  simp only [isPlain, isPlainChars, Bool.and_eq_true, Bool.not_eq_true', List.all_eq_true,
    Bool.or_eq_true, beq_iff_eq] at plain
  refine ⟨?_, plain.2⟩
  rintro rfl
  simp at plain

/-- What a line of a text calls a parameter is a plain name. -/
theorem Text.isPlain_of_declared {text new : String}
    (declares : new ∈ (Item.declarations (Text.items text)).filterMap Declaration.parameter?) :
    Name.isPlain new = true := by
  obtain ⟨d, mem, eq⟩ := List.mem_filterMap.1 declares
  obtain ⟨item, among, is⟩ := List.mem_filterMap.1 mem
  obtain ⟨line, _, rfl⟩ := List.mem_map.1 among
  obtain ⟨keyword, tail, read, known, yields⟩ :=
    Item.ofText_eq_instruction (i := .declare d) (Item.declaration?_eq_some is)
  have named : d.WellNamed := ((Instruction.settles_reader known tail).only yields).named
  cases d <;> cases eq
  exact named

/-! ### Compiled scripts -/

/-- **The parameters of a compiled script are well formed, and no call fails on a default.**  They are the
ones its lines declare, in order.  A call fails just for the first parameter that is given a word of the
text that is not of its type, or that is required, has no default and is given no word. -/
theorem compile_parameters_bind {text name : String} {script : Script}
    (compiled : (compile text name).result = .ok script) :
    Parameter.WellFormed script.parameters ∧
      script.parameterNames =
        (Item.declarations (Text.items text)).filterMap Declaration.parameter? ∧
      ∀ (raw : String) (values : ValueMap) (e : BindError),
        (Parameter.bind script.parameters raw values).1 = .error e ↔
          ∃ (i : Nat) (p : Parameter), script.parameters[i]? = some p ∧ p.Fails (Text.words raw)[i]? e ∧
            ∀ j < i, ∀ q, script.parameters[j]? = some q → ∀ e', ¬ q.Fails (Text.words raw)[j]? e' := by
  obtain ⟨clean, made⟩ := compile_eq_ok.1 compiled
  obtain ⟨_, admitted, whole⟩ := (Draft.faults_eq_nil_iff _).1 clean
  have lines : (Draft.ofText text).declarations.toList.map Prod.snd =
      Item.declarations (Text.items text) := by
    rw [Draft.ofText, Draft.addLines_declarations]
    exact Item.map_snd_numbered 1 _
  rw [lines] at admitted whole
  have parameters : script.parameters =
      (({} : Script).declared (Item.declarations (Text.items text))).parameters := by
    rw [← made]
    simp only [Draft.script, Draft.declaring_script, lines, Script.withCode]
  obtain ⟨names, distinct⟩ := Script.declared_names admitted List.nodup_nil
  obtain ⟨ordered, tailLast, standIns⟩ := (Parameter.faults_eq_nil_iff _).1 whole
  rw [← parameters] at ordered tailLast standIns
  have declared : script.parameterNames =
      (Item.declarations (Text.items text)).filterMap Declaration.parameter? := by
    simpa [Script.parameterNames, parameters] using names
  refine ⟨⟨fun p mem => ?_, ?_, ordered, tailLast, standIns⟩, declared, fun raw values e => ?_⟩
  · have among : p.name ∈ script.parameterNames := List.mem_map_of_mem mem
    rw [declared] at among
    exact Name.of_isPlain (Text.isPlain_of_declared among)
  · rw [parameters]
    exact distinct
  · rw [← Text.words_trimStart raw]
    exact Parameter.bindFrom_eq_error_iff tailLast standIns (Text.trimmed_trimStart raw)

/-- A type that comes after its default, and a parameter that takes all that is left. -/
def ordering : String :=
  "required !item\noptional ?count\ndefault  7 \ntype NUMBER\noptional note\ntype tail"

/-- The default of `count` is of the type that comes after it, and a call without a number fails on its
word, as one without any word fails for `item`. -/
theorem compile_parameters_bind_ordering :
    ∃ script, (compile ordering "o").result = .ok script ∧
      Parameter.WellFormed script.parameters ∧ script.parameterNames = ["item", "count", "note"] ∧
      (Parameter.bind script.parameters " tea two please" .empty).1 = .error (.notNumber "count" "two") ∧
      (Parameter.bind script.parameters " " .empty).1 = .error (.missing "item") := by
  obtain ⟨script, compiled⟩ := (@compile_eq_ok_iff ordering "o").2 (by decide +kernel)
  have parameters : script.parameters =
      [{ name := "item", required := true, seeds := true },
        { name := "count", required := false, type := .number, standIn := some "7" },
        { name := "note", required := false, type := .tail }] := by
    rw [← (compile_eq_ok.1 compiled).2]
    decide +kernel
  obtain ⟨wellFormed, declared, binds⟩ := compile_parameters_bind compiled
  refine ⟨script, compiled, wellFormed, by rw [declared]; decide +kernel, ?_, ?_⟩
  · refine (binds _ _ _).2 ⟨1, _, by rw [parameters]; rfl, ?_, ?_⟩
    · exact .word (w := "two") (by decide +kernel)
    · intro j before q there
      obtain rfl : j = 0 := by omega
      rw [parameters] at there
      obtain rfl := Option.some.inj there
      intro e fails
      cases fails with
      | word wrong => cases wrong
  · refine (binds _ _ _).2 ⟨0, _, by rw [parameters]; rfl, ?_, fun j before => absurd before (by omega)⟩
    exact .missing rfl rfl

end LineScript
