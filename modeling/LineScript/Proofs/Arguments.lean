import LineScript.Proofs.Binding

/-!
**What the text of a call becomes.**

The words of a text go to the parameters of a script one by one.  A parameter that takes all that is left
gets the text from its word on to the end, as it stands.  Here it is shown that binding does just that: when
it succeeds, which values are kept, which keys stay as they were, and that every word goes somewhere.

Where a word starts is said without trimming and cutting: at a character that is not blank and has a blank
before it, or nothing.

Main definitions:

* `LineScript.Text.starts` — the text from each of its words on;
* `LineScript.Parameter.given?` — **the text that a parameter has**;
* `LineScript.Parameter.Suits` — the text, or that there is none, does for the parameter;
* `LineScript.Parameter.Bound` — the values hold what the parameter has become.

Main results:

* `LineScript.Text.words_starts` — from each word on there are the words from that word on;
* `LineScript.Parameter.bindFrom_frame`, `LineScript.Parameter.bindFrom_bound` — which keys are changed, and
  what they hold;
* `LineScript.Parameter.bindFrom_surplus`, `LineScript.Parameter.bindFrom_conserves` — which words are left
  over, and that **no word is lost, duplicated or reordered**;
* `LineScript.compile_binds_words` — all of it, for the parameters of a compiled script.
-/

set_option autoImplicit false

namespace LineScript

/-! ### Where words start -/

namespace Blank

/-- The texts that start where a word does, each of them to the end.  Before the first character there is a
blank or nothing, unless a word is not over yet. -/
def startsFrom (fresh : Bool) : List Char → List (List Char)
  | [] => []
  | c :: cs =>
    if isBlank c then startsFrom true cs
    else if fresh then (c :: cs) :: startsFrom false cs
    else startsFrom false cs

theorem startsFrom_trimStart (cs : List Char) : startsFrom true (trimStart cs) = startsFrom true cs := by
  induction cs with
  | nil => rfl
  | cons c cs ih =>
      by_cases blank : isBlank c
      · have skips : trimStart (c :: cs) = trimStart cs := by simp [trimStart, blank]
        rw [skips, ih]
        simp [startsFrom, blank]
      · have stays : trimStart (c :: cs) = c :: cs := by simp [trimStart, blank]
        rw [stays]

/-- Within a word, the next one starts after the cut. -/
theorem startsFrom_false (cs : List Char) :
    startsFrom false cs = startsFrom true (((cut cs).map Prod.snd).getD []) := by
  induction cs with
  | nil => rfl
  | cons c cs ih =>
      by_cases blank : isBlank c
      · simp [startsFrom, cut, blank]
      · simp only [startsFrom, cut, blank, Bool.false_eq_true, if_false, ih, Option.map_map]
        rfl

end Blank

namespace Text

/-- **The text from each of its words on**, to the end. -/
def starts (text : String) : List String := (Blank.startsFrom true text.toList).map .ofList

theorem starts_trimStart (text : String) : starts (trimStart text) = starts text := by
  simp [starts, trimStart, Blank.startsFrom_trimStart]

/-- A text that starts with no blank starts with its first word; the other words start after the cut. -/
theorem starts_of_cutOrAll {text : String} (trimmed : Trimmed text) :
    (text = "" ∧ starts text = []) ∨
      (text ≠ "" ∧ starts text = text :: starts (trimStart (cutOrAll text).2)) := by
  rw [starts_trimStart]
  cases chars : text.toList with
  | nil => exact .inl ⟨by simpa using chars, by simp [starts, chars, Blank.startsFrom]⟩
  | cons c cs =>
      have hne : text ≠ "" := by
        rintro rfl
        simp at chars
      have solid : Blank.isBlank c = false := by
        by_contra blank
        have shorter := congrArg (fun s => s.toList.length) trimmed
        have drops : (cs.dropWhile Blank.isBlank).length ≤ cs.length :=
          (List.dropWhile_sublist _).length_le
        simp only [trimStart, Blank.trimStart, chars, String.toList_ofList,
          List.dropWhile_cons_of_pos (Bool.not_eq_false _ ▸ blank), List.length_cons] at shorter
        omega
      have after : (cutOrAll text).2 = .ofList (((Blank.cut cs).map Prod.snd).getD []) := by
        unfold cutOrAll cut
        rw [chars, Blank.cut, solid]
        cases Blank.cut cs <;> simp
      have whole : text = .ofList (c :: cs) := by rw [← chars, String.ofList_toList]
      refine .inr ⟨hne, ?_⟩
      rw [after, starts, chars, Blank.startsFrom, solid, starts, String.toList_ofList, whole]
      simp [Blank.startsFrom_false]

/-- **From each word on there are the words from that word on.** -/
theorem words_starts {text : String} (trimmed : Trimmed text) :
    (starts text).length = (words text).length ∧
      ∀ i rest, (starts text)[i]? = some rest → words rest = (words text).drop i := by
  induction known : words text generalizing text with
  | nil =>
      rcases starts_of_cutOrAll trimmed with ⟨_, hnone⟩ | ⟨hne, _⟩
      · simp [hnone]
      · rcases words_of_cutOrAll trimmed with ⟨empty, _⟩ | ⟨_, more⟩
        · exact absurd empty hne
        · rw [known] at more
          cases more
  | cons w ws ih =>
      rcases starts_of_cutOrAll trimmed with ⟨rfl, _⟩ | ⟨hne, starts⟩
      · simp [words, Blank.words, Blank.pieces] at known
      · rcases words_of_cutOrAll trimmed with ⟨empty, _⟩ | ⟨_, more⟩
        · exact absurd empty hne
        · rw [known, List.cons.injEq] at more
          obtain ⟨same, later⟩ := ih (trimmed_trimStart _) more.2.symm
          rw [starts]
          refine ⟨by simp [same], fun i rest there => ?_⟩
          cases i with
          | zero =>
              obtain rfl : text = rest := by simpa using there
              exact known
          | succ i => simpa using later i rest (by simpa using there)

/-- A word of a text is its own only word. -/
theorem words_of_mem {text word : String} (mem : word ∈ words text) : words word = [word] := by
  obtain ⟨cs, among, rfl⟩ := List.mem_map.1 mem
  obtain ⟨hne, solid⟩ := Blank.mem_words among
  simp [words, Blank.words, Blank.pieces_of_cut_none (Blank.cut_eq_none.2 solid), hne]

end Text

namespace Parameter

/-! ### The text that a parameter has -/

/-- **The text that a parameter has**, if it is the one at index `i`: the word at that index, or all the
text from that word on. -/
def given? (p : Parameter) (raw : String) (i : Nat) : Option String :=
  if p.type = .tail then (Text.starts raw)[i]? else (Text.words raw)[i]?

theorem given?_trimStart (p : Parameter) (raw : String) (i : Nat) :
    p.given? (Text.trimStart raw) i = p.given? raw i := by
  simp only [given?, Text.starts_trimStart, Text.words_trimStart]

/-- The first parameter has what it takes from the text. -/
theorem given?_zero (p : Parameter) {text : String} (trimmed : Text.Trimmed text) :
    p.given? text 0 = p.argument? text := by
  unfold given? argument? take
  split
  · rcases Text.starts_of_cutOrAll trimmed with ⟨rfl, hnone⟩ | ⟨hne, starts⟩
    · simp [hnone]
    · simp [starts, hne]
  · rcases Text.words_of_cutOrAll trimmed with ⟨_, nothing, hnone⟩ | ⟨solid, words⟩
    · simp [hnone, nothing]
    · simp [words, solid]

/-- The others have what the first one leaves. -/
theorem given?_succ {p : Parameter} (notTail : p.type ≠ .tail) {text : String}
    (trimmed : Text.Trimmed text) (q : Parameter) (i : Nat) :
    q.given? text (i + 1) = q.given? (p.take text).2 i := by
  have words : Text.words (p.take text).2 = (Text.words text).tail := (take_rest notTail trimmed).2
  have starts : Text.starts (p.take text).2 = (Text.starts text).tail := by
    have rest : (p.take text).2 = Text.trimStart (Text.cutOrAll text).2 := by simp [take, notTail]
    rw [rest]
    rcases Text.starts_of_cutOrAll trimmed with ⟨rfl, hnone⟩ | ⟨_, starts⟩
    · rw [hnone]
      rfl
    · rw [starts, List.tail_cons]
  simp only [given?, words, starts, List.getElem?_tail]

/-- A parameter has a text just if there is a word for it, and of what it can have only a single word can
be wrong. -/
theorem fails_given?_iff (p : Parameter) {text : String} (trimmed : Text.Trimmed text) (i : Nat)
    (e : BindError) : p.Fails (p.given? text i) e ↔ p.Fails (Text.words text)[i]? e := by
  unfold given?
  split
  · rename_i tail
    have fine : ∀ t, ¬ p.Fails (some t) e := by
      intro t fails
      cases fails with
      | word wrong =>
          rw [convert_of_tail tail] at wrong
          cases wrong
    have same : (Text.starts text).length = (Text.words text).length := (Text.words_starts trimmed).1
    by_cases inside : i < (Text.words text).length
    · rw [List.getElem?_eq_getElem (same ▸ inside), List.getElem?_eq_getElem inside]
      exact iff_of_false (fine _) (fine _)
    · rw [List.getElem?_eq_none (by omega), List.getElem?_eq_none (by omega)]
  · exact Iff.rfl

/-- **The text does for the parameter**: it is of its type, or there is none and a default or nothing will
do. -/
def Suits (p : Parameter) : Option String → Prop
  | some text => ∃ value, p.convert text = .ok value
  | none => p.standIn ≠ none ∨ p.required = false

theorem suits_iff (p : Parameter) (given : Option String) : p.Suits given ↔ ∀ e, ¬ p.Fails given e := by
  cases given with
  | some text =>
      cases converted : p.convert text with
      | ok value =>
          refine iff_of_true ⟨value, converted⟩ fun e fails => ?_
          cases fails with
          | word wrong =>
              rw [converted] at wrong
              cases wrong
      | error e =>
          refine iff_of_false ?_ fun fine => fine e (.word converted)
          rintro ⟨value, ok⟩
          rw [converted] at ok
          cases ok
  | none =>
      constructor
      · rintro suits e ⟨⟩
        rename_i required without
        rcases suits with stands | optional
        · exact stands without
        · rw [required] at optional
          cases optional
      · intro fine
        by_contra unsuited
        obtain ⟨without, required⟩ := not_or.1 unsuited
        exact fine _ (.missing (Bool.not_eq_false _ ▸ required) (not_not.1 without))

/-- Binding succeeds just if all parameters have what does for them. -/
theorem bindFrom_eq_ok_iff {ps : List Parameter} {text : String} {values : ValueMap}
    (tailLast : ∀ p ∈ ps.dropLast, p.type ≠ .tail)
    (standIns : ∀ p ∈ ps, ∀ text, p.standIn = some text → ∃ value, p.convert text = .ok value)
    (trimmed : Text.Trimmed text) :
    (∃ surplus, (bindFrom ps text values).1 = .ok surplus) ↔
      ∀ (i : Nat) (p : Parameter), ps[i]? = some p → p.Suits (p.given? text i) := by
  have failure : ∀ e, (bindFrom ps text values).1 = .error e ↔ FailsFirst ps (Text.words text) e :=
    fun _ => bindFrom_eq_error_iff tailLast standIns trimmed
  constructor
  · rintro ⟨surplus, ok⟩
    -- the first one that its word does not do for would be found
    intro i
    induction i using Nat.strongRecOn with
    | ind i ih =>
        intro p hat
        rw [suits_iff]
        intro e fails
        rw [fails_given?_iff p trimmed] at fails
        have stops : (bindFrom ps text values).1 = .error e := by
          refine (failure e).2 ⟨i, p, hat, fails, fun j before q there e' earlier => ?_⟩
          rw [← fails_given?_iff q trimmed] at earlier
          exact (suits_iff q _).1 (ih j before q there) e' earlier
        rw [ok] at stops
        cases stops
  · intro suits
    cases result : (bindFrom ps text values).1 with
    | ok surplus => exact ⟨surplus, rfl⟩
    | error e =>
        obtain ⟨i, p, hat, fails, _⟩ := (failure e).1 result
        rw [← fails_given?_iff p trimmed] at fails
        exact absurd fails ((suits_iff p _).1 (suits i p hat) e)

/-! ### What is kept -/

/-- The value that a parameter comes to have: that of its text, or else of its default. -/
inductive Converts (p : Parameter) : Option String → Value → Prop
  | text {text : String} {value : Value} (ok : p.convert text = .ok value) : Converts p (some text) value
  | standIn {text : String} {value : Value} (stands : p.standIn = some text)
      (ok : p.convert text = .ok value) : Converts p none value

theorem Converts.unique {p : Parameter} {given : Option String} {v v' : Value} (h : p.Converts given v)
    (h' : p.Converts given v') : v = v' := by
  cases h with
  | text ok =>
      cases h' with
      | text ok' => exact Except.ok.inj (ok.symm.trans ok')
  | standIn stands ok =>
      cases h' with
      | standIn stands' ok' =>
          obtain rfl := Option.some.inj (stands.symm.trans stands')
          exact Except.ok.inj (ok.symm.trans ok')

theorem not_converts_none {p : Parameter} (without : p.standIn = none) (v : Value) :
    ¬ p.Converts none v := by
  intro converts
  cases converts with
  | standIn stands _ =>
      rw [without] at stands
      cases stands

/-- The keys under which the value of a parameter is kept. -/
def Owns (p : Parameter) (key : String) : Prop :=
  key = "?" ++ p.name ∨ p.seeds = true ∧ key = "!" ++ p.name

/-- **The values hold what the parameter has become**: under its keys there is its value, or else what was
there before. -/
structure Bound (p : Parameter) (given : Option String) (values after : ValueMap) : Prop where
  value : ∀ v, p.Converts given v → ∀ key, p.Owns key → after.get? key = some v
  nothing : given = none → p.standIn = none → ∀ key, p.Owns key → after.get? key = values.get? key

theorem argument_key (name : String) : (ScopedName.plain .argument name).key = "?" ++ name := by
  apply String.toList_inj.1
  simp [ScopedName.key, ScopedName.plain, Scope.sigil]

theorem variable_key (name : String) : (ScopedName.plain .script name).key = "!" ++ name := by
  apply String.toList_inj.1
  simp [ScopedName.key, ScopedName.plain, Scope.sigil]

theorem argument_ne_variable (a b : String) : "?" ++ a ≠ "!" ++ b := by
  intro same
  have chars := congrArg String.toList same
  simp at chars

/-- Parameters with different names have no key in common. -/
theorem Owns.name_eq {p q : Parameter} {key : String} (h : p.Owns key) (h' : q.Owns key) :
    p.name = q.name := by
  rcases h with rfl | ⟨_, rfl⟩
  · rcases h' with same | ⟨_, same⟩
    · simpa using same
    · exact absurd same (argument_ne_variable _ _)
  · rcases h' with same | ⟨_, same⟩
    · exact absurd same.symm (argument_ne_variable _ _)
    · simpa using same

theorem store_of_owns {p : Parameter} {key : String} (owns : p.Owns key) (v : Value) (values : ValueMap) :
    (p.store v values).get? key = some v := by
  unfold store
  rw [argument_key, variable_key]
  rcases owns with rfl | ⟨seeds, rfl⟩
  · exact KeyMap.get?_insert_self _ _ _
  · rw [ValueMap.set, KeyMap.get?_insert_of_ne _ (argument_ne_variable _ _).symm, if_pos seeds]
    exact KeyMap.get?_insert_self _ _ _

theorem store_of_not_owns {p : Parameter} {key : String} (other : ¬ p.Owns key) (v : Value)
    (values : ValueMap) : (p.store v values).get? key = values.get? key := by
  obtain ⟨argument, hvariable⟩ := not_or.1 other
  unfold store
  rw [argument_key, variable_key, ValueMap.set, KeyMap.get?_insert_of_ne _ argument]
  split
  · rename_i seeds
    exact KeyMap.get?_insert_of_ne _ (fun same => hvariable ⟨seeds, same⟩) v
  · rfl

/-- If at most the last parameter takes all that is left, this is so of the parameters after the first. -/
theorem tailLast_of_cons {p : Parameter} {ps : List Parameter}
    (tailLast : ∀ q ∈ (p :: ps).dropLast, q.type ≠ .tail) : ∀ q ∈ ps.dropLast, q.type ≠ .tail := by
  intro q mem
  cases ps with
  | nil => simp at mem
  | cons r rs => exact tailLast q (List.mem_cons_of_mem p mem)

/-- Binding that succeeds keeps the value of the first parameter, if it has one, and goes on with the
others. -/
theorem bindFrom_cons_eq_ok {p : Parameter} {ps : List Parameter} {text : String}
    {values after : ValueMap} {surplus : List String}
    (bound : bindFrom (p :: ps) text values = (.ok surplus, after)) :
    (∃ v, p.Converts (p.argument? text) v ∧
        bindFrom ps (p.take text).2 (p.store v values) = (.ok surplus, after)) ∨
      p.argument? text = none ∧ p.standIn = none ∧
        bindFrom ps (p.take text).2 values = (.ok surplus, after) := by
  rw [bindFrom] at bound
  unfold argument?
  cases empty : (p.take text).1.isEmpty with
  | true =>
      simp only [empty, if_true] at bound ⊢
      cases standIn : p.standIn with
      | none =>
          rw [standIn] at bound
          cases required : p.required with
          | true => simp [required] at bound
          | false => exact .inr ⟨trivial, rfl, by simpa [required] using bound⟩
      | some other =>
          simp only [standIn] at bound
          cases converted : p.convert other with
          | error e => simp [converted] at bound
          | ok v => exact .inl ⟨v, .standIn standIn converted, by simpa [converted] using bound⟩
  | false =>
      simp only [empty, Bool.false_eq_true, if_false] at bound ⊢
      cases converted : p.convert (p.take text).1 with
      | error e => simp [converted] at bound
      | ok v => exact .inl ⟨v, .text converted, by simpa [converted] using bound⟩

/-- **Binding changes only keys of the parameters.** -/
theorem bindFrom_frame {ps : List Parameter} {text : String} {values after : ValueMap}
    {surplus : List String} (bound : bindFrom ps text values = (.ok surplus, after)) {key : String}
    (other : ∀ p ∈ ps, ¬ p.Owns key) : after.get? key = values.get? key := by
  induction ps generalizing text values with
  | nil =>
      cases bound
      rfl
  | cons p ps ih =>
      obtain ⟨first, later⟩ := List.forall_mem_cons.1 other
      rcases bindFrom_cons_eq_ok bound with ⟨v, _, rest⟩ | ⟨_, _, rest⟩
      · rw [ih rest later, store_of_not_owns first]
      · exact ih rest later

/-- **Binding keeps the value of every parameter that comes to have one**: no later parameter has one of
its keys. -/
theorem bindFrom_bound {ps : List Parameter} {text : String} {values after : ValueMap}
    {surplus : List String} (distinct : (ps.map Parameter.name).Nodup)
    (tailLast : ∀ p ∈ ps.dropLast, p.type ≠ .tail) (trimmed : Text.Trimmed text)
    (bound : bindFrom ps text values = (.ok surplus, after)) {i : Nat} {p : Parameter}
    (hat : ps[i]? = some p) : p.Bound (p.given? text i) values after := by
  induction ps generalizing text values i with
  | nil => simp at hat
  | cons q qs ih =>
      rw [List.map_cons, List.nodup_cons] at distinct
      obtain ⟨fresh, distinct⟩ := distinct
      -- the keys of the first parameter are no keys of the others
      have apart : ∀ r ∈ qs, ∀ key, q.Owns key → ¬ r.Owns key := by
        intro r mem key owns owns'
        exact fresh (owns.name_eq owns' ▸ List.mem_map_of_mem mem)
      cases i with
      | zero =>
          obtain rfl : q = p := by simpa using hat
          rw [given?_zero q trimmed]
          have kept : ∀ {rest values'}, bindFrom qs rest values' = (.ok surplus, after) →
              ∀ key, q.Owns key → after.get? key = values'.get? key :=
            fun rest key owns => bindFrom_frame rest fun r mem => apart r mem key owns
          rcases bindFrom_cons_eq_ok bound with ⟨v, converts, rest⟩ | ⟨hnone, without, rest⟩
          · refine ⟨fun v' converts' key owns => ?_, fun hnone without => ?_⟩
            · rw [kept rest key owns, store_of_owns owns, converts.unique converts']
            · rw [hnone] at converts
              exact absurd converts (not_converts_none without v)
          · refine ⟨fun v' converts' => ?_, fun _ _ key owns => kept rest key owns⟩
            rw [hnone] at converts'
            exact absurd converts' (not_converts_none without v')
      | succ i =>
          have there : qs[i]? = some p := by simpa using hat
          have mem : p ∈ qs := List.mem_of_getElem? there
          obtain ⟨r, rs, rfl⟩ := List.exists_cons_of_ne_nil (List.ne_nil_of_mem mem)
          have notTail : q.type ≠ .tail := tailLast q (by simp)
          have others := tailLast_of_cons tailLast
          rw [given?_succ notTail trimmed]
          have still := (take_rest notTail trimmed).1
          -- the first parameter may have written before, but under no key of this one
          rcases bindFrom_cons_eq_ok bound with ⟨v, _, rest⟩ | ⟨_, _, rest⟩
          · obtain ⟨value, nothing⟩ := ih distinct others still rest there
            refine ⟨value, fun hnone without key owns => ?_⟩
            have other : ¬ q.Owns key := fun owns' => apart p mem key owns' owns
            rw [nothing hnone without key owns, store_of_not_owns other]
          · exact ih distinct others still rest there

/-! ### Where the words go -/

/-- **The words after the last parameter are left over**, none if it takes all that is left. -/
theorem bindFrom_surplus {ps : List Parameter} {text : String} {values after : ValueMap}
    {surplus : List String} (tailLast : ∀ p ∈ ps.dropLast, p.type ≠ .tail)
    (trimmed : Text.Trimmed text) (bound : bindFrom ps text values = (.ok surplus, after)) :
    surplus = if ps.getLast?.any (·.type = .tail) then [] else (Text.words text).drop ps.length := by
  induction ps generalizing text values with
  | nil =>
      cases bound
      rfl
  | cons p ps ih =>
      obtain ⟨values', rest⟩ :
          ∃ values', bindFrom ps (p.take text).2 values' = (.ok surplus, after) := by
        rcases bindFrom_cons_eq_ok bound with ⟨v, _, rest⟩ | ⟨_, _, rest⟩
        · exact ⟨_, rest⟩
        · exact ⟨_, rest⟩
      cases ps with
      | nil =>
          have left : Text.words (p.take text).2 = surplus := by
            cases rest
            rfl
          rw [← left]
          by_cases tail : p.type = .tail
          · simp [tail, take, Text.words, Blank.words, Blank.pieces]
          · simp [tail, (take_rest tail trimmed).2]
      | cons q qs =>
          have notTail : p.type ≠ .tail := tailLast p (by simp)
          obtain ⟨still, words⟩ := take_rest notTail trimmed
          rw [ih (tailLast_of_cons tailLast) still rest, words]
          simp

/-- The words that the parameters have, one parameter after the other. -/
def wordsGiven (ps : List Parameter) (raw : String) : List String :=
  (ps.mapIdx fun i p => (p.given? raw i).elim [] Text.words).flatten

/-- A parameter that takes a word at most has the first word, and those after it are for the others. -/
theorem words_given_zero {p : Parameter} (notTail : p.type ≠ .tail) (text : String) :
    (p.given? text 0).elim [] Text.words ++ (Text.words text).tail = Text.words text := by
  unfold given?
  rw [if_neg notTail]
  cases words : Text.words text with
  | nil => rfl
  | cons w ws =>
      have single : Text.words w = [w] := Text.words_of_mem (words ▸ List.mem_cons_self)
      simp [single]

/-- **No word is lost, duplicated or reordered**: the words of what the parameters have, and then those that
are left over, are the words of the text. -/
theorem bindFrom_conserves {ps : List Parameter} {text : String}
    (tailLast : ∀ p ∈ ps.dropLast, p.type ≠ .tail) (trimmed : Text.Trimmed text) :
    wordsGiven ps text ++
        (if ps.getLast?.any (·.type = .tail) then [] else (Text.words text).drop ps.length) =
      Text.words text := by
  induction ps generalizing text with
  | nil => simp [wordsGiven]
  | cons p ps ih =>
      by_cases tail : p.type = .tail
      · -- only the last one can be of this kind
        have last : ps = [] := by
          cases ps with
          | nil => rfl
          | cons q qs => exact absurd tail (tailLast p (by simp))
        subst last
        rcases Text.starts_of_cutOrAll trimmed with ⟨rfl, hnone⟩ | ⟨_, starts⟩
        · simp [wordsGiven, given?, tail, hnone, Text.words, Blank.words, Blank.pieces]
        · simp [wordsGiven, given?, tail, starts]
      · obtain ⟨still, words⟩ := take_rest tail trimmed
        have rest := ih (tailLast_of_cons tailLast) still
        have first : wordsGiven (p :: ps) text =
            (p.given? text 0).elim [] Text.words ++ wordsGiven ps (p.take text).2 := by
          simp only [wordsGiven, List.mapIdx_cons, List.flatten_cons, given?_succ tail trimmed]
        have last : (p :: ps).getLast?.any (·.type = .tail) = ps.getLast?.any (·.type = .tail) := by
          cases ps with
          | nil => simp [tail]
          | cons q qs => simp
        rw [words, List.drop_tail] at rest
        rw [first, last, List.append_assoc, List.length_cons, rest]
        exact words_given_zero tail text

end Parameter

/-! ### Compiled scripts -/

/-- The parameters of a compiled script have names of their own, take more than a word only at the end, and
have defaults of their types. -/
theorem compile_parameters {text name : String} {script : Script}
    (compiled : (compile text name).result = .ok script) :
    script.parameterNames.Nodup ∧ (∀ p ∈ script.parameters.dropLast, p.type ≠ .tail) ∧
      ∀ p ∈ script.parameters, ∀ text, p.standIn = some text → ∃ value, p.convert text = .ok value := by
  obtain ⟨clean, made⟩ := compile_eq_ok.1 compiled
  obtain ⟨_, admitted, whole⟩ := (Draft.faults_eq_nil_iff _).1 clean
  have parameters : script.parameters = (({} : Script).declared
      ((Draft.ofText text).declarations.toList.map Prod.snd)).parameters := by
    rw [← made]
    simp only [Draft.script, Draft.declaring_script, Script.withCode]
  obtain ⟨_, distinct⟩ := Script.declared_names admitted List.nodup_nil
  obtain ⟨_, tailLast, standIns⟩ := (Parameter.faults_eq_nil_iff _).1 whole
  rw [← parameters] at tailLast standIns
  refine ⟨?_, tailLast, standIns⟩
  rw [Script.parameterNames, parameters]
  exact distinct

/-- **Every word of a call goes to the parameter it is for.**  Binding succeeds just if every parameter has
a text of its type, or no text and a default, or no text and no need of one.  Then its value is under its
keys, all other keys are as they were, and the words after the last parameter are left over.  If binding
fails, it is for the first parameter that has nothing that does. -/
theorem compile_binds_words {text name : String} {script : Script}
    (compiled : (compile text name).result = .ok script) (raw : String) (values : ValueMap) :
    ((∃ surplus, (Parameter.bind script.parameters raw values).1 = .ok surplus) ↔
        ∀ (i : Nat) (p : Parameter), script.parameters[i]? = some p → p.Suits (p.given? raw i)) ∧
      (∀ surplus after, Parameter.bind script.parameters raw values = (.ok surplus, after) →
        (∀ (i : Nat) (p : Parameter), script.parameters[i]? = some p →
          p.Bound (p.given? raw i) values after) ∧
        (∀ key, (∀ p ∈ script.parameters, ¬ p.Owns key) → after.get? key = values.get? key) ∧
        surplus = (if script.parameters.getLast?.any (·.type = .tail) then []
          else (Text.words raw).drop script.parameters.length) ∧
        Parameter.wordsGiven script.parameters raw ++ surplus = Text.words raw) ∧
      ∀ e, (Parameter.bind script.parameters raw values).1 = .error e ↔
        ∃ (i : Nat) (p : Parameter), script.parameters[i]? = some p ∧ p.Fails (p.given? raw i) e ∧
          ∀ j < i, ∀ q : Parameter, script.parameters[j]? = some q → q.Suits (q.given? raw j) := by
  obtain ⟨distinct, tailLast, standIns⟩ := compile_parameters compiled
  have trimmed := Text.trimmed_trimStart raw
  have given : ∀ (p : Parameter) i, p.given? (Text.trimStart raw) i = p.given? raw i :=
    fun p i => p.given?_trimStart raw i
  refine ⟨?_, fun surplus after bound => ?_, fun e => ?_⟩
  · have success := @Parameter.bindFrom_eq_ok_iff _ _ values tailLast standIns trimmed
    simp only [given] at success
    exact success
  · have left := Parameter.bindFrom_surplus tailLast trimmed bound
    have conserved := Parameter.bindFrom_conserves tailLast trimmed
    rw [← left] at conserved
    simp only [Parameter.wordsGiven, given, Text.words_trimStart] at left conserved
    refine ⟨fun i p hat => ?_, fun key other => Parameter.bindFrom_frame bound other, left, conserved⟩
    rw [← given]
    exact Parameter.bindFrom_bound distinct tailLast trimmed bound hat
  · refine (Parameter.bindFrom_eq_error_iff tailLast standIns trimmed).trans ?_
    simp only [Parameter.FailsFirst, ← Parameter.fails_given?_iff _ trimmed, given,
      ← Parameter.suits_iff]

/-- A user, a number with a default, and all that is left. -/
def dispatch : String :=
  "required !who\ntype user\noptional times\ntype number\ndefault 1\noptional note\ntype tail"

/-- What `dispatch` declares. -/
def dispatched : List Parameter :=
  [{ name := "who", required := true, type := .user, seeds := true },
    { name := "times", required := false, type := .number, standIn := some "1" },
    { name := "note", required := false, type := .tail }]

/-- The blanks between the words of a call do not matter, except in what is left for `note`; a call with one
word leaves the number at its default, and one with a second word that is no number fails. -/
theorem compile_binds_words_dispatch :
    ∃ script, (compile dispatch "d").result = .ok script ∧ script.parameters = dispatched ∧
      (∃ after, Parameter.bind dispatched " @Bob_1 \t 3  so \u3000long " .empty = (.ok [], after) ∧
        after.get? "?who" = some (.ofText "bob_1") ∧ after.get? "!who" = some (.ofText "bob_1") ∧
        after.get? "?note" = some (.ofText "so \u3000long ") ∧ after.get? "!note" = none) ∧
      (∃ after, Parameter.bind dispatched "ann" .empty = (.ok [], after) ∧
        after.get? "?times" = some (.ofNumber 1) ∧ after.get? "?note" = none) ∧
      (Parameter.bind dispatched "ann x" .empty).1 = .error (.notNumber "times" "x") := by
  obtain ⟨script, compiled⟩ := (@compile_eq_ok_iff dispatch "d").2 (by decide +kernel)
  have parameters : script.parameters = dispatched := by
    rw [← (compile_eq_ok.1 compiled).2]
    decide +kernel
  have binds := compile_binds_words compiled
  rw [parameters] at binds
  refine ⟨script, compiled, parameters, ?_, ?_, ?_⟩
  · obtain ⟨after, bound⟩ : ∃ after,
        Parameter.bind dispatched " @Bob_1 \t 3  so \u3000long " .empty = (.ok [], after) :=
      ⟨_, Prod.ext (by decide +kernel) rfl⟩
    obtain ⟨held, others, _⟩ := (binds _ _).2.1 [] after bound
    have who := (held 0 _ rfl).value (.ofText "bob_1") (.text (by decide +kernel))
    have note := (held 2 _ rfl).value (.ofText "so \u3000long ") (.text (by decide +kernel))
    refine ⟨after, bound, who _ (.inl rfl), who _ (.inr ⟨rfl, rfl⟩), note _ (.inl rfl), ?_⟩
    exact others "!note" (by simp [dispatched, Parameter.Owns])
  · obtain ⟨after, bound⟩ : ∃ after, Parameter.bind dispatched "ann" .empty = (.ok [], after) :=
      ⟨_, Prod.ext (by decide +kernel) rfl⟩
    obtain ⟨held, _⟩ := (binds _ _).2.1 [] after bound
    have times := (held 1 _ rfl).value (.ofNumber 1) (.standIn rfl (by decide +kernel))
    exact ⟨after, bound, times _ (.inl rfl), (held 2 _ rfl).nothing rfl rfl _ (.inl rfl)⟩
  · refine ((binds "ann x" .empty).2.2 _).2 ⟨1, _, rfl, .word (by decide +kernel), fun j before q there => ?_⟩
    obtain rfl : j = 0 := by omega
    obtain rfl := Option.some.inj there
    exact ⟨.ofText "ann", by decide +kernel⟩

end LineScript
