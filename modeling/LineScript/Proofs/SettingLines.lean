import LineScript.Proofs.LineFaults
import LineScript.Settings
import Mathlib.Data.List.TakeDrop
import Mathlib.Data.List.TakeWhile

/-!
**A wrong line of settings might as well be empty.**

A line of settings can be wrong at four stages: its first word is no directive, its items do not give a
name and a value, the name is not known, or the value is not of its kind.  At none of them does it matter
what the settings are, and a line that fails at one of them leaves them as they are.  So all there is to a
line is whether it is silent, refused, or gives a value to one setting; and all there is to a text is, for
each setting, the last line that gives it a value.

Main definitions:

* `LineScript.Setting` — the settings by name, with their kinds of values;
* `LineScript.Settings.Speaks`, `LineScript.Settings.Assigns` — a line that is neither blank nor a
  comment, and one that gives a name a value;
* `LineScript.Settings.NamesAt`, `LineScript.Settings.LastNamed` — the lines of a text that are accepted
  and name a setting, and the last of them;
* `LineScript.Text.blankLines` — a text with some of its lines left empty.

Main results:

* `LineScript.Settings.apply_eq` — a change of one setting, by its name;
* `LineScript.Settings.acts` — **all that a line can do**, whatever the settings are;
* `LineScript.Settings.refuses_iff`, `LineScript.Settings.mem_faults_iff` — which lines are refused, and what
  is reported about them;
* `LineScript.Settings.ofText_get` — **a setting is what the last line that names it says**;
* `LineScript.Settings.faulty_lines_inert` — all of it together.
-/

set_option autoImplicit false

namespace LineScript

/-! ### The settings by name -/

/-- A setting. -/
inductive Setting where
  | stepBudget
  | lockTimeout
  | maxSleep
  | commandSign
  | selfName
  | channel
deriving DecidableEq

namespace Setting

/-- The name of a setting, in lower case. -/
def name : Setting → String
  | stepBudget => "step_budget"
  | lockTimeout => "lock_timeout"
  | maxSleep => "max_sleep"
  | commandSign => "command_prefix"
  | selfName => "self_name"
  | channel => "channel"

theorem name_inj {f g : Setting} : f.name = g.name ↔ f = g := by
  cases f <;> cases g <;> decide

/-- What the values of a setting are. -/
abbrev Value : Setting → Type
  | stepBudget => Option Nat
  | lockTimeout => Duration
  | maxSleep => Duration
  | commandSign => Char
  | selfName => String
  | channel => String

/-- The value of a setting that a text stands for. -/
def read : (f : Setting) → String → Except SettingError f.Value
  | stepBudget => Settings.budget
  | lockTimeout => Settings.duration
  | maxSleep => Settings.duration
  | commandSign => Settings.sign
  | selfName => .ok
  | channel => .ok

end Setting

namespace Settings

/-- The value of a setting. -/
def get (s : Settings) : (f : Setting) → f.Value
  | .stepBudget => s.stepBudget
  | .lockTimeout => s.lockTimeout
  | .maxSleep => s.maxSleep
  | .commandSign => s.commandSign
  | .selfName => s.selfName
  | .channel => s.channel

/-- The settings with another value of one of them. -/
def put (s : Settings) : (f : Setting) → f.Value → Settings
  | .stepBudget, v => { s with stepBudget := v }
  | .lockTimeout, v => { s with lockTimeout := v }
  | .maxSleep, v => { s with maxSleep := v }
  | .commandSign, v => { s with commandSign := v }
  | .selfName, v => { s with selfName := v }
  | .channel, v => { s with channel := v }

@[simp] theorem get_put_self (s : Settings) (f : Setting) (v : f.Value) : (s.put f v).get f = v := by
  cases f <;> rfl

theorem get_put_of_ne (s : Settings) {f g : Setting} (other : g ≠ f) (v : f.Value) :
    (s.put f v).get g = s.get g := by
  cases f <;> cases g <;> first | rfl | exact absurd rfl other

variable {s : Settings} {name value line : String}

/-- **A change of one setting by its name**: its value is read, and nothing else changes. -/
theorem apply_eq {f : Setting} (named : Case.asciiLowercase name = f.name) (s : Settings) (value : String) :
    s.apply name value = (f.read value).map (s.put f) := by
  unfold apply
  rw [named]
  cases f with
  | stepBudget => simp only [Setting.name, Setting.read]; cases budget value <;> rfl
  | lockTimeout => simp only [Setting.name, Setting.read]; cases duration value <;> rfl
  | maxSleep => simp only [Setting.name, Setting.read]; cases duration value <;> rfl
  | commandSign => simp only [Setting.name, Setting.read]; cases sign value <;> rfl
  | selfName => rfl
  | channel => rfl

theorem apply_of_unknown (unknown : ∀ f : Setting, Case.asciiLowercase name ≠ f.name) (s : Settings)
    (value : String) : s.apply name value = .error (.unknownSetting name) := by
  unfold apply
  split
  · exact absurd ‹_› (unknown .stepBudget)
  · exact absurd ‹_› (unknown .lockTimeout)
  · exact absurd ‹_› (unknown .maxSleep)
  · exact absurd ‹_› (unknown .commandSign)
  · exact absurd ‹_› (unknown .selfName)
  · exact absurd ‹_› (unknown .channel)
  · rfl

end Settings

/-! ### Single lines -/

theorem Blank.head?_trim (cs : List Char) :
    (Blank.trim cs).head? = cs.find? fun c => !Blank.isBlank c := by
  rw [List.find?_not_eq_head?_dropWhile, Blank.trim, Blank.trimStart, Blank.trimEnd, List.head?_reverse]
  cases kept : cs.dropWhile Blank.isBlank with
  | nil => rfl
  | cons c rest =>
      have solid : Blank.isBlank c = false := by
        have first := List.head?_dropWhile_not Blank.isBlank cs
        rw [kept] at first
        simpa using first
      rw [List.reverse_cons, List.dropWhile_append]
      split
      · simp [solid]
      · simp

namespace Settings

variable {s : Settings} {name value line : String}

/-- A line is neither blank nor a comment: its first sign that is not blank is neither `#` nor `;`. -/
def Speaks (line : String) : Prop :=
  ∃ c, line.toList.find? (fun c => !Blank.isBlank c) = some c ∧ c ≠ '#' ∧ c ≠ ';'

/-- **A line gives a name a value**: its first word is `set`, in any case, and the items after it say so. -/
def Assigns (line name value : String) : Prop :=
  ∃ word rest, splitAtBlank (Text.trim line) = (word, rest) ∧ Case.asciiLowercase word = "set" ∧
    assignment (items (Text.trim rest)) = .ok (name, value)

theorem Assigns.unique {name' value' : String} (h : Assigns line name value) (h' : Assigns line name' value') :
    name' = name ∧ value' = value := by
  obtain ⟨word, rest, split, _, items⟩ := h
  obtain ⟨word', rest', split', _, items'⟩ := h'
  obtain ⟨rfl, rfl⟩ := Prod.mk.inj (split.symm.trans split')
  rw [items, Except.ok.injEq, Prod.mk.injEq] at items'
  exact ⟨items'.1.symm, items'.2.symm⟩

theorem applyLine_of_silent (silent : ¬ Speaks line) (s : Settings) : s.applyLine line = .ok s := by
  unfold Speaks at silent
  rw [← Blank.head?_trim] at silent
  unfold applyLine
  simp only [Text.trim, String.toList_ofList]
  split
  · rfl
  · rfl
  · rfl
  · rename_i c hash semicolon first
    refine absurd ⟨c, first, ?_, ?_⟩ silent
    · rintro rfl
      exact hash rfl
    · rintro rfl
      exact semicolon rfl

theorem applyLine_of_speaks (speaks : Speaks line) {word rest : String}
    (parts : splitAtBlank (Text.trim line) = (word, rest)) (s : Settings) :
    s.applyLine line =
      if Case.asciiLowercase word = "set" then
        (assignment (items (Text.trim rest))).bind fun given => s.apply given.1 given.2
      else .error (.unknownDirective word) := by
  obtain ⟨c, first, hash, semicolon⟩ := speaks
  have head : (Text.trim line).toList.head? = some c := by
    rw [Text.trim, String.toList_ofList, Blank.head?_trim, first]
  unfold applyLine
  simp only [head, parts]
  rfl

/-- A line that gives a name a value speaks: it starts with a letter. -/
theorem Assigns.speaks (h : Assigns line name value) : Speaks line := by
  obtain ⟨word, rest, parts, isSet, _⟩ := h
  have spelled : word.toList = (Blank.trim line.toList).takeWhile fun c => !Blank.isAsciiBlank c := by
    have first := congrArg (fun parts => parts.1.toList) parts
    simpa [splitAtBlank, Text.trim, List.span_eq_takeWhile_dropWhile] using first.symm
  have lower : word.toList.map Case.asciiLower = ['s', 'e', 't'] := by
    simpa [Case.asciiLowercase] using congrArg String.toList isSet
  unfold Speaks
  rw [← Blank.head?_trim]
  cases chars : Blank.trim line.toList with
  | nil =>
      rw [spelled, chars] at lower
      cases lower
  | cons c cs =>
      -- the word is not empty, so it starts with the first character of the line
      have letter : Case.asciiLower c = 's' := by
        rw [spelled, chars, List.takeWhile_cons] at lower
        split at lower
        · exact (List.cons.inj lower).1
        · cases lower
      refine ⟨c, rfl, ?_, ?_⟩
      · rintro rfl
        exact absurd letter (by decide)
      · rintro rfl
        exact absurd letter (by decide)

/-- A line that gives a name a value changes that setting, or fails as the change does. -/
theorem applyLine_of_assigns (h : Assigns line name value) (s : Settings) :
    s.applyLine line = s.apply name value := by
  have speaks := h.speaks
  obtain ⟨word, rest, parts, isSet, given⟩ := h
  rw [applyLine_of_speaks speaks parts, if_pos isSet, given]
  rfl

/-- **All that a line can do**, whatever the settings are: nothing, nothing but a failure, or one change. -/
inductive Acts (line : String) : Prop
  | keeps (silent : ¬ Speaks line) (same : ∀ s : Settings, s.applyLine line = .ok s)
  | fails (speaks : Speaks line) (e : SettingError) (refused : ∀ s : Settings, s.applyLine line = .error e)
  | gives {name value : String} {f : Setting} {v : f.Value} (assigns : Assigns line name value)
      (named : Case.asciiLowercase name = f.name) (read : f.read value = .ok v)
      (puts : ∀ s : Settings, s.applyLine line = .ok (s.put f v))

/-- A line that gives a name a value changes a setting, unless the name is not known or the value cannot be
read. -/
theorem acts_of_assigns (assigns : Assigns line name value) : Acts line := by
  by_cases known : ∃ f : Setting, Case.asciiLowercase name = f.name
  · obtain ⟨f, named⟩ := known
    have change : ∀ s : Settings, s.applyLine line = (f.read value).map (s.put f) := by
      intro s
      rw [applyLine_of_assigns assigns, apply_eq named]
    cases read : f.read value with
    | error e =>
        rw [read] at change
        exact .fails assigns.speaks e change
    | ok v =>
        rw [read] at change
        exact .gives assigns named read change
  · have refused : ∀ s : Settings, s.applyLine line = .error (.unknownSetting name) := by
      intro s
      rw [applyLine_of_assigns assigns]
      exact apply_of_unknown (fun f named => known ⟨f, named⟩) s value
    exact .fails assigns.speaks _ refused

theorem acts (line : String) : Acts line := by
  by_cases speaks : Speaks line
  · obtain ⟨word, rest, parts⟩ : ∃ word rest, splitAtBlank (Text.trim line) = (word, rest) := ⟨_, _, rfl⟩
    by_cases isSet : Case.asciiLowercase word = "set"
    · cases given : assignment (items (Text.trim rest)) with
      | error e =>
          have refused : ∀ s : Settings, s.applyLine line = .error e := by
            intro s
            rw [applyLine_of_speaks speaks parts, if_pos isSet, given]
            rfl
          exact .fails speaks e refused
      | ok pair =>
          obtain ⟨name, value⟩ := pair
          exact acts_of_assigns ⟨word, rest, parts, isSet, given⟩
    · have refused : ∀ s : Settings, s.applyLine line = .error (.unknownDirective word) := by
        intro s
        rw [applyLine_of_speaks speaks parts, if_neg isSet]
      exact .fails speaks _ refused
  · exact .keeps speaks (applyLine_of_silent speaks)

/-- The line is refused, with the same error whatever the settings are. -/
def Refuses (line : String) (e : SettingError) : Prop := ∀ s : Settings, s.applyLine line = .error e

/-- What a line is refused for does not depend on the settings. -/
theorem refuses_of_error {e : SettingError} (h : s.applyLine line = .error e) : Refuses line e := by
  cases acts line with
  | keeps _ same => rw [same] at h; cases h
  | fails _ e' refused => rwa [← Except.error.inj ((refused s).symm.trans h)]
  | gives _ _ _ puts => rw [puts] at h; cases h

/-- The line is accepted and gives the setting the value. -/
def Gives (line : String) (f : Setting) (v : f.Value) : Prop :=
  ∃ name value, Assigns line name value ∧ Case.asciiLowercase name = f.name ∧ f.read value = .ok v

/-- A line gives a value to one setting only. -/
theorem Assigns.setting_eq {f g : Setting} {v : f.Value} (h : Assigns line name value)
    (named : Case.asciiLowercase name = g.name) (gives : Gives line f v) : f = g := by
  obtain ⟨name', value', assigns, named', _⟩ := gives
  obtain ⟨rfl, rfl⟩ := h.unique assigns
  exact Setting.name_inj.1 (named'.symm.trans named)

theorem Gives.applyLine {f : Setting} {v : f.Value} (gives : Gives line f v) (s : Settings) :
    s.applyLine line = .ok (s.put f v) := by
  obtain ⟨name, value, assigns, named, read⟩ := gives
  rw [applyLine_of_assigns assigns, apply_eq named, read]
  rfl

/-- **A line is refused just if it speaks and gives no setting a value.** -/
theorem refuses_iff : (∃ e, Refuses line e) ↔ Speaks line ∧ ∀ f v, ¬ Gives line f v := by
  cases acts line with
  | keeps silent same =>
      refine iff_of_false ?_ fun wrong => silent wrong.1
      rintro ⟨e, refuses⟩
      exact absurd ((same {}).symm.trans (refuses {})) (by simp)
  | fails speaks e refused =>
      refine iff_of_true ⟨e, refused⟩ ⟨speaks, ?_⟩
      intro f v gives
      exact absurd ((refused {}).symm.trans (gives.applyLine {})) (by simp)
  | @gives name value f v assigns named read puts =>
      refine iff_of_false ?_ fun wrong => wrong.2 f v ⟨name, value, assigns, named, read⟩
      rintro ⟨e, refuses⟩
      exact absurd ((puts {}).symm.trans (refuses {})) (by simp)

/-! ### Several lines -/

theorem applyLines_of_ok {t : Settings} (h : s.applyLine line = .ok t) (n : Nat) (lines : List String) :
    s.applyLines n (line :: lines) = t.applyLines (n + 1) lines := by
  simp only [applyLines, h]

theorem applyLines_of_error {e : SettingError} (h : s.applyLine line = .error e) (n : Nat)
    (lines : List String) :
    s.applyLines n (line :: lines) =
      ((s.applyLines (n + 1) lines).1, ⟨n, e⟩ :: (s.applyLines (n + 1) lines).2) := by
  simp only [applyLines, h]

theorem applyLines_append (s : Settings) (n : Nat) (first last : List String) :
    s.applyLines n (first ++ last) =
      (((s.applyLines n first).1.applyLines (n + first.length) last).1,
        (s.applyLines n first).2 ++ ((s.applyLines n first).1.applyLines (n + first.length) last).2) := by
  induction first generalizing s n with
  | nil => rfl
  | cons line first ih =>
      have later : n + (line :: first).length = n + 1 + first.length := by
        rw [List.length_cons]
        omega
      rw [later, List.cons_append]
      cases act : s.applyLine line with
      | ok t => rw [applyLines_of_ok act, applyLines_of_ok act, ih]
      | error e => rw [applyLines_of_error act, applyLines_of_error act, ih, List.cons_append]

/-- **What is reported about lines**: those that are refused, each by its number. -/
theorem mem_faults_iff (s : Settings) (n : Nat) (lines : List String) (f : SettingFault) :
    f ∈ (s.applyLines n lines).2 ↔
      ∃ i line, lines[i]? = some line ∧ f.line = n + i ∧ Refuses line f.error := by
  induction lines generalizing s n with
  | nil => simp [applyLines]
  | cons line lines ih =>
      -- the first line is the one in question, or it is one of the others
      have cons : (∃ i l, (line :: lines)[i]? = some l ∧ f.line = n + i ∧ Refuses l f.error) ↔
          (f.line = n ∧ Refuses line f.error) ∨
            ∃ i l, lines[i]? = some l ∧ f.line = n + 1 + i ∧ Refuses l f.error := by
        constructor
        · rintro ⟨i, l, here, number, refuses⟩
          cases i with
          | zero =>
              obtain rfl : line = l := by simpa using here
              exact .inl ⟨by omega, refuses⟩
          | succ i => exact .inr ⟨i, l, by simpa using here, by omega, refuses⟩
        · rintro (⟨number, refuses⟩ | ⟨i, l, here, number, refuses⟩)
          · exact ⟨0, line, rfl, by omega, refuses⟩
          · exact ⟨i + 1, l, by simpa using here, by omega, refuses⟩
      rw [cons]
      cases act : s.applyLine line with
      | ok t =>
          have accepted : ¬ Refuses line f.error := fun refuses => by
            rw [refuses s] at act
            cases act
          rw [applyLines_of_ok act, ih]
          simp [accepted]
      | error e =>
          have refused := refuses_of_error act
          have same : Refuses line f.error ↔ f.error = e :=
            ⟨fun h => Except.error.inj ((h s).symm.trans act), fun h => h ▸ refused⟩
          rw [applyLines_of_error act, List.mem_cons, ih, same]
          refine or_congr_left ⟨?_, ?_⟩
          · rintro rfl
            exact ⟨rfl, rfl⟩
          · rintro ⟨number, error⟩
            cases f
            simp_all

/-- No line is reported twice, and they are reported in order. -/
theorem faults_increasing (s : Settings) (n : Nat) (lines : List String) :
    ((s.applyLines n lines).2.map SettingFault.line).Pairwise (· < ·) := by
  induction lines generalizing s n with
  | nil => exact .nil
  | cons line lines ih =>
      cases act : s.applyLine line with
      | ok t =>
          rw [applyLines_of_ok act]
          exact ih t (n + 1)
      | error e =>
          rw [applyLines_of_error act, List.map_cons, List.pairwise_cons]
          refine ⟨?_, ih s (n + 1)⟩
          intro k mem
          obtain ⟨f, reported, rfl⟩ := List.mem_map.1 mem
          obtain ⟨i, _, _, number, _⟩ := (mem_faults_iff s (n + 1) lines f).1 reported
          change n < f.line
          omega

/-- The first line that is reported, and what is around it. -/
theorem exists_first_fault {n : Nat} {lines : List String} {f : SettingFault} {fs : List SettingFault}
    (h : (s.applyLines n lines).2 = f :: fs) :
    ∃ before line after, lines = before ++ line :: after ∧ f.line = n + before.length ∧
      (s.applyLines n before).2 = [] ∧ Refuses line f.error := by
  induction lines generalizing s n with
  | nil => cases h
  | cons line lines ih =>
      cases act : s.applyLine line with
      | ok t =>
          rw [applyLines_of_ok act] at h
          obtain ⟨before, l, after, rfl, number, hnone, refuses⟩ := ih h
          refine ⟨line :: before, l, after, rfl, ?_, ?_, refuses⟩
          · rw [List.length_cons]
            omega
          · rwa [applyLines_of_ok act]
      | error e =>
          rw [applyLines_of_error act] at h
          obtain ⟨rfl, _⟩ := List.cons.inj h
          exact ⟨[], line, lines, rfl, rfl, rfl, refuses_of_error act⟩

theorem applyLine_empty (s : Settings) : s.applyLine "" = .ok s := rfl

/-- **A setting is what the last line that gives it a value says**, and what it was if there is none. -/
theorem applyLines_get (s : Settings) (n : Nat) (lines : List String) (f : Setting) :
    (∃ before line after, lines = before ++ line :: after ∧
        Gives line f ((s.applyLines n lines).1.get f) ∧ ∀ l ∈ after, ∀ v, ¬ Gives l f v) ∨
      ((∀ l ∈ lines, ∀ v, ¬ Gives l f v) ∧ (s.applyLines n lines).1.get f = s.get f) := by
  induction lines generalizing s n with
  | nil => exact .inr ⟨by simp, rfl⟩
  | cons line lines ih =>
      -- whatever the line does to the settings, a later line that gives the setting a value decides
      have later : ∀ t : Settings, (s.applyLines n (line :: lines)).1 = (t.applyLines (n + 1) lines).1 →
          ((t.get f = s.get f ∧ ∀ v, ¬ Gives line f v) ∨ Gives line f (t.get f)) →
          (∃ before l after, line :: lines = before ++ l :: after ∧
              Gives l f ((s.applyLines n (line :: lines)).1.get f) ∧ ∀ l ∈ after, ∀ v, ¬ Gives l f v) ∨
            ((∀ l ∈ line :: lines, ∀ v, ¬ Gives l f v) ∧
              (s.applyLines n (line :: lines)).1.get f = s.get f) := by
        intro t same here
        rw [same]
        rcases ih t (n + 1) with ⟨before, l, after, rfl, gives, last⟩ | ⟨hnone, kept⟩
        · exact .inl ⟨line :: before, l, after, rfl, gives, last⟩
        · rw [kept]
          rcases here with ⟨untouched, silent⟩ | gives
          · exact .inr ⟨List.forall_mem_cons.2 ⟨silent, hnone⟩, untouched⟩
          · exact .inl ⟨[], line, lines, rfl, gives, hnone⟩
      cases acts line with
      | keeps silent same =>
          refine later s (by rw [applyLines_of_ok (same s)]) (.inl ⟨rfl, ?_⟩)
          rintro v ⟨_, _, assigns, _, _⟩
          exact silent assigns.speaks
      | fails _ e refused =>
          refine later s (by rw [applyLines_of_error (refused s)]) (.inl ⟨rfl, ?_⟩)
          exact (refuses_iff.1 ⟨e, refused⟩).2 f
      | @gives name value g v assigns named read puts =>
          refine later (s.put g v) (by rw [applyLines_of_ok (puts s)]) ?_
          by_cases same : f = g
          · subst same
            exact .inr ⟨name, value, assigns, named, by rw [read, get_put_self]⟩
          · exact .inl ⟨get_put_of_ne s same v, fun v gives => same (assigns.setting_eq named gives)⟩

end Settings

/-! ### Texts -/

/-- The text with some of its lines left empty, which are given by their numbers. -/
def Text.blankLines (numbers : List Nat) (text : String) : String :=
  numbers.foldl (fun text k => Text.blankLine k text) text

namespace Settings

/-- The numbers of the lines that are reported. -/
def reported (text : String) : List Nat := (ofText text).2.map SettingFault.line

theorem mem_reported_iff {text : String} {k : Nat} :
    k ∈ reported text ↔
      ∃ i line e, (Text.lines text)[i]? = some line ∧ k = i + 1 ∧ Refuses line e := by
  unfold reported ofText
  rw [List.mem_map]
  constructor
  · rintro ⟨f, mem, rfl⟩
    obtain ⟨i, line, here, number, refuses⟩ := (mem_faults_iff _ _ _ f).1 mem
    exact ⟨i, line, f.error, here, by omega, refuses⟩
  · rintro ⟨i, line, e, here, rfl, refuses⟩
    exact ⟨⟨i + 1, e⟩, (mem_faults_iff _ _ _ _).2 ⟨i, line, here, Nat.add_comm i 1, refuses⟩, rfl⟩

/-- Without the first line that is reported the settings are the same, and the others are reported. -/
theorem ofText_blankLine {text : String} {f : SettingFault} {fs : List SettingFault}
    (h : (ofText text).2 = f :: fs) : ofText (Text.blankLine f.line text) = ((ofText text).1, fs) := by
  obtain ⟨before, line, after, split, number, hnone, refuses⟩ := exists_first_fault h
  have whole : ofText text = ({} : Settings).applyLines 1 (before ++ line :: after) := by
    rw [ofText, split]
  rw [applyLines_append, hnone, applyLines_of_error (refuses _), List.nil_append] at whole
  have rest : (((({} : Settings).applyLines 1 before).1).applyLines (1 + before.length + 1) after).2 = fs := by
    rw [whole] at h
    exact (List.cons.inj h).2
  rw [whole, ← rest, number, Nat.add_comm 1]
  unfold ofText
  rcases Text.lines_blankLine split with blanked | ⟨rfl, gone⟩
  · rw [blanked, applyLines_append, hnone, applyLines_of_ok (applyLine_empty _), List.nil_append,
      Nat.add_comm 1]
  · rw [gone]
    exact Prod.ext rfl hnone

/-- **Without all lines that are reported the settings are the same**, and nothing is reported. -/
theorem ofText_blankLines (text : String) :
    ofText (Text.blankLines (reported text) text) = ((ofText text).1, []) := by
  unfold reported
  generalize faults : (ofText text).2 = fs
  induction fs generalizing text with
  | nil => exact Prod.ext rfl faults
  | cons f fs ih =>
      have blanked := ofText_blankLine faults
      have rest := ih (Text.blankLine f.line text) (by rw [blanked])
      rw [blanked] at rest
      exact rest

/-- The line with the index `k` is accepted, and names the setting with a text for its value. -/
def NamesAt (text : String) (k : Nat) (f : Setting) (value : String) : Prop :=
  k + 1 ∉ reported text ∧ ∃ line name, (Text.lines text)[k]? = some line ∧
    Assigns line name value ∧ Case.asciiLowercase name = f.name

/-- The last of the lines that are accepted and name the setting has the text for its value. -/
def LastNamed (text : String) (f : Setting) (value : String) : Prop :=
  ∃ k, NamesAt text k f value ∧ ∀ j other, NamesAt text j f other → j ≤ k

/-- A line that is accepted and names a setting gives it a value. -/
theorem NamesAt.gives {text value : String} {k : Nat} {f : Setting} (names : NamesAt text k f value) :
    ∃ line v, (Text.lines text)[k]? = some line ∧ Gives line f v := by
  obtain ⟨accepted, line, name, here, assigns, named⟩ := names
  cases read : f.read value with
  | ok v => exact ⟨line, v, here, name, value, assigns, named, read⟩
  | error e =>
      refine absurd (mem_reported_iff.2 ⟨k, line, e, here, rfl, ?_⟩) accepted
      intro s
      rw [applyLine_of_assigns assigns, apply_eq named, read]
      rfl

theorem Gives.namesAt {text line : String} {k : Nat} {f : Setting} {v : f.Value} (gives : Gives line f v)
    (here : (Text.lines text)[k]? = some line) : ∃ value, NamesAt text k f value ∧ f.read value = .ok v := by
  have accepted : k + 1 ∉ reported text := by
    intro mem
    obtain ⟨i, other, e, there, same, refuses⟩ := mem_reported_iff.1 mem
    obtain rfl : i = k := by omega
    obtain rfl : line = other := Option.some.inj (here.symm.trans there)
    exact (refuses_iff.1 ⟨e, refuses⟩).2 f v gives
  obtain ⟨name, value, assigns, named, read⟩ := gives
  exact ⟨value, ⟨accepted, line, name, here, assigns, named⟩, read⟩

/-- **A setting is what the last line says that is accepted and names it**, or its default. -/
theorem ofText_get (text : String) (f : Setting) :
    (∃ value, LastNamed text f value ∧ f.read value = .ok ((ofText text).1.get f)) ∨
      ((∀ k value, ¬ NamesAt text k f value) ∧ (ofText text).1.get f = ({} : Settings).get f) := by
  rcases applyLines_get {} 1 (Text.lines text) f with ⟨before, line, after, split, gives, last⟩ | ⟨hnone, kept⟩
  · left
    have here : (Text.lines text)[before.length]? = some line := by simp [split]
    obtain ⟨value, names, read⟩ := gives.namesAt here
    refine ⟨value, ⟨before.length, names, ?_⟩, read⟩
    intro j other names'
    obtain ⟨l, v, there, gives'⟩ := names'.gives
    apply Nat.le_of_not_lt
    intro beyond
    -- a later line would be one of those after the last
    have mem : l ∈ after := by
      obtain ⟨i, rfl⟩ : ∃ i, j = before.length + (i + 1) := ⟨j - before.length - 1, by omega⟩
      rw [split, List.getElem?_append_right (by omega), Nat.add_sub_cancel_left, List.getElem?_cons_succ]
        at there
      exact List.mem_of_getElem? there
    exact last l mem v gives'
  · right
    refine ⟨?_, kept⟩
    intro k value names
    obtain ⟨l, v, there, gives⟩ := names.gives
    exact hnone l (List.mem_of_getElem? there) v gives

/-- **A wrong line of settings might as well be empty.**  The lines reported are just those that are
neither blank nor a comment and give no setting a value, once each and in order; with them empty, the
settings are the same.  Each setting has the value of the last line that is accepted and names it, or
its default. -/
theorem faulty_lines_inert (text : String) :
    ofText (Text.blankLines (reported text) text) = ((ofText text).1, []) ∧
      (reported text).Pairwise (· < ·) ∧
      (∀ k, k ∈ reported text ↔ ∃ i line, k = i + 1 ∧ (Text.lines text)[i]? = some line ∧
        Speaks line ∧ ∀ f v, ¬ Gives line f v) ∧
      (∀ (s : Settings) (n : Nat) (line name value : String) (lines : List String) (e : SettingError),
        Assigns line name value → s.apply name value = .error e →
          s.applyLines n (line :: lines) =
            ((s.applyLines (n + 1) lines).1, ⟨n, e⟩ :: (s.applyLines (n + 1) lines).2)) ∧
      ∀ f : Setting,
        (∃ value, LastNamed text f value ∧ f.read value = .ok ((ofText text).1.get f)) ∨
          ((∀ k value, ¬ NamesAt text k f value) ∧ (ofText text).1.get f = ({} : Settings).get f) := by
  have increasing : (reported text).Pairwise (· < ·) := faults_increasing {} 1 (Text.lines text)
  refine ⟨ofText_blankLines text, increasing, ?_, ?_, ofText_get text⟩
  · intro k
    rw [mem_reported_iff]
    constructor
    · rintro ⟨i, line, e, here, number, refuses⟩
      exact ⟨i, line, number, here, refuses_iff.1 ⟨e, refuses⟩⟩
    · rintro ⟨i, line, number, here, wrong⟩
      obtain ⟨e, refuses⟩ := refuses_iff.2 wrong
      exact ⟨i, line, e, here, number, refuses⟩
  · intro s n line name value lines e assigns fails
    exact applyLines_of_error ((applyLine_of_assigns assigns s).trans fails) n lines

end Settings

end LineScript
