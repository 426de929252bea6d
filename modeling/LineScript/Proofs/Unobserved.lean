import Mathlib.Data.List.Forall2
import LineScript.Proofs.Alike
import LineScript.Proofs.KeyOrder
import LineScript.Proofs.Steps

/-!
**What a read leaves behind is never seen.**

A read of a missing key leaves the empty value under it.  Two value maps that differ in such entries
only are called the same here.  A plain name reads the same in both, and a wildcard looks at set
values only, so that being the same is a likeness and no statement tells the maps apart.  This module
carries that over to steps, to runs and to whole chains of runs, in which the host resumes a script
after every sleep and does what it likes in between: two chains that begin alike show the same to the
outside at every stage, and stop in the same way with values that read the same.

Main definitions:

* `LineScript.ValueMap.Same` — equal look-ups, up to keys that are missing on one side and empty on
  the other;
* `LineScript.Likeness.unread` — sessions that differ in such keys only;
* `LineScript.Invocation.Alike`, `LineScript.Outcome.Alike` — runs and outcomes that do;
* `LineScript.Outcome.stages` — the outcomes of a run that is resumed after every sleep.

Main results:

* `LineScript.ValueMap.same_iff_read` — maps are the same when every read gives the same;
* `LineScript.ValueMap.Same.members_eq` — wildcards cover the same in both;
* `LineScript.Invocation.Alike.run` — runs that begin alike end alike;
* `LineScript.Invocation.reads_unobserved` — **chains of runs cannot tell a missing value from an
  empty one**.
-/

set_option autoImplicit false

namespace LineScript

/-! ### Maps that read the same -/

namespace ValueMap

/-- The maps agree on every key, except that a key that is missing in one of them may hold the empty
value in the other. -/
def Same (m n : ValueMap) : Prop :=
  ∀ key, m.get? key = n.get? key ∨ (m.get? key = none ∧ n.get? key = some .empty) ∨
    (m.get? key = some .empty ∧ n.get? key = none)

/-- **Maps are the same when every read gives the same.** -/
theorem same_iff_read {m n : ValueMap} : m.Same n ↔ ∀ key, m.read key = n.read key := by
  constructor
  · intro h key
    rcases h key with h | ⟨hm, hn⟩ | ⟨hm, hn⟩
    · simp only [read, h]
    · simp [read, hm, hn]
    · simp [read, hm, hn]
  · intro h key
    -- where one side has no entry, the other can only have the empty value
    have hkey := h key
    unfold read at hkey
    cases hm : m.get? key with
    | none =>
        cases hn : n.get? key with
        | none => exact Or.inl rfl
        | some w => simpa [hm, hn, eq_comm] using hkey
    | some v =>
        cases hn : n.get? key with
        | none => simpa [hm, hn] using hkey
        | some w => simpa [hm, hn] using hkey

theorem read_set (m : ValueMap) (key other : String) (v : Value) :
    (m.set key v).read other = if other = key then v else m.read other := by
  by_cases h : other = key
  · subst h
    simp [read, set]
  · simp [read, set, h, KeyMap.get?_insert_of_ne m h]

/-- What a read gives after a name was dropped: nothing that the name stands for is left. -/
theorem read_drop (m : ValueMap) (name : ScopedName) (key : String) :
    (m.drop name).read key =
      if (if name.wildcard then KeyMap.begins name.key key = true else key = name.key) then .empty
      else m.read key := by
  unfold drop read
  cases name.wildcard with
  | true =>
      simp only [if_true, KeyMap.get?_eraseSpan]
      split <;> simp
  | false =>
      by_cases h : key = name.key
      · simp [h]
      · simp [h, KeyMap.get?_erase_of_ne m h]

/-- A read leaves a map that is the same. -/
theorem same_touch (m : ValueMap) (key : String) : m.Same (m.touch key) :=
  same_iff_read.2 fun other => (read_touch m key other).symm

namespace Same

variable {m n : ValueMap}

theorem read_eq (h : m.Same n) (key : String) : n.read key = m.read key :=
  (same_iff_read.1 h key).symm

theorem set (h : m.Same n) (key : String) (v : Value) : (m.set key v).Same (n.set key v) :=
  same_iff_read.2 fun other => by rw [read_set, read_set, h.read_eq]

theorem touch (h : m.Same n) (key : String) : (m.touch key).Same (n.touch key) :=
  same_iff_read.2 fun other => by rw [read_touch, read_touch, h.read_eq]

theorem drop (h : m.Same n) (name : ScopedName) : (m.drop name).Same (n.drop name) :=
  same_iff_read.2 fun key => by rw [read_drop, read_drop, h.read_eq]

/-- A value with text is under a key of one map if it is under the key of the other. -/
theorem get?_eq_some (h : m.Same n) {key : String} {v : Value} (hv : (!v.isEmpty) = true) :
    n.get? key = some v ↔ m.get? key = some v := by
  have hne : v ≠ .empty := by
    rintro rfl
    simp [Value.isEmpty, Value.empty] at hv
  rcases h key with h | ⟨hm, hn⟩ | ⟨hm, hn⟩
  · rw [h]
  · simp [hm, hn, hne.symm]
  · simp [hm, hn, hne.symm]

/-- **Wildcards cover the same in both maps.** -/
theorem members_eq (h : m.Same n) (stem : String) : n.members stem = m.members stem := by
  -- the filters change places, so that the set entries are compared before a beginning is looked at
  have filters : ∀ k : ValueMap, ((k.span stem).filter fun e => !e.2.isEmpty) =
      (k.entries.filter fun e => !e.2.isEmpty).filter fun e => KeyMap.begins stem e.1 := by
    intro k
    rw [KeyMap.span_eq_filter, List.filter_filter, List.filter_filter]
    exact List.filter_congr fun e _ => Bool.and_comm _ _
  have entries : (n.entries.filter fun e => !e.2.isEmpty) =
      m.entries.filter fun e => !e.2.isEmpty :=
    KeyMap.filter_entries_eq fun _ _ hv => h.get?_eq_some hv
  rw [members, members, filters, filters, entries]

end Same

end ValueMap

/-- Sessions that differ only in entries that a read has left behind. -/
def Likeness.unread : Likeness where
  values := ValueMap.Same
  emitted := Eq
  read_eq h := h.read_eq
  members_eq h := h.members_eq
  set h := h.set
  touch h := h.touch
  drop h := h.drop
  emit h _ := by rw [h]

namespace Session

/-- Sessions that differ only in such entries work on one and the same host. -/
theorem Alike.host_eq {s t : Session} (a : s.Alike .unread t) : t.host = s.host := by
  obtain ⟨values, emitted, _, he, rfl⟩ := a.eq_revised
  cases he
  rfl

/-- A read leaves a session that is alike. -/
theorem alike_touch (s : Session) (o : Operand) : s.Alike .unread (s.touch o) := by
  have refl : s.values.Same s.values := fun _ => Or.inl rfl
  refine ⟨rfl, ?_, rfl⟩
  cases o with
  | constant v => exact refl
  | named name =>
      simp only [touch, values, setValues, Operand.touch]
      split
      · exact refl
      · exact ValueMap.same_touch _ _

end Session

/-! ### Runs that are alike -/

/-- The runs are equal but for their values, which are the same map up to empty entries. -/
structure Invocation.Alike (i j : Invocation) : Prop where
  rest : j = { i with context.values := j.context.values }
  values : i.context.values.Same j.context.values

/-- The runs stop in the same way, up to empty entries. -/
inductive Outcome.Alike : Outcome → Outcome → Prop
  | completed (t : Termination) {m n : ValueMap} (same : m.Same n) :
      Alike (.completed t m) (.completed t n)
  | suspended (delay : Duration) {i j : Invocation} (alike : i.Alike j) :
      Alike (.suspended ⟨i, delay⟩) (.suspended ⟨j, delay⟩)
  | unfinished {i j : Invocation} (alike : i.Alike j) : Alike (.unfinished i) (.unfinished j)

/-- The steps lead to the same, up to empty entries. -/
inductive Progress.Alike : Progress → Progress → Prop
  | goesOn {i j : Invocation} (alike : i.Alike j) : Alike (.goesOn i) (.goesOn j)
  | stops {o p : Outcome} (alike : o.Alike p) : Alike (.stops o) (.stops p)

/-- The steps lead to the same and leave the host in one state. -/
structure Progress.Paired (x y : Progress × Host) : Prop where
  progress : x.1.Alike y.1
  host : y.2 = x.2

/-- The runs stop in the same way and leave the host in one state. -/
structure Outcome.Paired (x y : Outcome × Host) : Prop where
  outcome : x.1.Alike y.1
  host : y.2 = x.2

namespace Invocation

/-! ### Single steps -/

variable {i j : Invocation}

/-- The second run is the first one with other values. -/
theorem Alike.eq_setValues (a : i.Alike j) :
    ∃ values, i.context.values.Same values ∧ j = { i with context.values := values } :=
  ⟨j.context.values, a.values, a.rest⟩

theorem Alike.session (a : i.Alike j) (h : Host) : (i.session h).Alike .unread (j.session h) := by
  obtain ⟨values, same, rfl⟩ := a.eq_setValues
  exact ⟨rfl, same, rfl⟩

theorem Alike.script_eq (a : i.Alike j) : j.script = i.script := by
  obtain ⟨values, _, rfl⟩ := a.eq_setValues
  rfl

theorem Alike.cursor_eq (a : i.Alike j) : j.cursor = i.cursor := by
  obtain ⟨values, _, rfl⟩ := a.eq_setValues
  rfl

theorem Alike.spentBudget?_eq (a : i.Alike j) : j.spentBudget? = i.spentBudget? := by
  obtain ⟨values, _, rfl⟩ := a.eq_setValues
  rfl

theorem Alike.continueAt (a : i.Alike j) {s t : Session} (b : s.Alike .unread t) (cursor : Nat) :
    (i.continueAt cursor s).Alike (j.continueAt cursor t) := by
  obtain ⟨_, _, rfl⟩ := a.eq_setValues
  obtain ⟨values, emitted, same, _, rfl⟩ := b.eq_revised
  exact ⟨rfl, same⟩

theorem paired_finish (τ : Termination) {s t : Session} (b : s.Alike .unread t) :
    Progress.Paired (finish τ s) (finish τ t) :=
  ⟨.stops (.completed τ b.values), b.releaseLock.host_eq⟩

theorem Alike.suspend (a : i.Alike j) {s t : Session} (b : s.Alike .unread t) (seconds : Nat) :
    Progress.Paired (i.suspend seconds s) (j.suspend seconds t) := by
  rw [suspend_eq, suspend_eq, a.cursor_eq, b.settings_eq]
  refine ⟨.stops (.suspended _ (a.continueAt b _)), ?_⟩
  unfold hostAsleep
  rw [b.settings_eq]
  split
  · exact (b.remark _).host_eq
  · exact b.host_eq

theorem Alike.follow (a : i.Alike j) {s t : Session} (b : s.Alike .unread t) (flow : Flow) :
    Progress.Paired (i.follow s flow) (j.follow t flow) := by
  have onward : ∀ cursor, Progress.Paired (.goesOn (i.continueAt cursor s), s.host)
      (.goesOn (j.continueAt cursor t), t.host) :=
    fun cursor => ⟨.goesOn (a.continueAt b cursor), b.host_eq⟩
  cases flow with
  | next =>
      simp only [Invocation.follow, a.cursor_eq]
      exact onward _
  | exit => exact paired_finish .ended b.flush
  | jump label =>
      simp only [Invocation.follow, a.script_eq]
      cases i.script.labels.get? label with
      | some index => exact onward index
      | none => exact paired_finish _ (b.remark _)
  | delay seconds =>
      cases seconds with
      | zero =>
          simp only [Invocation.follow, a.cursor_eq]
          exact onward _
      | succ n =>
          simp only [Invocation.follow]
          exact a.suspend b (n + 1)
  | breakdown => exact paired_finish .brokeDown b

/-- Steps that begin alike end alike. -/
theorem Alike.step (a : i.Alike j) (h : Host) : Progress.Paired (i.step h) (j.step h) := by
  have b := a.session h
  unfold Invocation.step
  rw [a.script_eq, a.cursor_eq, a.spentBudget?_eq]
  cases i.script.statements[i.cursor]? with
  | none => exact paired_finish _ (b.remark _)
  | some st =>
      cases i.spentBudget? with
      | some budget => exact paired_finish _ (b.remark _)
      | none =>
          obtain ⟨flow, s, t, hs, ht, b'⟩ := (b.exec st).cases
          simp only [hs, ht]
          exact a.follow b' flow

/-! ### Runs and chains of runs -/

/-- Runs that begin alike end alike. -/
theorem Alike.run (a : i.Alike j) (fuel : Nat) (h : Host) :
    Outcome.Paired (i.run fuel h) (j.run fuel h) := by
  induction fuel generalizing i j h with
  | zero => exact ⟨.unfinished a, rfl⟩
  | succ fuel ih =>
      obtain ⟨progress, host⟩ := a.step h
      simp only [Invocation.run]
      rcases hi : i.step h with ⟨p, g⟩
      rcases hj : j.step h with ⟨q, f⟩
      rw [hi, hj] at progress host
      obtain rfl : f = g := host
      cases progress with
      | goesOn alike => exact ih alike f
      | stops alike => exact ⟨alike, rfl⟩

end Invocation

/-- What happens to a suspended run: the host does something, then resumes it for so many steps. -/
structure Turn where
  meanwhile : Host → Host
  fuel : Nat

namespace Outcome

/-- **The outcomes of a run that is resumed after every sleep**, as long as there are turns, each with
the state of the host at that time. -/
def stages : List Turn → Outcome × Host → List (Outcome × Host)
  | turn :: turns, (suspended s, h) =>
    (suspended s, h) :: stages turns (s.resume turn.fuel (turn.meanwhile h))
  | _, (o, h) => [(o, h)]

/-- Chains that have come to the same go on alike. -/
theorem Paired.stages {x y : Outcome × Host} (p : Paired x y) (turns : List Turn) :
    List.Forall₂ Paired (stages turns x) (stages turns y) := by
  have last : List.Forall₂ Paired [x] [y] := .cons p .nil
  induction turns generalizing x y with
  | nil => exact last
  | cons turn turns ih =>
      obtain ⟨o, h⟩ := x
      obtain ⟨q, g⟩ := y
      obtain ⟨outcome, host⟩ := p
      cases outcome with
      | completed t same => exact last
      | unfinished alike => exact last
      | suspended delay alike =>
          -- only here is there a next stage, and both chains enter it on one host
          obtain rfl : g = h := host
          have next := alike.run turn.fuel (turn.meanwhile g)
          exact List.Forall₂.cons ⟨.suspended delay alike, rfl⟩ (ih next (.cons next .nil))

end Outcome

namespace Invocation

/-- **What a read leaves behind is never seen.**  The read of an operand leaves a session that is
alike.  From runs that are alike, on one host, every statement goes on in the same way and leaves
sessions that are alike; and the chains of runs come to the same outcomes, at every stage with the
host, and all that was shown to the outside, in one state. -/
theorem reads_unobserved {i j : Invocation} (alike : i.Alike j) (h : Host) :
    (∀ o : Operand, (i.session h).Alike .unread ((i.session h).touch o)) ∧
      (∀ st : Statement, Session.Paired .unread ((i.session h).exec st) ((j.session h).exec st)) ∧
      ∀ (fuel : Nat) (turns : List Turn),
        List.Forall₂ Outcome.Paired (Outcome.stages turns (i.run fuel h))
          (Outcome.stages turns (j.run fuel h)) := by
  refine ⟨fun o => ?_, fun st => ?_, fun fuel turns => ?_⟩
  · exact Session.alike_touch (i.session h) o
  · exact (alike.session h).exec st
  · exact (alike.run fuel h).stages turns

/-- A script that looks for values by wildcard, and shows them. -/
def searching : Invocation :=
  { script :=
      { statements := #[
          .has (.plain .script "found") ⟨.script, "x", true⟩,
          .sleep (.constant (.ofNumber 1)),
          .hurl (.named ⟨.script, "x", true⟩),
          .drop ⟨.script, "x", true⟩] }
    context := Context.ofInputs "search" {} }

/-- The same with the empty value under a key that the wildcard covers. -/
def searchingTouched : Invocation :=
  { searching with context.values := searching.context.values.touch "!x.y" }

theorem reads_unobserved_searching :
    searching.context.values.contains "!x.y" = false ∧
      searchingTouched.context.values.contains "!x.y" = true ∧ searching.Alike searchingTouched ∧
      List.Forall₂ Outcome.Paired (Outcome.stages [⟨id, 9⟩] (searching.run 9 {}))
        (Outcome.stages [⟨id, 9⟩] (searchingTouched.run 9 {})) := by
  have alike : searching.Alike searchingTouched := ⟨rfl, ValueMap.same_touch _ _⟩
  exact ⟨by decide +kernel, by decide +kernel, alike, (reads_unobserved alike {}).2.2 9 [⟨id, 9⟩]⟩

end Invocation

end LineScript
