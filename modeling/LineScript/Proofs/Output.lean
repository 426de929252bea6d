import LineScript.Proofs.Budget
import LineScript.Proofs.Changes

/-!
**Output is neither lost, doubled nor reordered.**

What a script writes goes into a buffer, and out of it in one of two ways: as a broadcast, by `flush` and
by the `end` of the run, or into a variable, by `stash`.  No other statement touches the buffer or
broadcasts output; nor do sleeps, failures and budgets.  So at every point of a run, and over all its
sleeps, what was appended is what was taken out, in order, and what is still in the buffer; and the
broadcasts are the texts that were flushed, but for blank ones.

Main definitions:

* `LineScript.BufferEvent` — something is appended to the buffer, flushed or stashed;
* `LineScript.Session.Outputs` — what happened to the buffer accounts for two sessions;
* `LineScript.Invocation.left` — the session in which a step ends, before the lock is given back;
* `LineScript.Invocation.account` — **what happened to the buffer in a run that is resumed after every
  sleep**, what was emitted, and the session in the end.

Main results:

* `LineScript.Session.exec_outputs` — a statement does to the buffer what it says;
* `LineScript.Invocation.left_outputs`, `LineScript.Invocation.balances_account` — so does a step, and so
  does a run;
* `LineScript.Invocation.output_conserved` — **what was appended is what was taken out and what is left**.
-/

set_option autoImplicit false

namespace LineScript

/-! ### What happens to the buffer -/

/-- Something happens to the buffer. -/
inductive BufferEvent where
  /-- text is appended -/
  | appended (text : String)
  /-- the buffer is taken out to be broadcast -/
  | flushed (text : String)
  /-- the buffer is taken out to be kept in a variable -/
  | stashed (target : ScopedName) (text : String)
deriving DecidableEq

namespace BufferEvent

/-- All that was appended, in order. -/
def written : List BufferEvent → String
  | [] => ""
  | appended text :: es => text ++ written es
  | _ :: es => written es

/-- All that was taken out, in order. -/
def taken : List BufferEvent → String
  | [] => ""
  | appended _ :: es => taken es
  | flushed text :: es => text ++ taken es
  | stashed _ text :: es => text ++ taken es

/-- The texts that were flushed, in order. -/
def flushes : List BufferEvent → List String
  | [] => []
  | flushed text :: es => text :: flushes es
  | _ :: es => flushes es

/-- **The broadcasts that are due**: every text that was flushed, unless it is blank. -/
def broadcasts (script : String) (es : List BufferEvent) : List Broadcast :=
  ((flushes es).filter fun text => !Text.isBlank text).map (Broadcast.mk .flush script)

theorem written_append (es fs : List BufferEvent) : written (es ++ fs) = written es ++ written fs := by
  induction es with
  | nil => simp [written]
  | cons e es ih => cases e <;> simp [written, ih, String.append_assoc]

theorem taken_append (es fs : List BufferEvent) : taken (es ++ fs) = taken es ++ taken fs := by
  induction es with
  | nil => simp [taken]
  | cons e es ih => cases e <;> simp [taken, ih, String.append_assoc]

theorem flushes_append (es fs : List BufferEvent) : flushes (es ++ fs) = flushes es ++ flushes fs := by
  induction es with
  | nil => rfl
  | cons e es ih => cases e <;> simp [flushes, ih]

theorem broadcasts_append (script : String) (es fs : List BufferEvent) :
    broadcasts script (es ++ fs) = broadcasts script es ++ broadcasts script fs := by
  simp [broadcasts, flushes_append]

end BufferEvent

/-- The broadcasts of output among emissions, in order. -/
def Emission.outputs (es : List Emission) : List Broadcast :=
  es.filterMap fun
    | broadcast b => if b.level = .flush then some b else none
    | payload _ _ => none

theorem Emission.outputs_append (es fs : List Emission) :
    Emission.outputs (es ++ fs) = Emission.outputs es ++ Emission.outputs fs := List.filterMap_append

theorem Remark.level_ne_flush (r : Remark) : r.level ≠ .flush := by
  cases r <;> simp [Remark.level]

/-- **What happened to the buffer accounts for two contexts**, and for the output among what was emitted
in between. -/
structure Context.Accounts (c : Context) (es : List BufferEvent) (new : List Emission) (d : Context) :
    Prop where
  script : d.script = c.script
  buffer : c.buffer ++ BufferEvent.written es = BufferEvent.taken es ++ d.buffer
  outputs : Emission.outputs new = BufferEvent.broadcasts c.script es

open BufferEvent in
theorem Context.Accounts.trans {c d e : Context} {es fs : List BufferEvent}
    {new more : List Emission} (h : c.Accounts es new d) (h' : d.Accounts fs more e) :
    c.Accounts (es ++ fs) (new ++ more) e := by
  refine ⟨h'.script.trans h.script, ?_, ?_⟩
  · calc c.buffer ++ written (es ++ fs)
        = (c.buffer ++ written es) ++ written fs := by rw [written_append, String.append_assoc]
      _ = taken es ++ (d.buffer ++ written fs) := by rw [h.buffer, String.append_assoc]
      _ = taken (es ++ fs) ++ e.buffer := by rw [h'.buffer, taken_append, String.append_assoc]
  · rw [Emission.outputs_append, h.outputs, h'.outputs, h.script, broadcasts_append]

namespace Session

open BufferEvent

/-- What happened to the buffer accounts for two sessions, of which the second goes on from the first. -/
def Outputs (s : Session) (es : List BufferEvent) (t : Session) : Prop :=
  ∃ new, t.host.emitted = s.host.emitted ++ new ∧ s.context.Accounts es new t.context

/-- Nothing happened to the buffer if there is no output and all else is as it was. -/
theorem Outputs.of_quiet {s t : Session} {new : List Emission}
    (script : t.context.script = s.context.script) (buffer : t.context.buffer = s.context.buffer)
    (emitted : t.host.emitted = s.host.emitted ++ new) (quiet : Emission.outputs new = []) :
    s.Outputs [] t :=
  ⟨new, emitted, script, by simp [written, taken, buffer], quiet⟩

theorem Outputs.refl (s : Session) : s.Outputs [] s := .of_quiet rfl rfl (List.append_nil _).symm rfl

theorem Outputs.trans {s t u : Session} {es fs : List BufferEvent} (h : s.Outputs es t)
    (h' : t.Outputs fs u) : s.Outputs (es ++ fs) u := by
  obtain ⟨new, first, accounts⟩ := h
  obtain ⟨more, second, accounts'⟩ := h'
  exact ⟨new ++ more, by rw [second, first, List.append_assoc], accounts.trans accounts'⟩

theorem outputs_remark (s : Session) (r : Remark) : s.Outputs [] (s.remark r) := by
  refine .of_quiet rfl rfl rfl ?_
  simp [Emission.outputs, Remark.level_ne_flush]

/-- Changes that leave the buffer alone are quiet. -/
theorem Changes.outputs {p : Permit} {s t : Session} (h : Changes p s t) (silent : ¬ p.output) :
    s.Outputs [] t := by
  induction h with
  | refl => exact .refl s
  | @touch t _ key _ ih =>
      have read : t.Outputs [] (t.setValues (t.values.touch key)) :=
        .of_quiet rfl rfl (List.append_nil _).symm rfl
      exact ih.trans read
  | @set t _ key _ v ih =>
      have written : t.Outputs [] (t.setValues (t.values.set key v)) :=
        .of_quiet rfl rfl (List.append_nil _).symm rfl
      exact ih.trans written
  | @remark t _ r ih => exact ih.trans (outputs_remark t r)
  | @hand t _ payload ih =>
      have handed : t.Outputs [] (t.emit (.payload t.context.script payload)) :=
        .of_quiet rfl rfl rfl rfl
      exact ih.trans handed
  | output _ may => exact absurd may silent
  | @rest t u _ same ih =>
      simp only [visible, Prod.mk.injEq] at same
      obtain ⟨script, _, buffer, emitted⟩ := same
      have still : t.Outputs [] u := .of_quiet script buffer (by rw [emitted, List.append_nil]) rfl
      exact ih.trans still

/-! ### Statements -/

/-- **What a statement does to the buffer.**  An `end` broadcasts it as a `flush` does. -/
def bufferEvents (s : Session) : Statement → List BufferEvent
  | .write text => [.appended text]
  | .print o => [.appended (s.value o).text]
  | .stash target => [.stashed target s.context.buffer]
  | .flush | .finish => [.flushed s.context.buffer]
  | _ => []

theorem outputs_flush (s : Session) : s.Outputs [.flushed s.context.buffer] s.flush := by
  unfold flush
  simp only
  split
  · rename_i blank
    refine ⟨[], (List.append_nil _).symm, rfl, ?_, ?_⟩
    · simp [written, taken, clearBuffer]
    · simp [Emission.outputs, broadcasts, flushes, blank]
  · rename_i spoken
    refine ⟨_, rfl, rfl, ?_, ?_⟩
    · simp [written, taken, clearBuffer, broadcast, emit]
    · simp [Emission.outputs, broadcasts, flushes, spoken, clearBuffer]

/-- **A statement does to the buffer what it says.** -/
theorem exec_outputs (s : Session) {st : Statement} (ends : st ≠ .finish) :
    s.Outputs (s.bufferEvents st) (s.exec st).2 := by
  have appends : ∀ (t : Session) (text : String), t.Outputs [.appended text] (t.write text) :=
    fun t text => ⟨[], (List.append_nil _).symm, rfl, by simp [written, taken, Session.write], rfl⟩
  cases st with
  | write text => exact appends s text
  | print o =>
      have read : s.Outputs [] (s.touch o) := .of_quiet rfl rfl (List.append_nil _).symm rfl
      exact read.trans (appends (s.touch o) (s.value o).text)
  | stash target =>
      refine ⟨[], (List.append_nil _).symm, rfl, ?_, rfl⟩
      simp [bufferEvents, written, taken, exec, assign, setValues, clearBuffer]
  | flush => exact outputs_flush s
  | finish => exact absurd rfl ends
  | drop name => exact .of_quiet rfl rfl (List.append_nil _).symm rfl
  | _ => exact (exec_changes s (by simp)).outputs (by simp [permit, Statement.isOutput])

/-- Only an `end` ends a run. -/
theorem exec_eq_exit {s t : Session} {st : Statement} (h : s.exec st = (.exit, t)) : st = .finish := by
  cases st with
  | finish => rfl
  | jump label condition =>
      cases condition with
      | none => simp [exec, execJump] at h
      | some o =>
          simp only [exec, execJump, Prod.mk.injEq] at h
          split at h <;> simp at h
  | leap labels =>
      simp only [exec, execLeap] at h
      split at h
      · simp at h
      · split at h <;> simp at h
  | sleep o =>
      simp only [exec, execSleep, Prod.mk.injEq] at h
      split at h <;> simp at h
  | list st =>
      simp only [exec, Prod.mk.injEq] at h
      split at h <;> simp at h
  | _ => simp [exec] at h

/-- **A session and how a run ended there tell the same**: it is where the run was left or suspended, or
the run is complete with its values, the lock is given back, and after an `end` the buffer is empty. -/
inductive EndsAs (t : Session) : Outcome → Host → Prop
  | unfinished {i : Invocation} (context : i.context = t.context) : EndsAs t (.unfinished i) t.host
  | suspended {s : Suspension} (context : s.invocation.context = t.context) :
      EndsAs t (.suspended s) t.host
  | completed {τ : Termination} (ended : τ = .ended → t.context.buffer = "") :
      EndsAs t (.completed τ t.values) t.releaseLock.host

theorem EndsAs.emitted {t : Session} {o : Outcome} {g : Host} (h : t.EndsAs o g) :
    g.emitted = t.host.emitted := by
  cases h with
  | unfinished _ => rfl
  | suspended _ => rfl
  | completed _ => exact releaseLock_emitted t

theorem flush_buffer (s : Session) : s.flush.context.buffer = "" := by
  unfold flush
  dsimp only
  split <;> rfl

end Session

/-! ### Steps -/

namespace Invocation

open BufferEvent

/-- The session a statement leaves when the run goes on as it said. -/
def leftBy (i : Invocation) (s : Session) : Flow → Session
  | .next => s
  | .exit => s.flush
  | .jump label => if i.script.labels.contains label then s else s.remark (.unknownLabel label)
  | .delay seconds => ⟨s.context, hostAsleep seconds s⟩
  | .breakdown => s

/-- **The session in which a step ends**, before the lock is given back if the run is complete. -/
def left (i : Invocation) (h : Host) : Session :=
  match i.script.statements[i.cursor]? with
  | none => (i.session h).remark (.pastLast i.cursor)
  | some st =>
    match i.spentBudget? with
    | some budget => (i.session h).remark (.overBudget budget)
    | none => i.leftBy ((i.session h).exec st).2 ((i.session h).exec st).1

/-- What a step does to the buffer. -/
def bufferEvents (i : Invocation) (h : Host) : List BufferEvent :=
  match i.ready? with
  | none => []
  | some st => (i.session h).bufferEvents st

theorem left_of_ready {i : Invocation} {st : Statement} (ready : i.ready? = some st) (h : Host) :
    i.left h = i.leftBy ((i.session h).exec st).2 ((i.session h).exec st).1 := by
  obtain ⟨budget, hat⟩ := ready?_eq_some.1 ready
  simp only [left, hat, budget]

theorem bufferEvents_of_ready {i : Invocation} {st : Statement} (ready : i.ready? = some st)
    (h : Host) : i.bufferEvents h = (i.session h).bufferEvents st := by
  simp only [bufferEvents, ready]

/-- The session in which a step ends tells how it ended. -/
theorem Moves.endsAs {i : Invocation} {h g : Host} {p : Progress} (m : i.Moves h p g) :
    (i.left h).EndsAs p.outcome g := by
  cases m with
  | pastLast out =>
      have left : i.left h = (i.session h).remark (.pastLast i.cursor) := by simp only [left, out]
      rw [left]
      exact .completed (by simp)
  | @overBudget st budget hat spent =>
      have left : i.left h = (i.session h).remark (.overBudget budget) := by
        simp only [left, hat, spent]
      rw [left]
      exact .completed (by simp)
  | next ready exec =>
      rw [left_of_ready ready, exec]
      exact .unfinished rfl
  | @ended st s ready exec =>
      rw [left_of_ready ready, exec]
      exact .completed fun _ => s.flush_buffer
  | jumps ready exec found =>
      rw [left_of_ready ready, exec, leftBy, if_pos (by simp [KeyMap.contains, found])]
      exact .unfinished rfl
  | missingLabel ready exec missing =>
      rw [left_of_ready ready, exec, leftBy, if_neg (by simp [KeyMap.contains, missing])]
      exact .completed (by simp)
  | sleeps ready exec pos =>
      rw [left_of_ready ready, exec]
      exact .suspended rfl
  | breaks ready exec =>
      rw [left_of_ready ready, exec]
      exact .completed (by simp)

/-- Going on after a statement is quiet, unless it ends the run. -/
theorem leftBy_outputs (i : Invocation) (s : Session) {flow : Flow} (goes : flow ≠ .exit) :
    s.Outputs [] (i.leftBy s flow) := by
  cases flow with
  | next => exact .refl s
  | exit => exact absurd rfl goes
  | jump label =>
      simp only [leftBy]
      split
      · exact .refl s
      · exact s.outputs_remark _
  | delay n =>
      simp only [leftBy, hostAsleep]
      split
      · exact s.outputs_remark _
      · exact .refl s
  | breakdown => exact .refl s

/-- **A step does to the buffer what its statement says**, and without a statement nothing. -/
theorem left_outputs (i : Invocation) (h : Host) :
    (i.session h).Outputs (i.bufferEvents h) (i.left h) := by
  cases ready : i.ready? with
  | none =>
      have hnone : i.bufferEvents h = [] := by simp only [bufferEvents, ready]
      rw [hnone]
      unfold left
      split
      · exact (i.session h).outputs_remark _
      · split
        · exact (i.session h).outputs_remark _
        · rename_i hat _ budget
          rw [ready?_eq_some.2 ⟨budget, hat⟩] at ready
          cases ready
  | some st =>
      rw [left_of_ready ready, bufferEvents_of_ready ready]
      by_cases ends : st = .finish
      · subst ends
        exact (i.session h).outputs_flush
      · have does := (i.session h).exec_outputs ends
        have goes : ((i.session h).exec st).1 ≠ .exit := by
          intro exit
          exact ends (Session.exec_eq_exit (Prod.ext exit rfl))
        simpa using does.trans (i.leftBy_outputs _ goes)

/-- Where a step goes on, it does so in the session in which it ended. -/
theorem session_of_goesOn {i j : Invocation} {h g : Host} (hs : i.step h = (.goesOn j, g)) :
    j.session g = i.left h := by
  have ends : (i.left h).EndsAs (.unfinished j) g := (Moves.of_step hs).endsAs
  cases ends with
  | unfinished context => rw [session, context]

/-! ### Runs -/

/-- What happens to the buffer in a run. -/
def bufferLog : Nat → Invocation → Host → List BufferEvent
  | 0, _, _ => []
  | fuel + 1, i, h =>
    i.bufferEvents h ++
      match i.step h with
      | (.goesOn j, g) => bufferLog fuel j g
      | (.stops _, _) => []

/-- The session in which a run ends, before the lock is given back if it is complete. -/
def leftAfter : Nat → Invocation → Host → Session
  | 0, i, h => i.session h
  | fuel + 1, i, h =>
    match i.step h with
    | (.goesOn j, g) => leftAfter fuel j g
    | (.stops _, _) => i.left h

/-- **A run does to the buffer what its statements say.** -/
theorem leftAfter_outputs (fuel : Nat) (i : Invocation) (h : Host) :
    (i.session h).Outputs (i.bufferLog fuel h) (i.leftAfter fuel h) := by
  induction fuel generalizing i h with
  | zero => exact .refl _
  | succ fuel ih =>
      have first := i.left_outputs h
      rcases hs : i.step h with ⟨p, g⟩
      cases p with
      | goesOn j =>
          rw [← session_of_goesOn hs] at first
          simp only [bufferLog, leftAfter, hs]
          exact first.trans (ih j g)
      | stops o =>
          simp only [bufferLog, leftAfter, hs, List.append_nil]
          exact first

theorem leftAfter_endsAs (fuel : Nat) (i : Invocation) (h : Host) :
    (i.leftAfter fuel h).EndsAs (i.run fuel h).1 (i.run fuel h).2 := by
  induction fuel generalizing i h with
  | zero => exact .unfinished rfl
  | succ fuel ih =>
      rcases hs : i.step h with ⟨p, g⟩
      cases p with
      | goesOn j =>
          rw [run_of_goesOn hs]
          simp only [leftAfter, hs]
          exact ih j g
      | stops o =>
          rw [run_of_stops hs]
          simp only [leftAfter, hs]
          exact (Moves.of_step hs).endsAs

end Invocation

/-! ### Runs that are resumed -/

/-- **What is on record of a run**: what happened to the buffer, what was emitted, and the session in
which it ended. -/
structure Account where
  events : List BufferEvent
  emissions : List Emission
  session : Session

/-- What is on record of a run that is resumed. -/
def Account.andThen (a b : Account) : Account :=
  ⟨a.events ++ b.events, a.emissions ++ b.emissions, b.session⟩

/-- An account balances, from a context on, if what happened to the buffer accounts for the rest. -/
def Account.Balances (a : Account) (c : Context) : Prop :=
  c.Accounts a.events a.emissions a.session.context

namespace Invocation

open BufferEvent

/-- What is on record of a single run.  What it emitted is what the host was not shown before. -/
def accountOf (fuel : Nat) (i : Invocation) (h : Host) : Account where
  events := i.bufferLog fuel h
  emissions := (i.run fuel h).2.emitted.drop h.emitted.length
  session := i.leftAfter fuel h

/-- **What is on record of a run that is resumed after every sleep**, as long as there are turns. -/
def account : List Turn → Nat → Invocation → Host → Account
  | [], fuel, i, h => i.accountOf fuel h
  | turn :: turns, fuel, i, h =>
    match i.run fuel h with
    | (.suspended s, g) =>
      (i.accountOf fuel h).andThen (account turns turn.fuel s.invocation (turn.meanwhile g))
    | _ => i.accountOf fuel h

theorem account_last (turns : List Turn) (fuel : Nat) (i : Invocation) (h : Host)
    (last : turns = [] ∨ ∀ s, (i.run fuel h).1 ≠ .suspended s) :
    i.account turns fuel h = i.accountOf fuel h := by
  cases turns with
  | nil => rfl
  | cons turn turns =>
      rcases hr : i.run fuel h with ⟨o, g⟩
      rw [hr] at last
      cases o with
      | suspended s => exact absurd rfl (last.resolve_left (by simp) s)
      | completed t values => simp only [account, hr]
      | unfinished j => simp only [account, hr]

theorem account_of_suspended {fuel : Nat} {i : Invocation} {s : Suspension} {h g : Host}
    (hr : i.run fuel h = (.suspended s, g)) (turn : Turn) (turns : List Turn) :
    i.account (turn :: turns) fuel h = (i.accountOf fuel h).andThen
      (s.invocation.account turns turn.fuel (turn.meanwhile g)) := by
  simp only [account, hr]

/-- **The account of a single run balances**, and has all that it emitted. -/
theorem balances_accountOf (fuel : Nat) (i : Invocation) (h : Host) :
    (i.accountOf fuel h).Balances i.context ∧
      (i.run fuel h).2.emitted = h.emitted ++ (i.accountOf fuel h).emissions := by
  obtain ⟨new, emitted, accounts⟩ := i.leftAfter_outputs fuel h
  have shown : (i.run fuel h).2.emitted = h.emitted ++ new :=
    (i.leftAfter_endsAs fuel h).emitted.trans emitted
  have all : (i.accountOf fuel h).emissions = new := by simp [accountOf, shown]
  refine ⟨?_, by rw [shown, all]⟩
  rw [Account.Balances, all]
  exact accounts

/-- **The account of a run that is resumed balances**, and its session is where the last stage ended. -/
theorem balances_account (turns : List Turn) (fuel : Nat) (i : Invocation) (h : Host) :
    (i.account turns fuel h).Balances i.context ∧
      ∃ o g, (Outcome.stages turns (i.run fuel h)).getLast? = some (o, g) ∧
        (i.account turns fuel h).session.EndsAs o g := by
  induction turns, fuel, i, h using chain_induction with
  | last turns fuel i h last =>
      rw [account_last turns fuel i h last, (chain_last turns fuel i h last).2]
      exact ⟨(i.balances_accountOf fuel h).1, _, _, rfl, i.leftAfter_endsAs fuel h⟩
  | resumed turn turns fuel i h s g hr ih =>
      obtain ⟨balances, o, f, last, ends⟩ := ih
      have first := (i.balances_accountOf fuel h).1
      -- the run is resumed in the context in which it was left
      have same : s.invocation.context = (i.leftAfter fuel h).context := by
        have paused := i.leftAfter_endsAs fuel h
        rw [hr] at paused
        cases paused with
        | suspended context => exact context
      rw [account_of_suspended hr, stages_of_suspended hr]
      refine ⟨first.trans (same ▸ balances), o, f, ?_, ends⟩
      rw [List.getLast?_cons, last]
      rfl

theorem start_context {script : Script} {inputs : Inputs} {arguments : String} {h g : Host}
    {i : Invocation} (started : start script inputs arguments h = (.ok i, g)) :
    i.context.script = script.name ∧ i.context.buffer = "" := by
  unfold start at started
  dsimp only at started
  split at started
  · obtain ⟨rfl, _⟩ : _ = i ∧ h = g := by simpa using started
    exact ⟨rfl, rfl⟩
  · obtain ⟨rfl, _⟩ : _ = i ∧ _ = g := by simpa using started
    exact ⟨rfl, rfl⟩
  · simp at started

/-- **Output is neither lost, doubled nor reordered**, over all sleeps.  What was appended to the buffer
is what was taken out of it, in order, followed by what is in it still.  What a `flush` or the `end`
took out was broadcast once, unless blank, and no other output was; what a `stash` took out is the value
of its target. -/
theorem output_conserved {script : Script} {inputs : Inputs} {arguments : String} {h₀ h₁ : Host}
    {i : Invocation} (started : start script inputs arguments h₀ = (.ok i, h₁)) (turns : List Turn)
    (fuel : Nat) (h : Host) :
    let a := i.account turns fuel h
    written a.events = taken a.events ++ a.session.context.buffer ∧
    Emission.outputs a.emissions = broadcasts script.name a.events ∧
    (∃ o g, (Outcome.stages turns (i.run fuel h)).getLast? = some (o, g) ∧ a.session.EndsAs o g) ∧
    (∀ (j : Invocation) (n : Nat) (g : Host),
      (j.run n g).2.emitted = g.emitted ++ (j.accountOf n g).emissions) ∧
    ∀ (j : Invocation) (g : Host) (target : ScopedName), j.ready? = some (.stash target) →
      ∃ k, j.step g = (.goesOn k, g) ∧
        j.bufferEvents g = [.stashed target j.context.buffer] ∧
        k.context.values.get? target.key = some (.ofText j.context.buffer) ∧
        k.context.buffer = "" := by
  intro a
  obtain ⟨name, empty⟩ := start_context started
  obtain ⟨balances, stage⟩ := i.balances_account turns fuel h
  refine ⟨?_, ?_, stage, fun j n g => (j.balances_accountOf n g).2, ?_⟩
  · have buffer := balances.buffer
    rwa [empty, String.empty_append] at buffer
  · rw [← name]
    exact balances.outputs
  · intro j g target ready
    refine ⟨_, step_of_ready ready g, bufferEvents_of_ready ready g, ?_, rfl⟩
    exact KeyMap.get?_insert_self _ _ _

/-- A script that keeps some of its output over a sleep, and broadcasts the rest. -/
def echoing : Script :=
  { name := "echo"
    statements := #[
      .write "hey",
      .stash (.plain .script "kept"),
      .write "ho ",
      .sleep (.constant (.ofNumber 1)),
      .print (.named (.plain .script "kept")),
      .flush,
      .write " ",
      .finish] }

/-- The run of this script. -/
def echo : Invocation := { script := echoing, context := .ofInputs "echo" {} }

/-- Its buffer is stashed, broadcast after the sleep, and dropped when it is blank in the end. -/
theorem output_conserved_echo :
    let a := echo.account [⟨id, 9⟩] 9 {}
    start echoing {} "" {} = (.ok echo, {}) ∧
      a.events = [.appended "hey", .stashed (.plain .script "kept") "hey", .appended "ho ",
        .appended "hey", .flushed "ho hey", .appended " ", .flushed " "] ∧
      a.session.context.buffer = "" ∧
      Emission.outputs a.emissions = [⟨.flush, "echo", "ho hey"⟩] := by
  have started : start echoing {} "" {} = (.ok echo, {}) := rfl
  have events : (echo.account [⟨id, 9⟩] 9 {}).events =
      [.appended "hey", .stashed (.plain .script "kept") "hey", .appended "ho ", .appended "hey",
        .flushed "ho hey", .appended " ", .flushed " "] := by decide +kernel
  obtain ⟨conserved, outputs, _⟩ := output_conserved started [⟨id, 9⟩] 9 {}
  rw [events] at conserved outputs
  refine ⟨started, events, ?_, outputs.trans (by decide +kernel)⟩
  have left : "heyho hey " ++ "" =
      "heyho hey " ++ (echo.account [⟨id, 9⟩] 9 {}).session.context.buffer := by
    simpa [written, taken] using conserved
  exact ((String.append_right_inj _).1 left).symm

end Invocation

end LineScript
