import Mathlib.Data.List.Nodup
import LineScript.Proofs.Filing

/-!
**The books of a scheduler.**

Jobs come into the table and go out of it by six operations, and one of them empties the table of all
that is due and fills it again while it executes scripts.  This module keeps books: which ids have been
handed out, which are done with, and when a job was last filed.  The books are kept from the outside, by
what is returned and by comparing the table before and after.  Every operation keeps them in order, so
they are in order after any number of operations at any times, with any hosts.

A run that is cut short, since it is given no more statements to execute, counts as reported.  An operation
may break down, where a script does or where what is to be filed lies beyond the span of the clock; what was
due then is lost as far as it has not been filed again, and the books say so.

Main definitions:

* `LineScript.Scheduler.Op` — **one thing that a host does with the scheduler**;
* `LineScript.Scheduler.Op.issues`, `LineScript.Scheduler.Op.retires`, `LineScript.Scheduler.Op.loses` — the
  ids that it hands out, those that are done with, and those it loses when it breaks down;
* `LineScript.Ledger` — the scheduler and its books;
* `LineScript.Ledger.Sound` — the books are in order;
* `LineScript.Ledger.Call`, `LineScript.Ledger.Breakdown` — what a call does that executes all that is due,
  and one that breaks down on the way.

Main results:

* `LineScript.Scheduler.Op.accounts` — the ids before and after an operation;
* `LineScript.Scheduler.Op.held_or_filed` — a job that is held was held before or is filed now;
* `LineScript.Ledger.Sound.after` — every operation keeps the books in order;
* `LineScript.Ledger.jobs_accounted` — **every job is accounted for, and none is there twice**.
-/

set_option autoImplicit false

namespace LineScript

/-! ### Operations -/

namespace Scheduler

/-- The ids under which jobs are held. -/
def ids (c : Scheduler) : List Nat := c.entries.map Entry.id

theorem mem_ids {c : Scheduler} {e : Entry} (he : e ∈ c.entries) : e.id ∈ c.ids :=
  List.mem_map_of_mem he

/-- Is this the id of a run that sleeps? -/
def holdsRun (c : Scheduler) (id : Nat) : Bool := c.entries.any fun e => e.id == id && e.job.isRun

/-- Is the job of this id due? -/
def isDue (c : Scheduler) (now : Instant) (id : Nat) : Bool :=
  c.entries.any fun e => e.id == id && decide (e.due ≤ now)

/-- **One thing that a host does with the scheduler**, with all that it depends on. -/
inductive Op where
  | addSuspension (s : Suspension) (now : Instant)
  | addPeriodic (script : Script) (inputs : Inputs) (now : Instant)
  | cancel (id : Nat) (h : Host)
  | cancelAll (h : Host)
  | takeReady (now : Instant)
  | runReady (fuel : Nat) (h : Host) (now : Instant)

/-- The id under which a script is held that is run at intervals. -/
def Registration.id? : Registration → Option Nat
  | held id => some id
  | _ => none

namespace Op

/-- The scheduler afterwards. -/
def apply (c : Scheduler) : Op → Scheduler
  | addSuspension s now => (c.addSuspension s now).2
  | addPeriodic script inputs now => (c.addPeriodic script inputs now).2
  | cancel id h => ((c.cancel id h).map (·.1)).getD c
  | cancelAll h => (c.cancelAll h).1
  | takeReady now => (c.takeReady now).2
  | runReady fuel h now => (c.runReady fuel h now).2.1

/-- Does it break down? -/
def breaks (c : Scheduler) : Op → Bool
  | addSuspension s now => (c.addSuspension s now).1.isNone
  | addPeriodic script inputs now => (c.addPeriodic script inputs now).1 = .brokeDown
  | runReady fuel h now => (c.runReady fuel h now).1.isNone
  | _ => false

/-- The ids that are handed out: those that are returned, and after execution those that were not
there before. -/
def issues (c : Scheduler) : Op → List Nat
  | addSuspension s now => (c.addSuspension s now).1.toList
  | addPeriodic script inputs now => (c.addPeriodic script inputs now).1.id?.toList
  | runReady fuel h now => (c.runReady fuel h now).2.1.ids.filter fun id => !c.ids.contains id
  | _ => []

/-- The ids whose jobs are cancelled, taken out, or, of runs that sleep, reported. -/
def retires (c : Scheduler) : Op → List Nat
  | cancel id h => if (c.cancel id h).isSome then [id] else []
  | cancelAll _ => c.ids
  | takeReady now => (c.takeReady now).1.map Entry.id
  | runReady fuel h now => (((c.runReady fuel h now).1.getD []).map Prod.fst).filter c.holdsRun
  | _ => []

/-- The ids whose jobs are lost: they are held no more once an operation has broken down. -/
def loses (c : Scheduler) (op : Op) : List Nat :=
  if op.breaks c then c.ids.filter fun id => !(op.apply c).ids.contains id else []

/-- What time it is, if that matters. -/
def now? : Op → Option Instant
  | addSuspension _ now => some now
  | addPeriodic _ _ now => some now
  | takeReady now => some now
  | runReady _ _ now => some now
  | _ => none

/-- Is the job of this id filed now?  It is held afterwards, and was not before or has been executed. -/
def files (c : Scheduler) (op : Op) (id : Nat) : Bool :=
  (op.apply c).ids.contains id &&
    (!c.ids.contains id ||
      match op with
      | runReady _ _ now => c.isDue now id
      | _ => false)

end Op

/-! ### Numbers -/

/-- The ids are distinct and have all been handed out. -/
structure Numbered (c : Scheduler) : Prop where
  nodup : c.ids.Nodup
  lt : ∀ id ∈ c.ids, id < c.nextId

/-- The ids before and after something was done, with those that were handed out and those that are
gone. -/
structure Accounts (c c' : Scheduler) (issued gone : List Nat) : Prop where
  increasing : issued.Pairwise (· < ·)
  new : ∀ id ∈ issued, c.nextId ≤ id ∧ id < c'.nextId
  nextId : c.nextId ≤ c'.nextId
  perm : (c'.ids ++ gone).Perm (c.ids ++ issued)

theorem Numbered.eq_of_id {c : Scheduler} (num : c.Numbered) {d e : Entry} (hd : d ∈ c.entries)
    (he : e ∈ c.entries) (same : d.id = e.id) : d = e :=
  List.inj_on_of_nodup_map num.nodup hd he same

/-- What is asked of the job of an id is asked of the one job that has it. -/
theorem Numbered.any_id {c : Scheduler} (num : c.Numbered) {e : Entry} (he : e ∈ c.entries)
    (p : Entry → Bool) : (c.entries.any fun d => d.id == e.id && p d) = p e := by
  rw [Bool.eq_iff_iff, List.any_eq_true]
  constructor
  · rintro ⟨d, hd, both⟩
    simp only [Bool.and_eq_true, beq_iff_eq] at both
    rw [← num.eq_of_id hd he both.1]
    exact both.2
  · exact fun holds => ⟨e, he, by simp [holds]⟩

theorem Numbered.holdsRun_eq {c : Scheduler} (num : c.Numbered) {e : Entry} (he : e ∈ c.entries) :
    c.holdsRun e.id = e.job.isRun := num.any_id he fun d => d.job.isRun

theorem Numbered.isDue_eq {c : Scheduler} (num : c.Numbered) {now : Instant} {e : Entry}
    (he : e ∈ c.entries) : c.isDue now e.id = decide (e.due ≤ now) :=
  num.any_id he fun d => decide (d.due ≤ now)

end Scheduler

/-! ### What is filed -/

/-- The ids of the runs that were resumed and are reported. -/
def retiredOf (log : List (Entry × Upshot)) : List Nat :=
  log.flatMap fun x => if x.1.job.isRun then (x.2.report x.1.id).map Prod.fst else []

theorem reports_filter {p : Nat → Bool} {log : List (Entry × Upshot)}
    (hp : ∀ x ∈ log, p x.1.id = x.1.job.isRun) :
    ((reports log).map Prod.fst).filter p = retiredOf log := by
  induction log with
  | nil => rfl
  | cons x log ih =>
      obtain ⟨e, u⟩ := x
      have mine : p e.id = e.job.isRun := hp (e, u) (by simp)
      rw [reports_cons, List.map_append, List.filter_append, ih fun x hx => hp x (by simp [hx])]
      congr 1
      cases u <;> cases hj : e.job.isRun <;> simp [Upshot.report, mine, hj]

theorem files_perm {now : Instant} {n : Nat} {e : Entry} {u : Upshot} {new : List Entry}
    (files : e.files? now n u = some new) (started : e.job.isRun = true → u ≠ .unbound) :
    (new.map Entry.id ++ if e.job.isRun then (u.report e.id).map Prod.fst else []).Perm
      (e.id :: List.range' n (e.mints u)) := by
  obtain ⟨again, still, parked⟩ := Entry.files?_eq_some files
  rcases Entry.again?_eq_some still with ⟨run, rfl⟩ | ⟨script, due, _, rfl⟩
  · rcases parked with ⟨awake, rfl⟩ | ⟨s, due, rfl, _, rfl⟩
    · cases u with
      | reported o => simp [run, Upshot.report, Entry.mints]
      | sleeps s => cases awake
      | unbound => exact absurd rfl (started run)
    · simp [run, Upshot.report, Entry.mints, Suspension.entry, Entry.runId]
  · rcases parked with ⟨awake, rfl⟩ | ⟨s, due, rfl, _, rfl⟩
    · cases u with
      | sleeps s => cases awake
      | _ => simp [script, Entry.mints]
    · simp only [script, Entry.mints, Suspension.entry, Entry.runId]
      exact .swap ..

/-- **What is filed has the ids of what was executed**, but for the runs that are reported, and as many
new ones as it takes. -/
theorem filed_perm {now : Instant} {n : Nat} {log : List (Entry × Upshot)} {new : List Entry}
    (filed : filed? now n log = some new) (started : ∀ x ∈ log, x.1.job.isRun = true → x.2 ≠ .unbound) :
    (new.map Entry.id ++ retiredOf log).Perm
      (log.map (fun x => x.1.id) ++ List.range' n (minted log)) := by
  induction log generalizing n new with
  | nil =>
      cases filed
      exact .rfl
  | cons x log ih =>
      obtain ⟨e, u⟩ := x
      obtain ⟨front, back, files, later, rfl⟩ := filed?_cons filed
      have rest := ih later fun x hx => started x (by simp [hx])
      have first := files_perm files (started (e, u) (by simp))
      simp only [List.map_append, retiredOf, List.flatMap_cons, List.map_cons, minted_cons,
        ← List.range'_append_1]
      refine List.perm_iff_count.2 fun id => ?_
      have here := first.count_eq id
      have there := rest.count_eq id
      simp only [List.count_append, List.count_cons, retiredOf] at here there ⊢
      omega

theorem files_new {now : Instant} {n : Nat} {p : Nat → Bool} {e : Entry} {u : Upshot} {new : List Entry}
    (files : e.files? now n u = some new) (old : p e.id = false) (fresh : p n = true) :
    (new.map Entry.id).filter p = List.range' n (e.mints u) := by
  obtain ⟨again, still, parked⟩ := Entry.files?_eq_some files
  have hnone : (again.map Entry.id).filter p = [] := by
    rcases Entry.again?_eq_some still with ⟨_, rfl⟩ | ⟨_, due, _, rfl⟩ <;> simp [old]
  rcases parked with ⟨awake, rfl⟩ | ⟨s, due, rfl, _, rfl⟩
  · rw [hnone]
    cases u <;> first | rfl | cases awake
  · rw [List.map_cons, List.filter_cons, hnone]
    cases run : e.job.isRun <;> simp [Suspension.entry, Entry.runId, Entry.mints, run, old, fresh]

/-- The new ones are the next. -/
theorem filed_new {now : Instant} {n : Nat} {p : Nat → Bool} {log : List (Entry × Upshot)} {new : List Entry}
    (filed : filed? now n log = some new) (old : ∀ x ∈ log, p x.1.id = false)
    (fresh : ∀ id, n ≤ id → p id = true) :
    (new.map Entry.id).filter p = List.range' n (minted log) := by
  induction log generalizing n new with
  | nil =>
      cases filed
      rfl
  | cons x log ih =>
      obtain ⟨e, u⟩ := x
      obtain ⟨front, back, files, later, rfl⟩ := filed?_cons filed
      have rest := ih later (fun x hx => old x (by simp [hx])) fun id hid => fresh id (by omega)
      simp only [List.map_append, List.filter_append, minted_cons]
      rw [files_new files (old (e, u) (by simp)) (fresh n (by omega)), rest, List.range'_append_1]

/-- What is filed of each job is filed. -/
theorem files_of_mem {now : Instant} {n : Nat} {log : List (Entry × Upshot)} {new : List Entry} {e : Entry}
    {u : Upshot} (filed : filed? now n log = some new) (mem : (e, u) ∈ log) :
    ∃ m own, n ≤ m ∧ m + e.mints u ≤ n + minted log ∧ e.files? now m u = some own ∧ own ⊆ new := by
  induction log generalizing n new with
  | nil => cases mem
  | cons x log ih =>
      obtain ⟨e', u'⟩ := x
      obtain ⟨front, back, files, later, rfl⟩ := filed?_cons filed
      rcases List.mem_cons.1 mem with same | mem
      · cases same
        exact ⟨n, front, Nat.le_refl n, by simp, files, List.subset_append_left ..⟩
      · obtain ⟨m, own, least, most, files, all⟩ := ih later mem
        refine ⟨m, own, by omega, by rw [minted_cons]; omega, files, ?_⟩
        exact fun d mem => List.mem_append_right _ (all mem)

/-- The new ids are those of the runs that sleep and were not resumed. -/
theorem minted_eq (log : List (Entry × Upshot)) :
    minted log = log.countP fun x => !x.1.job.isRun && x.2.isSleep := by
  induction log with
  | nil => rfl
  | cons x log ih =>
      obtain ⟨e, u⟩ := x
      rw [minted_cons, List.countP_cons, ih, Nat.add_comm]
      cases hj : e.job.isRun <;> cases u <;> simp [Entry.mints, hj, Upshot.isSleep]

theorem Executes.started {fuel : Nat} {h g : Host} {log : List (Entry × Upshot)}
    (executes : Executes fuel h log g) : ∀ x ∈ log, x.1.job.isRun = true → x.2 ≠ .unbound := by
  induction executes with
  | nil h => simp
  | @cons h g f e u log first rest ih =>
      intro x hx run
      rcases List.mem_cons.1 hx with rfl | hx
      · exact Job.ne_unbound_of_isRun run first
      · exact ih x hx run

/-- What is filed of a job is its run, which sleeps from now on, or the script itself. -/
theorem mem_files {now : Instant} {n : Nat} {e d : Entry} {u : Upshot} {new : List Entry}
    (files : e.files? now n u = some new) (mem : d ∈ new) :
    (d.id = n ∨ d.id = e.id) ∧ ∀ s, d.job = .resume s → now.after? s.delay = some d.due := by
  obtain ⟨again, still, parked⟩ := Entry.files?_eq_some files
  have script : d ∈ again → (d.id = n ∨ d.id = e.id) ∧
      ∀ s, d.job = .resume s → now.after? s.delay = some d.due := by
    intro mem
    rcases Entry.again?_eq_some still with ⟨_, rfl⟩ | ⟨script, due, _, rfl⟩
    · cases mem
    · obtain rfl := List.mem_singleton.1 mem
      refine ⟨.inr rfl, fun s job => ?_⟩
      have run : e.job.isRun = true := by
        rw [show e.job = .resume s from job]
        rfl
      rw [script] at run
      cases run
  rcases parked with ⟨_, rfl⟩ | ⟨s, due, rfl, later, rfl⟩
  · exact script mem
  · rcases List.mem_cons.1 mem with rfl | mem
    · refine ⟨?_, fun r job => ?_⟩
      · cases run : e.job.isRun <;> simp [Suspension.entry, Entry.runId, run]
      · cases job
        exact later
    · exact script mem

/-- What is filed is a run that sleeps, from now on, or a script that is run at intervals, which has
just been started. -/
theorem mem_filed {now : Instant} {n : Nat} {log : List (Entry × Upshot)} {new : List Entry} {e : Entry}
    (filed : filed? now n log = some new) (he : e ∈ new) :
    (n ≤ e.id ∨ ∃ x ∈ log, x.1.id = e.id) ∧ ∀ s, e.job = .resume s → now.after? s.delay = some e.due := by
  induction log generalizing n new with
  | nil =>
      cases filed
      cases he
  | cons x log ih =>
      obtain ⟨d, u⟩ := x
      obtain ⟨front, back, files, later, rfl⟩ := filed?_cons filed
      rcases List.mem_append.1 he with he | he
      · obtain ⟨known, due⟩ := mem_files files he
        refine ⟨?_, due⟩
        rcases known with new | same
        · exact .inl (Nat.le_of_eq new.symm)
        · exact .inr ⟨(d, u), by simp, same.symm⟩
      · obtain ⟨known, due⟩ := ih later he
        refine ⟨?_, due⟩
        rcases known with new | ⟨x, hx, same⟩
        · exact .inl (by omega)
        · exact .inr ⟨x, by simp [hx], same⟩

namespace Scheduler

variable {c : Scheduler}

theorem cancel_eq_some {d : Scheduler} {id : Nat} {h g : Host} (cancelled : c.cancel id h = some (d, g)) :
    ∃ before e after, c.entries = before ++ e :: after ∧ e.id = id ∧
      d = { c with entries := before ++ after } := by
  unfold cancel at cancelled
  cases hf : c.entries.find? (·.id == id) with
  | none => simp [hf] at cancelled
  | some e =>
      simp only [hf, Option.some.injEq, Prod.mk.injEq] at cancelled
      obtain ⟨rfl, _⟩ := cancelled
      obtain ⟨same, before, after, entries, others⟩ := List.find?_eq_some_iff_append.1 hf
      refine ⟨before, e, after, entries, by simpa using same, ?_⟩
      rw [entries, List.eraseP_append_right _ (by simpa using others)]
      simp [same]

/-- Cancelling brings in no job. -/
theorem mem_of_mem_cancel {id : Nat} {h : Host} {e : Entry} (he : e ∈ ((Op.cancel id h).apply c).entries) :
    e ∈ c.entries := by
  simp only [Op.apply] at he
  cases hc : c.cancel id h with
  | none =>
      rw [hc] at he
      exact he
  | some r =>
      obtain ⟨before, d, after, entries, _, table⟩ := cancel_eq_some hc
      rw [hc, Option.map_some, Option.getD_some, table] at he
      rw [entries]
      exact (List.sublist_cons_self d after).append_left before |>.subset he

theorem Op.loses_of_not_breaks {op : Op} (sound : op.breaks c = false) : op.loses c = [] := by
  simp [loses, sound]

theorem Op.loses_of_subset {op : Op} (kept : ∀ id ∈ c.ids, id ∈ (op.apply c).ids) : op.loses c = [] := by
  unfold loses
  split
  · exact List.filter_eq_nil_iff.2 fun id mem => by simpa using kept id mem
  · rfl

/-- Adding a job leaves all others. -/
theorem Op.subset_apply_of_adds {op : Op}
    (adds : (∃ s now, op = .addSuspension s now) ∨ ∃ script inputs now, op = .addPeriodic script inputs now) :
    c.entries ⊆ (op.apply c).entries := by
  rcases adds with ⟨s, now, rfl⟩ | ⟨script, inputs, now, rfl⟩
  · rw [Op.apply]
    rcases c.addSuspension_cases s now with ⟨_, broke⟩ | ⟨due, _, held⟩
    · rw [broke]
      exact fun _ => id
    · rw [held]
      exact List.subset_append_left ..
  · rw [Op.apply]
    rcases c.addPeriodic_cases script inputs now with ⟨_, same⟩ | ⟨_, ⟨_, broke⟩ | ⟨due, _, held⟩⟩
    · rw [same]
      exact fun _ => id
    · rw [broke]
      exact fun _ => id
    · rw [held]
      exact List.subset_append_left ..

/-- Adding a job loses none. -/
theorem Op.loses_of_adds {op : Op}
    (adds : (∃ s now, op = .addSuspension s now) ∨ ∃ script inputs now, op = .addPeriodic script inputs now) :
    op.loses c = [] :=
  loses_of_subset fun _ mem => List.map_subset _ (subset_apply_of_adds adds) mem

/-- **Only a call that breaks down loses jobs.** -/
theorem Op.runReady_of_loses {op : Op} (lost : op.loses c ≠ []) :
    ∃ fuel h now, op = .runReady fuel h now ∧ op.breaks c = true := by
  cases op with
  | addSuspension s now => exact absurd (loses_of_adds (.inl ⟨s, now, rfl⟩)) lost
  | addPeriodic script inputs now => exact absurd (loses_of_adds (.inr ⟨script, inputs, now, rfl⟩)) lost
  | runReady fuel h now =>
      refine ⟨fuel, h, now, rfl, ?_⟩
      by_contra sound
      exact lost (loses_of_not_breaks (by simpa using sound))
  | _ => exact absurd (loses_of_not_breaks rfl) lost

theorem Op.breaks_addSuspension {s : Suspension} {now : Instant} :
    (Op.addSuspension s now).breaks c = true ↔ now.after? s.delay = none := by
  rw [breaks]
  rcases c.addSuspension_cases s now with ⟨hnone, broke⟩ | ⟨due, later, held⟩
  · simp [broke, hnone]
  · simp [held, later]

theorem Op.breaks_addPeriodic {script : Script} {inputs : Inputs} {now : Instant} :
    (Op.addPeriodic script inputs now).breaks c = true ↔
      script.triggers.interval ≠ 0 ∧ now.after? (.ofSeconds script.triggers.interval) = none := by
  rw [breaks]
  rcases c.addPeriodic_cases script inputs now with ⟨zero, same⟩ | ⟨pos, ⟨hnone, broke⟩ | ⟨due, later, held⟩⟩
  · simp [same, zero]
  · simp [broke, hnone, pos]
  · simp [held, later]

theorem accounts_cancel (c : Scheduler) (id : Nat) (h : Host) :
    c.Accounts ((Op.cancel id h).apply c) [] ((Op.cancel id h).retires c) := by
  simp only [Op.apply, Op.retires]
  cases hc : c.cancel id h with
  | none => exact ⟨.nil, by simp, Nat.le_refl _, .rfl⟩
  | some r =>
      obtain ⟨before, e, after, entries, rfl, table⟩ := cancel_eq_some hc
      refine ⟨.nil, by simp, by simp [table], ?_⟩
      simp only [Option.map_some, Option.getD_some, Option.isSome_some, if_true, table, ids, entries,
        List.map_append, List.map_cons, List.append_nil]
      have front : (e.id :: (before.map Entry.id ++ after.map Entry.id)).Perm
          (before.map Entry.id ++ e.id :: after.map Entry.id) := List.perm_middle.symm
      exact List.perm_append_comm.trans front

/-- What the log of a call has was held and due. -/
theorem mem_of_log {now : Instant} {log : List (Entry × Upshot)} {others : List Entry}
    (jobs : c.ready now = log.map Prod.fst ++ others) {x : Entry × Upshot} (hx : x ∈ log) :
    x.1 ∈ c.entries ∧ x.1.due ≤ now := by
  refine mem_ready.1 ?_
  rw [jobs]
  exact List.mem_append_left _ (List.mem_map_of_mem hx)

/-- The new ids that a call hands out are the next. -/
theorem filed_issued (num : c.Numbered) {now : Instant} {log : List (Entry × Upshot)} {others new : List Entry}
    (jobs : c.ready now = log.map Prod.fst ++ others) (filed : filed? now c.nextId log = some new) :
    ((c.pending now ++ new).map Entry.id).filter (fun id => !c.ids.contains id) =
      List.range' c.nextId (minted log) := by
  have known : ∀ e ∈ c.entries, (!c.ids.contains e.id) = false := by
    intro e he
    simpa using mem_ids he
  have pending : ((c.pending now).map Entry.id).filter (fun id => !c.ids.contains id) = [] := by
    simp only [List.filter_eq_nil_iff, List.mem_map]
    rintro _ ⟨e, he, rfl⟩
    rw [known e (mem_pending.1 he).1]
    exact Bool.false_ne_true
  have fresh : ∀ id, c.nextId ≤ id → (!c.ids.contains id) = true := by
    intro id hid
    simpa using fun h => absurd (num.lt id h) (Nat.not_lt.2 hid)
  rw [List.map_append, List.filter_append, pending, List.nil_append]
  exact filed_new filed (fun x hx => known _ (mem_of_log jobs hx).1) fresh

/-- The ids after a call, with those of the runs that have stopped and of the jobs that had no turn. -/
theorem filed_accounts {fuel : Nat} {h g : Host} {now : Instant} {log : List (Entry × Upshot)}
    {others new : List Entry} (jobs : c.ready now = log.map Prod.fst ++ others)
    (executes : Executes fuel h log g) (filed : filed? now c.nextId log = some new) :
    ((c.pending now ++ new).map Entry.id ++ (retiredOf log ++ others.map Entry.id)).Perm
      (c.ids ++ List.range' c.nextId (minted log)) := by
  have executed := filed_perm filed executes.started
  have split := (c.ready_append_pending_perm now).map Entry.id
  rw [jobs, List.map_append, List.map_append, List.map_map] at split
  refine List.perm_iff_count.2 fun id => ?_
  have here := executed.count_eq id
  have there := split.count_eq id
  simp only [ids, List.map_append, List.count_append] at here there ⊢
  have same : (Entry.id ∘ Prod.fst : Entry × Upshot → Nat) = fun x => x.1.id := rfl
  rw [same] at there
  omega

/-- No id is known before and new. -/
theorem Numbered.nodup_issued (num : c.Numbered) {issued : List Nat} (increasing : issued.Pairwise (· < ·))
    (new : ∀ id ∈ issued, c.nextId ≤ id) : (c.ids ++ issued).Nodup := by
  refine List.nodup_append.2 ⟨num.nodup, increasing.imp Nat.ne_of_lt, ?_⟩
  rintro id old _ issued rfl
  exact absurd (num.lt id old) (Nat.not_lt.2 (new id issued))

/-- Ids that are gone are those that were there and are no more. -/
theorem perm_filter_of_perm {before after gone issued : List Nat} (all : (after ++ gone).Perm (before ++ issued))
    (nodup : (before ++ issued).Nodup) (held : ∀ id ∈ issued, id ∈ after) :
    gone.Perm (before.filter fun id => !after.contains id) := by
  have apart := (List.nodup_append.1 ((all.nodup_iff).2 nodup)).2.2
  have left : (after ++ gone).filter (fun id => !after.contains id) = gone := by
    rw [List.filter_append, List.filter_eq_nil_iff.2 (by simp), List.nil_append]
    exact List.filter_eq_self.2 fun id mem => by simpa using fun there => apart id there id mem rfl
  have right : (before ++ issued).filter (fun id => !after.contains id) =
      before.filter fun id => !after.contains id := by
    have hnone : issued.filter (fun id => !after.contains id) = [] :=
      List.filter_eq_nil_iff.2 fun id mem => by simpa using held id mem
    rw [List.filter_append, hnone, List.append_nil]
  rw [← right]
  conv_lhs => rw [← left]
  exact all.filter _

theorem accounts_runReady (num : c.Numbered) (fuel : Nat) (h : Host) (now : Instant) :
    c.Accounts ((Op.runReady fuel h now).apply c) ((Op.runReady fuel h now).issues c)
      ((Op.runReady fuel h now).retires c ++ (Op.runReady fuel h now).loses c) := by
  obtain ⟨log, new, g, executes, filed, ends⟩ := runReady_log fuel c h now
  have increasing : (List.range' c.nextId (minted log)).Pairwise (· < ·) := List.pairwise_lt_range' ..
  rcases ends with ⟨jobs, result⟩ | ⟨e, rest, n, f, jobs, _, grown, result⟩
  · have jobs' : c.ready now = log.map Prod.fst ++ [] := by rw [jobs, List.append_nil]
    have issued : (Op.runReady fuel h now).issues c = List.range' c.nextId (minted log) := by
      rw [Op.issues, result]
      exact filed_issued num jobs' filed
    have retired : (Op.runReady fuel h now).retires c = retiredOf log := by
      rw [Op.retires, result]
      exact reports_filter fun x hx => num.holdsRun_eq (mem_of_log jobs' hx).1
    have lost : (Op.runReady fuel h now).loses c = [] := Op.loses_of_not_breaks (by rw [Op.breaks, result]; rfl)
    rw [issued, retired, lost, Op.apply, result]
    refine ⟨increasing, fun id mem => ?_, Nat.le_add_right .., filed_accounts jobs' executes filed⟩
    simpa using List.mem_range'_1.1 mem
  · have issued : (Op.runReady fuel h now).issues c = List.range' c.nextId (minted log) := by
      rw [Op.issues, result]
      exact filed_issued num jobs filed
    have retired : (Op.runReady fuel h now).retires c = [] := by
      rw [Op.retires, result]
      rfl
    have table : (Op.runReady fuel h now).apply c = ⟨c.pending now ++ new, n⟩ := by rw [Op.apply, result]
    have fresh : ∀ id ∈ List.range' c.nextId (minted log), c.nextId ≤ id ∧ id < n := by
      intro id mem
      obtain ⟨least, most⟩ := List.mem_range'_1.1 mem
      exact ⟨least, by omega⟩
    have all := filed_accounts jobs executes filed
    have held : ∀ id ∈ List.range' c.nextId (minted log), id ∈ (c.pending now ++ new).map Entry.id := by
      rw [← filed_issued num jobs filed]
      exact fun id mem => (List.mem_filter.1 mem).1
    have lost : (Op.runReady fuel h now).loses c =
        c.ids.filter fun id => !((c.pending now ++ new).map Entry.id).contains id := by
      rw [Op.loses, table, if_pos (by rw [Op.breaks, result]; rfl)]
      rfl
    rw [issued, retired, table, lost]
    refine ⟨increasing, fresh, by dsimp only; omega, ?_⟩
    have gone := perm_filter_of_perm all (num.nodup_issued increasing fun id mem => (fresh id mem).1) held
    exact (gone.symm.append_left _).trans all

/-- **The ids before and after an operation.** -/
theorem Op.accounts (num : c.Numbered) (op : Op) :
    c.Accounts (op.apply c) (op.issues c) (op.retires c ++ op.loses c) := by
  cases op with
  | addSuspension s now =>
      rcases c.addSuspension_cases s now with ⟨_, broke⟩ | ⟨due, _, held⟩
      · have table : (Op.addSuspension s now).apply c = ⟨c.entries, c.nextId + 1⟩ := congrArg Prod.snd broke
        rw [table, Op.loses_of_adds (.inl ⟨s, now, rfl⟩), Op.issues, broke]
        exact ⟨.nil, by simp, Nat.le_succ _, .rfl⟩
      · rw [Op.loses_of_adds (.inl ⟨s, now, rfl⟩), Op.apply, Op.issues, held]
        exact ⟨.cons (by simp) .nil, by simp, Nat.le_succ _, by simp [ids, Suspension.entry, Op.retires]⟩
  | addPeriodic script inputs now =>
      rcases c.addPeriodic_cases script inputs now with ⟨_, same⟩ | ⟨pos, ⟨_, broke⟩ | ⟨due, _, held⟩⟩
      · rw [Op.loses_of_adds (.inr ⟨script, inputs, now, rfl⟩), Op.apply, Op.issues, same]
        exact ⟨.nil, by simp [Registration.id?], Nat.le_refl _, .rfl⟩
      · have table : (Op.addPeriodic script inputs now).apply c = ⟨c.entries, c.nextId + 1⟩ :=
          congrArg Prod.snd broke
        rw [table, Op.loses_of_adds (.inr ⟨script, inputs, now, rfl⟩), Op.issues, broke]
        exact ⟨.nil, by simp [Registration.id?], Nat.le_succ _, .rfl⟩
      · rw [Op.loses_of_adds (.inr ⟨script, inputs, now, rfl⟩), Op.apply, Op.issues, held]
        exact ⟨.cons (by simp) .nil, by simp [Registration.id?], Nat.le_succ _,
          by simp [ids, Op.retires, Registration.id?]⟩
  | cancel id h =>
      rw [Op.loses_of_not_breaks rfl, List.append_nil]
      exact accounts_cancel c id h
  | cancelAll h =>
      rw [Op.loses_of_not_breaks rfl, List.append_nil]
      exact ⟨.nil, by simp [Op.issues], Nat.le_refl _, List.perm_append_comm⟩
  | takeReady now =>
      rw [Op.loses_of_not_breaks rfl, List.append_nil]
      simp only [Op.apply, Op.issues, Op.retires, takeReady_eq]
      refine ⟨.nil, by simp, Nat.le_refl _, ?_⟩
      simp only [ids, ← List.map_append, List.append_nil]
      exact (List.perm_append_comm.trans (c.ready_append_pending_perm now)).map _
  | runReady fuel h now => exact accounts_runReady num fuel h now

/-! ### Entries -/

/-- The table after a call: what was not due, and what is filed. -/
theorem entries_runReady (fuel : Nat) (c : Scheduler) (h : Host) (now : Instant) :
    ∃ log others new, c.ready now = log.map Prod.fst ++ others ∧ filed? now c.nextId log = some new ∧
      (c.runReady fuel h now).2.1.entries = c.pending now ++ new := by
  obtain ⟨log, new, g, _, filed, ends⟩ := runReady_log fuel c h now
  rcases ends with ⟨jobs, result⟩ | ⟨e, rest, n, f, jobs, _, _, result⟩
  · exact ⟨log, [], new, by rw [jobs, List.append_nil], filed, by rw [result]⟩
  · exact ⟨log, e :: rest, new, jobs, filed, by rw [result]⟩

/-- **What is done to some jobs leaves the others as they are.**  A job is held on as it is unless it is
cancelled, taken out or due at a call. -/
theorem Op.mem_apply (op : Op) {e : Entry} (he : e ∈ c.entries) :
    e ∈ (op.apply c).entries ∨ e.id ∈ op.retires c ∨
      ∃ fuel h now, op = .runReady fuel h now ∧ e.due ≤ now := by
  cases op with
  | addSuspension s now => exact .inl (subset_apply_of_adds (.inl ⟨s, now, rfl⟩) he)
  | addPeriodic script inputs now => exact .inl (subset_apply_of_adds (.inr ⟨script, inputs, now, rfl⟩) he)
  | cancel id h =>
      simp only [Op.apply, Op.retires]
      cases hc : c.cancel id h with
      | none => exact .inl he
      | some r =>
          obtain ⟨before, d, after, entries, rfl, table⟩ := cancel_eq_some hc
          rw [entries] at he
          simp only [List.mem_append, List.mem_cons] at he
          rcases he with he | rfl | he
          · exact .inl (by simp [table, he])
          · exact .inr (.inl (by simp))
          · exact .inl (by simp [table, he])
  | cancelAll h => exact .inr (.inl (mem_ids he))
  | takeReady now =>
      simp only [Op.apply, Op.retires, takeReady_eq]
      by_cases due : e.due ≤ now
      · exact .inr (.inl (List.mem_map_of_mem (mem_ready.2 ⟨he, due⟩)))
      · exact .inl (mem_pending.2 ⟨he, due⟩)
  | runReady fuel h now =>
      by_cases due : e.due ≤ now
      · exact .inr (.inr ⟨fuel, h, now, rfl, due⟩)
      · obtain ⟨_, _, _, _, _, table⟩ := entries_runReady fuel c h now
        left
        rw [Op.apply, table]
        exact List.mem_append_left _ (mem_pending.2 ⟨he, due⟩)

theorem Op.files_of_new {op : Op} {id : Nat} (held : id ∈ (op.apply c).ids) (new : id ∉ c.ids) :
    op.files c id = true := by
  simp [files, held, new]

/-- A job that is held on is filed anew only by a call, and only if it is due. -/
theorem Op.files_of_held {op : Op} {id : Nat} (old : id ∈ c.ids)
    (calm : ∀ fuel h now, op = .runReady fuel h now → c.isDue now id = false) : op.files c id = false := by
  cases op with
  | runReady fuel h now => simp [files, old, calm fuel h now rfl]
  | _ => simp [files, old]

theorem runReady_held_or_filed (num : c.Numbered) (fuel : Nat) (h : Host) (now : Instant) {e : Entry}
    (he : e ∈ (c.runReady fuel h now).2.1.entries) :
    (e ∈ c.entries ∧ (Op.runReady fuel h now).files c e.id = false) ∨
      ((Op.runReady fuel h now).files c e.id = true ∧
        ∀ s, e.job = .resume s → now.after? s.delay = some e.due) := by
  have held : e.id ∈ ((Op.runReady fuel h now).apply c).ids := mem_ids he
  obtain ⟨log, others, new, jobs, filed, table⟩ := entries_runReady fuel c h now
  rw [table] at he
  rcases List.mem_append.1 he with pending | new
  · obtain ⟨old, late⟩ := mem_pending.1 pending
    refine .inl ⟨old, Op.files_of_held (mem_ids old) ?_⟩
    rintro _ _ _ ⟨⟩
    rw [num.isDue_eq old]
    simpa using late
  · obtain ⟨known, due⟩ := mem_filed filed new
    refine .inr ⟨?_, due⟩
    rcases known with later | ⟨x, hx, same⟩
    · exact Op.files_of_new held fun h => absurd (num.lt _ h) (Nat.not_lt.2 later)
    · obtain ⟨old, early⟩ := mem_of_log jobs hx
      have isDue : c.isDue now e.id = true := by
        rw [← same, num.isDue_eq old]
        simpa using early
      simp only [Op.files, isDue, Bool.or_true, Bool.and_true]
      simpa using held

/-- **A job that is held was held before, or is filed now**; a run that sleeps then has its whole delay
before it. -/
theorem Op.held_or_filed (num : c.Numbered) (op : Op) {e : Entry} (he : e ∈ (op.apply c).entries) :
    (e ∈ c.entries ∧ op.files c e.id = false) ∨
      (op.files c e.id = true ∧
        ∃ t, op.now? = some t ∧ ∀ s, e.job = .resume s → t.after? s.delay = some e.due) := by
  have fresh : c.nextId ∉ c.ids := fun h => Nat.lt_irrefl _ (num.lt _ h)
  have held := mem_ids he
  cases op with
  | addSuspension s now =>
      rw [Op.apply] at he
      rcases c.addSuspension_cases s now with ⟨_, broke⟩ | ⟨due, later, added⟩
      · rw [broke] at he
        exact .inl ⟨he, files_of_held (mem_ids he) fun _ _ _ eq => by cases eq⟩
      · rw [added] at he
        rcases List.mem_append.1 he with old | new
        · exact .inl ⟨old, files_of_held (mem_ids old) fun _ _ _ eq => by cases eq⟩
        · obtain rfl := List.mem_singleton.1 new
          refine .inr ⟨files_of_new held fresh, now, rfl, fun t ht => ?_⟩
          cases ht
          exact later
  | addPeriodic script inputs now =>
      rw [Op.apply] at he
      rcases c.addPeriodic_cases script inputs now with ⟨_, same⟩ | ⟨_, ⟨_, broke⟩ | ⟨due, _, added⟩⟩
      · rw [same] at he
        exact .inl ⟨he, files_of_held (mem_ids he) fun _ _ _ eq => by cases eq⟩
      · rw [broke] at he
        exact .inl ⟨he, files_of_held (mem_ids he) fun _ _ _ eq => by cases eq⟩
      · rw [added] at he
        rcases List.mem_append.1 he with old | new
        · exact .inl ⟨old, files_of_held (mem_ids old) fun _ _ _ eq => by cases eq⟩
        · obtain rfl := List.mem_singleton.1 new
          exact .inr ⟨files_of_new held fresh, now, rfl, fun t ht => by cases ht⟩
  | cancel id h =>
      have old := mem_of_mem_cancel he
      exact .inl ⟨old, files_of_held (mem_ids old) fun _ _ _ eq => by cases eq⟩
  | cancelAll h => cases he
  | takeReady now =>
      have old : e ∈ c.entries := by
        rw [Op.apply, takeReady_eq] at he
        exact (mem_pending.1 he).1
      exact .inl ⟨old, files_of_held (mem_ids old) fun _ _ _ eq => by cases eq⟩
  | runReady fuel h now =>
      exact (runReady_held_or_filed num fuel h now he).imp id fun ⟨filed, due⟩ => ⟨filed, now, rfl, due⟩

/-! ### What becomes of a job -/

theorem Accounts.nodup {c' : Scheduler} {issued gone : List Nat} (num : c.Numbered)
    (acc : c.Accounts c' issued gone) : (c'.ids ++ gone).Nodup :=
  (acc.perm.nodup_iff).2 (num.nodup_issued acc.increasing fun id mem => (acc.new id mem).1)

/-- **What has become of a job that was executed.**  A run that sleeps again is held under the id it had,
with its whole delay before it; one that is reported is held no longer.  A script that is run at intervals
is held as before, and is due again later; if its run sleeps, that is held under a new id. -/
def Settled (c c' : Scheduler) (now : Instant) (e : Entry) (u : Upshot) : Prop :=
  match e.job, u with
  | .resume _, .sleeps s => ∃ due, now.after? s.delay = some due ∧ s.entry e.id due ∈ c'.entries
  | .resume _, .reported _ => e.id ∉ c'.ids
  | .resume _, .unbound => False
  | .periodic _ _ _ _, u =>
    (∃ due, now < due ∧ { e with due } ∈ c'.entries) ∧
      ∀ s, u = .sleeps s → ∃ id due, c.nextId ≤ id ∧ id < c'.nextId ∧ now.after? s.delay = some due ∧
        s.entry id due ∈ c'.entries

theorem settled_of_mem (num : c.Numbered) {fuel : Nat} {h g : Host} {now : Instant}
    {log : List (Entry × Upshot)} {new : List Entry} {e : Entry} {u : Upshot}
    (executes : Executes fuel h log g) (filed : filed? now c.nextId log = some new)
    (jobs : log.map Prod.fst = c.ready now)
    (result : c.runReady fuel h now =
      (some (reports log), ⟨c.pending now ++ new, c.nextId + minted log⟩, g))
    (mem : (e, u) ∈ log) : Settled c (c.runReady fuel h now).2.1 now e u := by
  obtain ⟨m, own, least, most, files, all⟩ := files_of_mem filed mem
  have held : ∀ d ∈ own, d ∈ (c.runReady fuel h now).2.1.entries := by
    intro d hd
    rw [result]
    exact List.mem_append_right _ (all hd)
  obtain ⟨again, still, parked⟩ := Entry.files?_eq_some files
  have started := executes.started (e, u) mem
  unfold Settled
  cases hj : e.job with
  | resume s =>
      have run : e.job.isRun = true := by rw [hj]; rfl
      rcases parked with ⟨awake, rfl⟩ | ⟨t, due, rfl, later, rfl⟩
      · cases u with
        | sleeps t => cases awake
        | unbound => exact started run rfl
        | reported o =>
            -- its id is done with, and what is done with is not held
            have retired : e.id ∈ (Op.runReady fuel h now).retires c := by
              refine List.mem_filter.2 ⟨?_, ?_⟩
              · rw [result]
                exact List.mem_map.2 ⟨(e.id, o), List.mem_flatMap.2 ⟨_, mem, by simp [Upshot.report]⟩, rfl⟩
              · have due : c.ready now = log.map Prod.fst ++ [] := by rw [jobs, List.append_nil]
                rw [num.holdsRun_eq (mem_of_log due mem).1, run]
            intro stays
            have apart := (List.nodup_append.1 ((accounts_runReady num fuel h now).nodup num)).2.2
            exact apart _ stays _ (List.mem_append_left _ retired) rfl
      · refine ⟨due, later, held _ ?_⟩
        simp [Entry.runId, run]
  | periodic script inputs interval pos =>
      have recurs : e.job.isRun = false := by rw [hj]; rfl
      rcases Entry.again?_eq_some still with ⟨run, _⟩ | ⟨_, due, later, rfl⟩
      · rw [recurs] at run
        cases run
      · refine ⟨⟨due, later, held _ ?_⟩, ?_⟩
        · rcases parked with ⟨_, rfl⟩ | ⟨t, due', rfl, _, rfl⟩ <;> simp [hj]
        · rintro t rfl
          rcases parked with ⟨awake, _⟩ | ⟨t', due', same, later', rfl⟩
          · cases awake
          · cases same
            have one : e.mints (.sleeps t) = 1 := by simp [Entry.mints, recurs]
            refine ⟨m, due', least, ?_, later', held _ (by simp [Entry.runId, recurs])⟩
            rw [result]
            simp only
            omega

end Scheduler

/-! ### Histories -/

/-- What is known of all that was done with a scheduler: the ids that have been handed out, in order,
those that are done with, those that are lost, and when the job of an id was last filed. -/
structure Ledger where
  scheduler : Scheduler := .empty
  issued : List Nat := []
  retired : List Nat := []
  lost : List Nat := []
  filedAt : Nat → Option Instant := fun _ => none

namespace Ledger

open Scheduler

/-- One more thing is done. -/
def after (l : Ledger) (op : Op) : Ledger where
  scheduler := op.apply l.scheduler
  issued := l.issued ++ op.issues l.scheduler
  retired := l.retired ++ op.retires l.scheduler
  lost := l.lost ++ op.loses l.scheduler
  filedAt id := if op.files l.scheduler id then op.now? else l.filedAt id

/-- All that is known after some operations on an empty scheduler. -/
def ofOps (ops : List Op) : Ledger := ops.foldl after {}

/-- **The books are in order.** -/
structure Sound (l : Ledger) : Prop where
  increasing : l.issued.Pairwise (· < ·)
  lt : ∀ id ∈ l.issued, id < l.scheduler.nextId
  perm : (l.scheduler.ids ++ (l.retired ++ l.lost)).Perm l.issued
  filedAt : ∀ e ∈ l.scheduler.entries, ∀ s, e.job = .resume s →
    ∃ t, l.filedAt e.id = some t ∧ t.after? s.delay = some e.due

variable {l : Ledger}

theorem Sound.issued_nodup (sound : l.Sound) : l.issued.Nodup := sound.increasing.imp Nat.ne_of_lt

theorem Sound.numbered (sound : l.Sound) : l.scheduler.Numbered :=
  ⟨((sound.perm.nodup_iff).2 sound.issued_nodup).of_append_left,
    fun id hid => sound.lt id (sound.perm.subset (List.mem_append_left _ hid))⟩

/-- **Every operation keeps the books in order**, also one that breaks down. -/
theorem Sound.after (sound : l.Sound) (op : Op) : (l.after op).Sound := by
  have acc := op.accounts sound.numbered
  refine ⟨List.pairwise_append.2 ⟨sound.increasing, acc.increasing, fun old ho new hn => ?_⟩, fun id mem => ?_,
    ?_, ?_⟩
  · exact Nat.lt_of_lt_of_le (sound.lt old ho) (acc.new new hn).1
  · rcases List.mem_append.1 mem with old | new
    · exact Nat.lt_of_lt_of_le (sound.lt id old) acc.nextId
    · exact (acc.new id new).2
  · refine List.perm_iff_count.2 fun id => ?_
    have here := acc.perm.count_eq id
    have before := sound.perm.count_eq id
    simp only [Ledger.after, List.count_append] at here before ⊢
    omega
  · intro e he s job
    simp only [Ledger.after]
    rcases op.held_or_filed sound.numbered he with ⟨old, same⟩ | ⟨new, t, now, due⟩
    · rw [same]
      exact sound.filedAt e old s job
    · rw [new]
      exact ⟨t, now, due s job⟩

theorem sound_ofOps (ops : List Op) : (ofOps ops).Sound := by
  have all : ∀ {l : Ledger}, l.Sound → (ops.foldl Ledger.after l).Sound := by
    induction ops with
    | nil => exact id
    | cons op ops ih => exact fun sound => ih (sound.after op)
  exact all ⟨.nil, by simp, .rfl, fun e he => by cases he⟩

/-- **What a call does that executes all that is due**, by the log of what was executed. -/
structure Call (l : Ledger) (fuel : Nat) (h : Host) (now : Instant) (log : List (Entry × Upshot)) :
    Prop where
  /-- the jobs that are due are executed, each of them once, -/
  jobs : log.map Prod.fst = l.scheduler.ready now
  /-- one after the other; -/
  executes : Executes fuel h log (l.scheduler.runReady fuel h now).2.2
  /-- what has stopped is reported, -/
  done : (l.scheduler.runReady fuel h now).1 = some (reports log)
  /-- what is not due is left as it was, -/
  pending : ∃ new, (l.scheduler.runReady fuel h now).2.1.entries = l.scheduler.pending now ++ new
  /-- what is left of each job is held, -/
  settled : ∀ e u, (e, u) ∈ log → Settled l.scheduler (l.scheduler.runReady fuel h now).2.1 now e u
  /-- and there is a new id for each run that sleeps and was not resumed -/
  nextId : (l.scheduler.runReady fuel h now).2.1.nextId =
    l.scheduler.nextId + log.countP fun x => !x.1.job.isRun && x.2.isSleep

/-- **What a call does that breaks down**, by the log of what was executed until then. -/
structure Breakdown (l : Ledger) (fuel : Nat) (h : Host) (now : Instant) (log : List (Entry × Upshot)) :
    Prop where
  /-- the jobs that are due were executed up to the one at which it breaks down, -/
  halts : ∃ g e rest, l.scheduler.ready now = log.map Prod.fst ++ e :: rest ∧ Executes fuel h log g ∧
    Halts fuel now g e
  /-- nothing is reported, -/
  done : (l.scheduler.runReady fuel h now).1 = none
  /-- what is not due is left as it was, and what is left of the jobs before that one is held -/
  filed : ∃ new, filed? now l.scheduler.nextId log = some new ∧
    (l.scheduler.runReady fuel h now).2.1.entries = l.scheduler.pending now ++ new

theorem call_or_breakdown (sound : l.Sound) (fuel : Nat) (h : Host) (now : Instant) :
    ∃ log, l.Call fuel h now log ∨ l.Breakdown fuel h now log := by
  obtain ⟨log, new, g, executes, filed, ends⟩ := runReady_log fuel l.scheduler h now
  refine ⟨log, ?_⟩
  rcases ends with ⟨jobs, result⟩ | ⟨e, rest, n, f, jobs, halts, _, result⟩
  · refine .inl ⟨jobs, ?_, by rw [result], ⟨new, by rw [result]⟩, fun e u mem => ?_, ?_⟩
    · rw [result]
      exact executes
    · exact settled_of_mem sound.numbered executes filed jobs result mem
    · rw [result, minted_eq]
  · exact .inr ⟨⟨g, e, rest, jobs, executes, halts⟩, by rw [result], new, filed, by rw [result]⟩

/-- **Every job is accounted for, and none is there twice.**  Whatever was done with a scheduler, its ids are
distinct and below the next one.  Each id that was handed out is held once, until it is cancelled, taken out
or, of a run that sleeps, reported; only a call that breaks down loses it.  What is not due is left as it is,
no run is due too soon, and a call does as `Call` or `Breakdown` say. -/
theorem jobs_accounted (ops : List Op) :
    let l := ofOps ops
    (l.scheduler.ids.Nodup ∧ (∀ id ∈ l.scheduler.ids, id < l.scheduler.nextId) ∧ l.issued.Nodup) ∧
    (∀ id, l.scheduler.ids.count id + l.retired.count id + l.lost.count id = if id ∈ l.issued then 1 else 0) ∧
    (∀ op : Op, op.loses l.scheduler ≠ [] → ∃ fuel h now, op = .runReady fuel h now ∧ op.breaks l.scheduler) ∧
    (∀ (op : Op) (e : Entry), e ∈ l.scheduler.entries →
      e ∈ (op.apply l.scheduler).entries ∨ e.id ∈ op.retires l.scheduler ∨
        ∃ fuel h now, op = .runReady fuel h now ∧ e.due ≤ now) ∧
    (∀ now, ∀ e ∈ l.scheduler.ready now, ∀ s, e.job = .resume s →
      ∃ t, l.filedAt e.id = some t ∧ t.nanos + s.delay.nanos ≤ now.nanos) ∧
    (∀ fuel h now, ∃ log, l.Call fuel h now log ∨ l.Breakdown fuel h now log) ∧
    (∀ s now, (Op.addSuspension s now).breaks l.scheduler = true ↔ clockSpan ≤ now.nanos + s.delay.nanos) ∧
    ∀ script inputs now, (Op.addPeriodic script inputs now).breaks l.scheduler = true ↔
      script.triggers.interval ≠ 0 ∧
        clockSpan ≤ now.nanos + (Duration.ofSeconds script.triggers.interval).nanos := by
  intro l
  have sound : l.Sound := sound_ofOps ops
  have num := sound.numbered
  refine ⟨⟨num.nodup, num.lt, sound.issued_nodup⟩, fun id => ?_, fun op lost => ?_, fun op e he => op.mem_apply he,
    fun now e he s job => ?_, call_or_breakdown sound, fun s now => ?_, fun script inputs now => ?_⟩
  · rw [Nat.add_assoc, ← List.count_append, ← List.count_append, sound.perm.count_eq, sound.issued_nodup.count]
  · exact op.runReady_of_loses lost
  · obtain ⟨held, due⟩ := mem_ready.1 he
    obtain ⟨t, filed, sum⟩ := sound.filedAt e held s job
    exact ⟨t, filed, Instant.after?_eq_some_iff.1 sum ▸ due⟩
  · rw [← Instant.after?_eq_none_iff]
    exact Op.breaks_addSuspension
  · rw [← Instant.after?_eq_none_iff]
    exact Op.breaks_addPeriodic

/-- A run that sleeps for a second and then for far too long, where the settings allow that. -/
def oversleeper : Invocation :=
  let sleeps : List String := ["1", "9223372036854775807"]
  { script := { statements := (sleeps.map fun n => .sleep (.constant (.ofText n))).toArray.push .finish }
    context := .ofInputs "" { settings := { maxSleep := .ofSeconds 18446744073709551615 } } }

/-- It is resumed after a second and breaks the call down: its id is neither held any longer nor done with. -/
theorem oversleeper_lost :
    ∃ s g, oversleeper.run 5 {} = (.suspended s, g) ∧
      let l := ofOps [.addSuspension s .beginning, .runReady 5 g ⟨1000000000, by decide⟩]
      l.issued = [1] ∧ l.scheduler.ids = [] ∧ l.retired = [] ∧ l.lost = [1] := by
  refine ⟨_, _, rfl, ?_⟩
  decide +kernel

end Ledger

end LineScript
