import Mathlib.Data.List.Forall2
import Mathlib.Order.Bounds.Basic
import LineScript.Proofs.Ledger

/-!
**The cadence of a script that is run at intervals.**

A script that is run at intervals is due at one interval after it was registered, at two, at three, and so
on.  A call may come late, and then one run makes up for all that were missed: the script is due again at the
first of these times that is still to come.  That time is counted on from when the run was due and not from
when it was executed, so that delays do not add up.

It is found by a loop that adds the interval until the sum is after the present.  With no interval that loop
would not end, which is why such a script is not registered.  If the clock does not come to that time, the call
breaks down and the script is held no more.

Main definitions:

* `LineScript.catchUp` — **the loop**, for at most so many rounds;
* `LineScript.tickAt` — the times of a cadence;
* `LineScript.Scheduler.recurring` — the scripts that are run at intervals;
* `LineScript.Scheduler.ticks` — the times for which a job was due at a call.

Main results:

* `LineScript.catchUp_eq` — the loop ends after so many rounds, and what it comes to;
* `LineScript.Entry.again?_of_periodic` — when a script is due again, if the clock comes to it;
* `LineScript.Scheduler.recurring_runReady` — what becomes of the scripts that are run at intervals;
* `LineScript.Scheduler.ticks_keep_cadence` — **a job is executed for later and later times of its cadence**;
* `LineScript.Scheduler.registered_keeps_cadence` — the cadence begins with the registration;
* `LineScript.Scheduler.periodic_cadence` — all of it together.
-/

set_option autoImplicit false

namespace LineScript

/-! ### The times of a cadence -/

/-- The time at which an interval is complete for the `k`-th time, in nanoseconds and whether the clock comes to
it or not. -/
def tickAt (start : Instant) (interval : Duration) (k : Nat) : Nat := start.nanos + interval.nanos * k

theorem tickAt_succ (start : Instant) (interval : Duration) (k : Nat) :
    tickAt start interval (k + 1) = tickAt start interval k + interval.nanos := by
  simp only [tickAt, Nat.mul_succ, Nat.add_assoc]

theorem tickAt_add {start t : Instant} {interval : Duration} {k : Nat} (h : t.nanos = tickAt start interval k)
    (j : Nat) : tickAt t interval j = tickAt start interval (k + j) := by
  rw [tickAt, h, tickAt, tickAt, Nat.mul_add, Nat.add_assoc]

/-- How many times of a cadence were missed. -/
def missed (interval : Duration) (now due : Instant) : Nat := (now.nanos - due.nanos) / interval.nanos

variable {interval : Duration} {now due : Instant}

theorem tickAt_missed_le (interval : Duration) (late : due ≤ now) : tickAt due interval (missed interval now due) ≤ now.nanos := by
  have late' : due.nanos ≤ now.nanos := late
  have quotient : interval.nanos * ((now.nanos - due.nanos) / interval.nanos) ≤ now.nanos - due.nanos :=
    Nat.mul_div_le _ _
  unfold tickAt missed
  omega

/-- **The time after those that were missed is the first of the cadence that is still to come.** -/
theorem isLeast_tickAt (pos : 0 < interval.nanos) (late : due ≤ now) :
    IsLeast {t | now.nanos < t ∧ ∃ k, 0 < k ∧ t = tickAt due interval k}
      (tickAt due interval (missed interval now due + 1)) := by
  have late' : due.nanos ≤ now.nanos := late
  refine ⟨⟨?_, _, Nat.succ_pos _, rfl⟩, ?_⟩
  · have next : now.nanos - due.nanos < interval.nanos * ((now.nanos - due.nanos) / interval.nanos + 1) :=
      Nat.lt_mul_div_succ _ pos
    change now.nanos < due.nanos + _
    rw [missed]
    omega
  · rintro t ⟨after, k, _, rfl⟩
    have after' : now.nanos < due.nanos + interval.nanos * k := after
    have least : missed interval now due < k :=
      (Nat.div_lt_iff_lt_mul pos).2 (by rw [Nat.mul_comm]; omega)
    exact Nat.add_le_add_left (Nat.mul_le_mul_left _ least) _

/-! ### The loop -/

/-- **The loop that adds an interval to a time until the sum is after the present**, for at most so many
rounds; none if it is not over by then, and no time if the clock does not come to it. -/
def catchUp (interval : Duration) (now : Instant) : Nat → Instant → Option (Option Instant)
  | 0, _ => none
  | rounds + 1, time =>
    if time ≤ now then
      match time.after? interval with
      | some later => catchUp interval now rounds later
      | none => some none
    else some (some time)

/-- Without an interval the loop does not end. -/
theorem catchUp_of_zero {time : Instant} (passed : time ≤ now) (rounds : Nat) :
    catchUp .zero now rounds time = none := by
  have same : time.after? .zero = some time := Instant.after?_eq_some_iff.2 rfl
  induction rounds with
  | zero => rfl
  | succ rounds ih => simp only [catchUp, if_pos passed, same, ih]

theorem nextTick?_of_le {pos : 0 < interval.nanos} {time : Instant} (passed : time ≤ now) :
    nextTick? interval pos now time = (time.after? interval).bind (nextTick? interval pos now) := by
  rw [nextTick?, if_pos passed]
  split <;> simp [*]

/-- What the loop comes to is what it comes to without a limit. -/
theorem nextTick?_of_catchUp {rounds : Nat} {time : Instant} {tick : Option Instant} (pos : 0 < interval.nanos)
    (ends : catchUp interval now rounds time = some tick) : nextTick? interval pos now time = tick := by
  induction rounds generalizing time with
  | zero => cases ends
  | succ rounds ih =>
      by_cases passed : time ≤ now
      · rw [nextTick?_of_le passed]
        rw [catchUp, if_pos passed] at ends
        cases next : time.after? interval with
        | none =>
            rw [next] at ends
            exact Option.some.inj ends
        | some later =>
            rw [next] at ends
            exact ih ends
      · rw [nextTick?, if_neg passed]
        rw [catchUp, if_neg passed] at ends
        exact Option.some.inj ends

/-- From the `k`-th time of the cadence on, the loop takes a round for each time up to the present, and one
more to see that the next is after it. -/
theorem catchUp_from (pos : 0 < interval.nanos) (late : due ≤ now) {next time : Instant} {k left : Nat}
    (hnext : next.nanos = tickAt due interval (missed interval now due + 1))
    (htime : time.nanos = tickAt due interval (k + 1)) (count : k + left = missed interval now due)
    (rounds : Nat) :
    catchUp interval now rounds time = if left < rounds then some (some next) else none := by
  -- on the rounds that are left until the time is after the present
  induction left generalizing k time rounds with
  | zero =>
      obtain rfl : k = missed interval now due := by omega
      obtain rfl : time = next := Instant.ext (htime.trans hnext.symm)
      have after : ¬ time ≤ now := Nat.not_le.2 (hnext ▸ (isLeast_tickAt pos late).1.1)
      cases rounds with
      | zero => rfl
      | succ rounds => rw [catchUp, if_neg after, if_pos (Nat.succ_pos _)]
  | succ left ih =>
      have most : tickAt due interval (k + 1 + 1) ≤ tickAt due interval (missed interval now due + 1) :=
        Nat.add_le_add_left (Nat.mul_le_mul_left _ (by omega)) _
      have passed : time ≤ now := by
        refine Nat.le_trans (Nat.le_of_eq htime) (Nat.le_trans ?_ (tickAt_missed_le interval late))
        exact Nat.add_le_add_left (Nat.mul_le_mul_left _ (by omega)) _
      have sum : time.nanos + interval.nanos = tickAt due interval (k + 1 + 1) := by
        rw [htime, ← tickAt_succ]
      obtain ⟨later, hlater⟩ : ∃ later, time.after? interval = some later := by
        refine Option.ne_none_iff_exists'.1 fun hnone => ?_
        have beyond := Instant.after?_eq_none_iff.1 hnone
        have within := next.inSpan
        omega
      have hsum := Instant.after?_eq_some_iff.1 hlater
      cases rounds with
      | zero => rfl
      | succ rounds =>
          simp only [catchUp, if_pos passed, hlater, ih (hsum.trans sum) (by omega) rounds,
            Nat.succ_lt_succ_iff]

/-- **The loop ends after as many rounds as times were missed**, and not before. -/
theorem catchUp_eq (pos : 0 < interval.nanos) (late : due ≤ now) {next first : Instant}
    (hnext : next.nanos = tickAt due interval (missed interval now due + 1))
    (hfirst : due.after? interval = some first) (rounds : Nat) :
    catchUp interval now rounds first = if missed interval now due < rounds then some (some next) else none := by
  refine catchUp_from pos late hnext (k := 0) ?_ (Nat.zero_add _) rounds
  rw [Instant.after?_eq_some_iff.1 hfirst, tickAt, Nat.mul_one]

/-- The time at which a script is due again is one of its cadence, and that before it has passed. -/
theorem nextTick?_nanos {pos : 0 < interval.nanos} {time tick : Instant} {k : Nat}
    (htime : time.nanos = tickAt due interval (k + 1)) (before : tickAt due interval k ≤ now.nanos)
    (next : nextTick? interval pos now time = some tick) :
    ∃ j, tickAt due interval j ≤ now.nanos ∧ tick.nanos = tickAt due interval (j + 1) := by
  fun_induction nextTick? interval pos now time generalizing k with
  | case1 time passed later added ih =>
      have sum : later.nanos = tickAt due interval (k + 1 + 1) := by
        rw [Instant.after?_eq_some_iff.1 added, htime, ← tickAt_succ]
      exact ih sum (htime ▸ passed) next
  | case2 time passed none => cases next
  | case3 time later =>
      cases next
      exact ⟨k, before, htime⟩

/-! ### One job -/

namespace Entry

variable {e : Entry} {script : Script} {inputs : Inputs} {pos : 0 < interval.nanos}

/-- **When a script is due again**: at the first time of its cadence that is still to come, if the clock comes
to that. -/
theorem again?_of_periodic (job : e.job = .periodic script inputs interval pos) (late : e.due ≤ now)
    {again : List Entry} :
    e.again? now = some again ↔
      ∃ next : Instant, next.nanos = tickAt e.due interval (missed interval now e.due + 1) ∧
        again = [{ e with due := next }] := by
  have late' : e.due.nanos ≤ now.nanos := late
  have first : ∀ {t}, e.due.after? interval = some t → t.nanos = tickAt e.due interval (0 + 1) := by
    intro t added
    rw [Instant.after?_eq_some_iff.1 added, tickAt, Nat.zero_add, Nat.mul_one]
  simp only [again?, job, Option.map_eq_some_iff, Option.bind_eq_some_iff]
  constructor
  · rintro ⟨next, ⟨t, added, loop⟩, rfl⟩
    obtain ⟨j, passed, is⟩ := nextTick?_nanos (first added) (by simpa [tickAt] using late') loop
    have beyond : now.nanos < next.nanos := lt_of_nextTick? loop
    have last : missed interval now e.due = j := by
      rw [is] at beyond
      unfold tickAt at passed beyond
      refine Nat.div_eq_of_lt_le ?_ ?_
      · rw [Nat.mul_comm]
        omega
      · rw [Nat.mul_comm]
        omega
    exact ⟨next, by rw [is, last], rfl⟩
  · rintro ⟨next, is, rfl⟩
    obtain ⟨t, added⟩ : ∃ t, e.due.after? interval = some t := by
      refine Option.ne_none_iff_exists'.1 fun hnone => ?_
      have beyond := Instant.after?_eq_none_iff.1 hnone
      have within := next.inSpan
      have least : interval.nanos ≤ interval.nanos * (missed interval now e.due + 1) :=
        Nat.le_mul_of_pos_right _ (Nat.succ_pos _)
      unfold tickAt at is
      omega
    have loop := catchUp_eq pos late is added (missed interval now e.due + 1)
    rw [if_pos (Nat.lt_succ_self _)] at loop
    exact ⟨next, ⟨t, added, nextTick?_of_catchUp pos loop⟩, rfl⟩

theorem first_of_again? (job : e.job = .periodic script inputs interval pos) {again : List Entry}
    (still : e.again? now = some again) : ∃ first, e.due.after? interval = some first := by
  simp only [again?, job, Option.map_eq_some_iff, Option.bind_eq_some_iff] at still
  obtain ⟨_, ⟨first, added, _⟩, _⟩ := still
  exact ⟨first, added⟩

theorem again?_eq_none_iff (job : e.job = .periodic script inputs interval pos) (late : e.due ≤ now) :
    e.again? now = none ↔ clockSpan ≤ tickAt e.due interval (missed interval now e.due + 1) := by
  rw [Option.eq_none_iff_forall_ne_some]
  constructor
  · intro never
    by_contra within
    exact never _ ((again?_of_periodic job late).2 ⟨⟨_, Nat.lt_of_not_le within⟩, rfl, rfl⟩)
  · intro beyond again still
    obtain ⟨next, is, _⟩ := (again?_of_periodic job late).1 still
    exact absurd next.inSpan (Nat.not_lt.2 (is ▸ beyond))

end Entry

/-- Whatever comes of the run, the script is held on, and once. -/
theorem files_recurring {n : Nat} {e : Entry} {u : Upshot} {new : List Entry}
    (files : e.files? now n u = some new) :
    List.Forall₂ (fun e d => e.again? now = some [d]) ([e].filter fun e => !e.job.isRun)
      (new.filter fun d => !d.job.isRun) := by
  obtain ⟨again, still, parked⟩ := Entry.files?_eq_some files
  have own : new.filter (fun d => !d.job.isRun) = again.filter fun d => !d.job.isRun := by
    rcases parked with ⟨_, rfl⟩ | ⟨s, due, rfl, _, rfl⟩
    · rfl
    · simp [Suspension.entry, Job.isRun]
  rw [own]
  rcases Entry.again?_eq_some still with ⟨run, rfl⟩ | ⟨script, due, _, rfl⟩
  · simp [run]
  · simpa [script] using still

theorem filed_recurring {n : Nat} {log : List (Entry × Upshot)} {new : List Entry}
    (filed : filed? now n log = some new) :
    List.Forall₂ (fun e d => e.again? now = some [d]) ((log.map Prod.fst).filter fun e => !e.job.isRun)
      (new.filter fun d => !d.job.isRun) := by
  induction log generalizing n new with
  | nil =>
      cases filed
      exact .nil
  | cons x log ih =>
      obtain ⟨e, u⟩ := x
      obtain ⟨front, back, files, later, rfl⟩ := filed?_cons filed
      rw [List.map_cons, ← List.singleton_append, List.filter_append, List.filter_append]
      exact List.rel_append (files_recurring files) (ih later)

/-- A script that was executed is filed as it is due again. -/
theorem exists_again_of_filed {n : Nat} {log : List (Entry × Upshot)} {new : List Entry} {e : Entry}
    (filed : filed? now n log = some new) (executed : e ∈ log.map Prod.fst) (script : e.job.isRun = false) :
    ∃ d ∈ new, e.again? now = some [d] ∧ d.id = e.id ∧ d.job = e.job := by
  obtain ⟨x, among, rfl⟩ := List.mem_map.1 executed
  obtain ⟨m, own, _, _, files, all⟩ := files_of_mem filed among
  obtain ⟨again, still, parked⟩ := Entry.files?_eq_some files
  rcases Entry.again?_eq_some still with ⟨run, _⟩ | ⟨_, next, _, rfl⟩
  · rw [script] at run
    cases run
  · refine ⟨{ x.1 with due := next }, all ?_, still, rfl, rfl⟩
    rcases parked with ⟨_, rfl⟩ | ⟨s, d, _, _, rfl⟩ <;> simp

namespace Scheduler

variable {c : Scheduler}

/-- The scripts that are run at intervals. -/
def recurring (c : Scheduler) : List Entry := c.entries.filter fun e => !e.job.isRun

/-- **What becomes of the scripts that are run at intervals** by a call that does not break down: those that are
not due are left as they are, and each of the others is held on, due again. -/
theorem recurring_runReady {fuel : Nat} {h : Host} (sound : (c.runReady fuel h now).1.isSome = true) :
    ∃ advanced, (c.runReady fuel h now).2.1.recurring =
        (c.recurring.filter fun e => !decide (e.due ≤ now)) ++ advanced ∧
      List.Forall₂ (fun e d => e.again? now = some [d]) (c.recurring.filter fun e => decide (e.due ≤ now))
        advanced := by
  obtain ⟨log, new, g, _, filed, ends⟩ := runReady_log fuel c h now
  rcases ends with ⟨jobs, result⟩ | ⟨e, rest, n, f, _, _, _, result⟩
  · refine ⟨new.filter fun d => !d.job.isRun, ?_, ?_⟩
    · rw [result]
      simp only [recurring, pending, List.filter_append, List.filter_filter, Bool.and_comm]
    · have each := filed_recurring filed
      rw [jobs] at each
      simpa only [ready, recurring, List.filter_filter, Bool.and_comm] using each
  · rw [result] at sound
    cases sound

/-- A script that is due at a call is filed, unless it has no turn since the call breaks down. -/
theorem again_of_held {fuel : Nat} {h : Host} (num : c.Numbered) {e e' : Entry} (mem : e ∈ c.recurring)
    (late : e.due ≤ now) (num' : (c.runReady fuel h now).2.1.Numbered)
    (mem' : e' ∈ (c.runReady fuel h now).2.1.entries) (same : e'.id = e.id) : e.again? now = some [e'] := by
  obtain ⟨held, script⟩ := List.mem_filter.1 mem
  obtain ⟨log, new, g, executes, filed, ends⟩ := runReady_log fuel c h now
  obtain ⟨others, jobs, table⟩ : ∃ others, c.ready now = log.map Prod.fst ++ others ∧
      (c.runReady fuel h now).2.1.entries = c.pending now ++ new := by
    rcases ends with ⟨jobs, result⟩ | ⟨e, rest, n, f, jobs, _, _, result⟩
    · exact ⟨[], by rw [jobs, List.append_nil], by rw [result]⟩
    · exact ⟨e :: rest, jobs, by rw [result]⟩
  have due : e ∈ log.map Prod.fst ++ others := jobs ▸ mem_ready.2 ⟨held, late⟩
  rcases List.mem_append.1 due with executed | left
  · obtain ⟨d, new, again, same', _⟩ := exists_again_of_filed filed executed (by simpa using script)
    rw [again, num'.eq_of_id mem' (table ▸ List.mem_append_right _ new) (same.trans same'.symm)]
  · -- what has no turn is not held afterwards
    have apart := filed_accounts jobs executes filed
    have nodup := (apart.nodup_iff).2 (num.nodup_issued (List.pairwise_lt_range' ..)
      fun id mem => (List.mem_range'_1.1 mem).1)
    refine absurd rfl ((List.nodup_append.1 nodup).2.2 e.id ?_ e.id ?_)
    · rw [← same]
      exact List.mem_map_of_mem (table ▸ mem')
    · exact List.mem_append_right _ (List.mem_map_of_mem left)

/-! ### What becomes of one job -/

/-- No operation brings back an id that was handed out and is not held. -/
theorem Op.mem_ids_of_apply (num : c.Numbered) (op : Op) {id : Nat} (old : id < c.nextId)
    (held : id ∈ (op.apply c).ids) : id ∈ c.ids := by
  have acc := op.accounts num
  have known : id ∈ c.ids ++ op.issues c := acc.perm.subset (List.mem_append_left _ held)
  rcases List.mem_append.1 known with before | new
  · exact before
  · exact absurd (acc.new id new).1 (Nat.not_le.2 old)

/-- The job is due at the operation, which is a call. -/
def Op.Runs (op : Op) (e : Entry) : Prop := ∃ fuel h now, op = .runReady fuel h now ∧ e.due ≤ now

/-- **What becomes of a script that is run at intervals**: as long as it is held, it is left as it is, or it
is executed and is due again at a later time of its cadence. -/
theorem Op.becomes (num : c.Numbered) {op : Op} (num' : (op.apply c).Numbered) {e e' : Entry}
    (mem : e ∈ c.recurring) (mem' : e' ∈ (op.apply c).entries) (same : e'.id = e.id) :
    (¬ op.Runs e ∧ e' = e) ∨
      ∃ fuel h now, op = .runReady fuel h now ∧ e.due ≤ now ∧ e.again? now = some [e'] := by
  have held := (List.mem_filter.1 mem).1
  by_cases runs : op.Runs e
  · obtain ⟨fuel, h, now, rfl, late⟩ := runs
    exact .inr ⟨fuel, h, now, rfl, late, again_of_held num mem late num' mem' same⟩
  · refine .inl ⟨runs, ?_⟩
    rcases op.mem_apply held with still | retired | executed
    · exact num'.eq_of_id mem' still same
    · -- what is done with is not held
      have apart := (List.nodup_append.1 ((op.accounts num).nodup num)).2.2
      exact absurd rfl (apart _ (same ▸ mem_ids mem') _ (List.mem_append_left _ retired))
    · exact absurd executed runs

/-! ### Histories -/

/-- The times for which the job of an id is due at an operation, if that is a call. -/
def Op.ticks (c : Scheduler) (id : Nat) : Op → List Instant
  | runReady _ _ now => (c.entries.filter fun e => e.id == id && decide (e.due ≤ now)).map Entry.due
  | _ => []

/-- **The times for which the job of an id is due at calls** among operations one after the other. -/
def ticks (id : Nat) : Scheduler → List Op → List Instant
  | _, [] => []
  | c, op :: ops => op.ticks c id ++ ticks id (op.apply c) ops

/-- The scheduler after operations one after the other. -/
def after (c : Scheduler) (ops : List Op) : Scheduler := ops.foldl (fun c op => op.apply c) c

/-- The operations are calls that execute what is due, and none of them breaks down. -/
def SoundCalls : Scheduler → List Op → Prop
  | _, [] => True
  | c, op :: ops => (∃ fuel h now, op = .runReady fuel h now) ∧ op.breaks c = false ∧ SoundCalls (op.apply c) ops

/-- There is one job of an id, and it alone is executed under it. -/
theorem Numbered.filter_id (num : c.Numbered) {e : Entry} (held : e ∈ c.entries) (p : Entry → Bool) :
    (c.entries.filter fun d => d.id == e.id && p d) = if p e then [e] else [] := by
  have distinct : c.entries.Nodup := num.nodup.of_map
  split
  · rename_i passes
    refine List.perm_singleton.1 ((List.perm_ext_iff_of_nodup (distinct.filter _) (List.nodup_singleton e)).2
      fun d => ?_)
    simp only [List.mem_filter, Bool.and_eq_true, beq_iff_eq, List.mem_singleton]
    constructor
    · rintro ⟨mem, same, _⟩
      exact num.eq_of_id mem held same
    · rintro rfl
      exact ⟨held, rfl, passes⟩
  · rename_i fails
    refine List.filter_eq_nil_iff.2 fun d mem both => fails ?_
    simp only [Bool.and_eq_true, beq_iff_eq] at both
    rw [← num.eq_of_id mem held both.1]
    exact both.2

theorem Op.ticks_of_runs (num : c.Numbered) {op : Op} {e : Entry} (held : e ∈ c.entries) (runs : op.Runs e) :
    op.ticks c e.id = [e.due] := by
  obtain ⟨fuel, h, now, rfl, late⟩ := runs
  rw [Op.ticks, num.filter_id held fun d => decide (d.due ≤ now), if_pos (by simpa using late)]
  rfl

theorem Op.ticks_of_not_runs (num : c.Numbered) {op : Op} {e : Entry} (held : e ∈ c.entries)
    (rests : ¬ op.Runs e) : op.ticks c e.id = [] := by
  cases op with
  | runReady fuel h now =>
      have early : ¬ e.due ≤ now := fun late => rests ⟨fuel, h, now, rfl, late⟩
      rw [Op.ticks, num.filter_id held fun d => decide (d.due ≤ now), if_neg (by simpa using early)]
      rfl
  | _ => rfl

theorem Op.ticks_of_not_held (op : Op) {id : Nat} (gone : id ∉ c.ids) : op.ticks c id = [] := by
  cases op with
  | runReady fuel h now =>
      have hnone : (c.entries.filter fun e => e.id == id && decide (e.due ≤ now)) = [] := by
        refine List.filter_eq_nil_iff.2 fun e mem both => gone ?_
        simp only [Bool.and_eq_true, beq_iff_eq] at both
        exact both.1 ▸ mem_ids mem
      rw [Op.ticks, hnone]
      rfl
  | _ => rfl

/-- **The job of the id keeps the cadence**: if it is held, it is a script that is run at that interval, and it
is due at a time of the cadence after the given one. -/
def OnCadence (start : Instant) (interval : Duration) (id last : Nat) (c : Scheduler) : Prop :=
  ∀ e ∈ c.entries, e.id = id →
    (∃ script inputs pos, e.job = .periodic script inputs interval pos) ∧
      ∃ k, last < k ∧ e.due.nanos = tickAt start interval k

variable {start : Instant} {id last : Nat}

/-- **One operation keeps the cadence.**  The job is not due, or it is due for a later time of the cadence than
before. -/
theorem OnCadence.step (on : c.OnCadence start interval id last) (num : c.Numbered) {op : Op}
    (num' : (op.apply c).Numbered) (old : id < c.nextId) :
    (op.ticks c id = [] ∧ (op.apply c).OnCadence start interval id last) ∨
      ∃ k, last < k ∧ (op.ticks c id).map Instant.nanos = [tickAt start interval k] ∧
        (op.apply c).OnCadence start interval id k := by
  by_cases held : id ∈ c.ids
  · obtain ⟨e, mem, rfl⟩ := List.mem_map.1 held
    obtain ⟨⟨script, inputs, pos, job⟩, k, later, due⟩ := on e mem rfl
    have recurs : e ∈ c.recurring := List.mem_filter.2 ⟨mem, by simp [job, Job.isRun]⟩
    by_cases runs : op.Runs e
    · refine .inr ⟨k, later, by rw [op.ticks_of_runs num mem runs, ← due]; rfl, fun e' mem' same => ?_⟩
      rcases Op.becomes num num' recurs mem' same with ⟨rests, _⟩ | ⟨_, _, now, _, late, again⟩
      · exact absurd runs rests
      · obtain ⟨next, is, held⟩ := (Entry.again?_of_periodic job late).1 again
        cases held
        refine ⟨⟨script, inputs, pos, job⟩, k + (missed interval now e.due + 1), by omega, ?_⟩
        rw [← tickAt_add due]
        exact is
    · refine .inl ⟨op.ticks_of_not_runs num mem runs, fun e' mem' same => ?_⟩
      rcases Op.becomes num num' recurs mem' same with ⟨_, rfl⟩ | ⟨fuel, h, now, is, late, _⟩
      · exact on e' mem rfl
      · exact absurd ⟨fuel, h, now, is, late⟩ runs
  · refine .inl ⟨op.ticks_of_not_held held, fun e' mem' same => absurd ?_ held⟩
    exact op.mem_ids_of_apply num old (same ▸ mem_ids mem')

/-- **A job is executed for later and later times of its cadence**, and is due at a time that is later still. -/
theorem ticks_keep_cadence {l : Ledger} (sound : l.Sound) (old : id < l.scheduler.nextId)
    (on : l.scheduler.OnCadence start interval id last) (ops : List Op) :
    ∃ ks : List Nat, (l.scheduler.ticks id ops).map Instant.nanos = ks.map (tickAt start interval) ∧
      (last :: ks).Pairwise (· < ·) ∧
      ∃ top, (∀ k ∈ last :: ks, k ≤ top) ∧ (l.scheduler.after ops).OnCadence start interval id top := by
  induction ops generalizing l last with
  | nil => exact ⟨[], rfl, List.pairwise_singleton .., last, by simp, on⟩
  | cons op ops ih =>
      have old' : id < (l.after op).scheduler.nextId := Nat.lt_of_lt_of_le old (op.accounts sound.numbered).nextId
      rcases on.step sound.numbered (sound.after op).numbered old with ⟨hnone, on'⟩ | ⟨k, later, one, on'⟩
      · obtain ⟨ks, times, increase, rest⟩ := ih (sound.after op) old' on'
        refine ⟨ks, ?_, increase, rest⟩
        rw [ticks, hnone, List.nil_append]
        exact times
      · obtain ⟨ks, times, increase, top, most, on''⟩ := ih (sound.after op) old' on'
        have beyond : ∀ j ∈ ks, k < j := (List.pairwise_cons.1 increase).1
        refine ⟨k :: ks, ?_, List.pairwise_cons.2 ⟨?_, increase⟩, top, ?_, on''⟩
        · rw [ticks, List.map_append, one, List.map_cons, List.singleton_append]
          exact congrArg _ times
        · intro j mem
          rcases List.mem_cons.1 mem with rfl | mem
          · exact later
          · exact Nat.lt_trans later (beyond j mem)
        · intro j mem
          rcases List.mem_cons.1 mem with rfl | mem
          · exact Nat.le_trans (Nat.le_of_lt later) (most k List.mem_cons_self)
          · exact most j mem

/-- A script that is run at intervals is held on after a call that does not break down. -/
theorem held_after_call {fuel : Nat} {h : Host} (sound : (c.runReady fuel h now).1.isSome = true) {e : Entry}
    (mem : e ∈ c.recurring) : ∃ d ∈ (c.runReady fuel h now).2.1.recurring, d.id = e.id ∧
      (e.due ≤ now → e.again? now = some [d]) := by
  obtain ⟨held, script⟩ := List.mem_filter.1 mem
  obtain ⟨log, new, g, _, filed, ends⟩ := runReady_log fuel c h now
  rcases ends with ⟨jobs, result⟩ | ⟨_, _, _, _, _, _, _, result⟩
  · rw [result]
    by_cases late : e.due ≤ now
    · obtain ⟨d, there, again, same, job⟩ := exists_again_of_filed filed
        (jobs ▸ mem_ready.2 ⟨held, late⟩) (by simpa using script)
      exact ⟨d, List.mem_filter.2 ⟨List.mem_append_right _ there, job ▸ script⟩, same, fun _ => again⟩
    · have pending := List.mem_append_left new (mem_pending.2 ⟨held, late⟩)
      exact ⟨e, List.mem_filter.2 ⟨pending, script⟩, rfl, fun due => absurd due late⟩
  · rw [result] at sound
    cases sound

/-- Calls that do not break down do not do away with a script that is run at intervals. -/
theorem recurring_after_calls {ops : List Op} (calls : c.SoundCalls ops)
    (held : ∃ e ∈ c.recurring, e.id = id) : ∃ e ∈ (c.after ops).recurring, e.id = id := by
  induction ops generalizing c with
  | nil => exact held
  | cons op ops ih =>
      obtain ⟨e, mem, rfl⟩ := held
      obtain ⟨⟨fuel, h, now, rfl⟩, sound, calls⟩ := calls
      have hsome : (c.runReady fuel h now).1.isSome = true := by simpa [Op.breaks] using sound
      obtain ⟨d, there, same, _⟩ := held_after_call hsome mem
      exact ih calls ⟨d, there, same⟩

/-! ### Registration -/

theorem addPeriodic_eq_noInterval_iff {script : Script} {inputs : Inputs} :
    (c.addPeriodic script inputs now).1 = .noInterval ↔ script.triggers.interval = 0 := by
  rcases c.addPeriodic_cases script inputs now with ⟨zero, same⟩ | ⟨pos, ⟨_, broke⟩ | ⟨_, _, held⟩⟩
  · simp [same, zero]
  · simp [broke, pos]
  · simp [held, pos]

/-- A script that is registered has an interval, and is due for the first time when it is complete. -/
theorem addPeriodic_eq_held {script : Script} {inputs : Inputs} {d : Scheduler}
    (added : c.addPeriodic script inputs now = (.held id, d)) :
    ∃ pos first, id = c.nextId ∧ d.nextId = c.nextId + 1 ∧
      first.nanos = tickAt now (.ofSeconds script.triggers.interval) 1 ∧
      d.entries = c.entries ++ [⟨id, .periodic script inputs (.ofSeconds script.triggers.interval) pos, first⟩] := by
  rcases c.addPeriodic_cases script inputs now with ⟨_, same⟩ | ⟨pos, ⟨_, broke⟩ | ⟨first, later, held⟩⟩
  · rw [same] at added
    cases added
  · rw [broke] at added
    cases added
  · rw [held] at added
    cases added
    refine ⟨_, first, rfl, rfl, ?_, rfl⟩
    rw [Instant.after?_eq_some_iff.1 later, tickAt, Nat.mul_one]

/-- **A script that was registered keeps the cadence that begins then.**  Whatever is done later, it is due only
at times of that cadence, each of them later than the one before, and the next is later than all of these.  Calls
that do not break down do not do away with it. -/
theorem registered_keeps_cadence {past later : List Op} {script : Script} {inputs : Inputs} {d : Scheduler}
    (added : (Ledger.ofOps past).scheduler.addPeriodic script inputs start = (.held id, d)) :
    ∃ ks : List Nat, (d.ticks id later).map Instant.nanos =
        ks.map (tickAt start (.ofSeconds script.triggers.interval)) ∧
      (∀ k ∈ ks, 0 < k) ∧ ks.Pairwise (· < ·) ∧
      (∀ e ∈ (d.after later).entries, e.id = id →
        ∃ k, 0 < k ∧ (∀ j ∈ ks, j < k) ∧
          e.due.nanos = tickAt start (.ofSeconds script.triggers.interval) k) ∧
      (d.SoundCalls later → ∃ e ∈ (d.after later).entries, e.id = id) := by
  obtain ⟨pos, first, is, nextId, due, entries⟩ := addPeriodic_eq_held added
  let l := (Ledger.ofOps past).after (.addPeriodic script inputs start)
  have sound : l.Sound := (Ledger.sound_ofOps past).after _
  obtain rfl : d = l.scheduler := (congrArg Prod.snd added).symm
  have on : l.scheduler.OnCadence start (.ofSeconds script.triggers.interval) id 0 := by
    intro e mem same
    rw [entries] at mem
    rcases List.mem_append.1 mem with before | new
    · -- the id is new, so that no other job has it
      have less := (Ledger.sound_ofOps past).numbered.lt e.id (mem_ids before)
      omega
    · obtain rfl := List.mem_singleton.1 new
      exact ⟨⟨script, inputs, pos, rfl⟩, 1, Nat.one_pos, due⟩
  obtain ⟨ks, times, increase, top, most, kept⟩ := ticks_keep_cadence sound (by omega) on later
  obtain ⟨positive, increase⟩ := List.pairwise_cons.1 increase
  refine ⟨ks, times, positive, increase, fun e mem same => ?_, fun calls => ?_⟩
  · obtain ⟨_, k, beyond, due⟩ := kept e mem same
    exact ⟨k, by omega, fun j among => Nat.lt_of_le_of_lt (most j (List.mem_cons_of_mem _ among)) beyond, due⟩
  · have held : ∃ e ∈ l.scheduler.recurring, e.id = id :=
      ⟨_, List.mem_filter.2 ⟨by rw [entries]; exact List.mem_append_right _ List.mem_cons_self, rfl⟩, rfl⟩
    obtain ⟨e, mem, same⟩ := recurring_after_calls calls held
    exact ⟨e, (List.mem_filter.1 mem).1, same⟩

/-- A call at which the clock does not come to the next time of a script breaks down. -/
theorem runReady_eq_none_of_overdue {e : Entry} (due : e ∈ c.ready now) (never : e.again? now = none) (fuel : Nat)
    (h : Host) : (c.runReady fuel h now).1 = none := by
  obtain ⟨log, new, g, _, filed, ends⟩ := runReady_log fuel c h now
  rcases ends with ⟨jobs, _⟩ | ⟨_, _, _, _, _, _, _, result⟩
  · rw [← jobs] at due
    obtain ⟨⟨_, u⟩, among, rfl⟩ := List.mem_map.1 due
    obtain ⟨m, own, _, _, files, _⟩ := files_of_mem filed among
    obtain ⟨again, still, _⟩ := Entry.files?_eq_some files
    rw [never] at still
    cases still
  · rw [result]

/-- **A script that is run at intervals keeps its cadence.**  A call that does not break down starts one run of
each such script that is due, and it is due again at the first time of its cadence that is still to come, which a
loop finds in as many rounds as times were missed.  So over any operations a script is due at later and later times
of the cadence that begins with its registration.  Without an interval it is not registered. -/
theorem periodic_cadence (c : Scheduler) (fuel : Nat) (h : Host) (now : Instant) :
    ((c.runReady fuel h now).1.isSome = true →
      (∃ log advanced, log.map Prod.fst = c.ready now ∧ Executes fuel h log (c.runReady fuel h now).2.2 ∧
        (c.runReady fuel h now).2.1.recurring =
          (c.recurring.filter fun e => !decide (e.due ≤ now)) ++ advanced ∧
        List.Forall₂ (fun e d => e.again? now = some [d]) (c.recurring.filter fun e => decide (e.due ≤ now))
          advanced) ∧
      ∀ e ∈ c.ready now, ∀ script inputs interval pos, e.job = .periodic script inputs interval pos →
        ∃ next first : Instant,
          next.nanos =
            e.due.nanos + interval.nanos * ((now.nanos - e.due.nanos) / interval.nanos + 1) ∧
          e.again? now = some [{ e with due := next }] ∧
          { e with due := next } ∈ (c.runReady fuel h now).2.1.entries ∧
          IsLeast {t | now.nanos < t ∧ ∃ k, 0 < k ∧ t = tickAt e.due interval k} next.nanos ∧
          e.due.after? interval = some first ∧
          ∀ rounds, catchUp interval now rounds first =
            if (now.nanos - e.due.nanos) / interval.nanos < rounds then some (some next) else none) ∧
    (∀ e ∈ c.ready now, ∀ script inputs interval pos, e.job = .periodic script inputs interval pos →
      clockSpan ≤ e.due.nanos + interval.nanos * ((now.nanos - e.due.nanos) / interval.nanos + 1) →
      (c.runReady fuel h now).1 = none) ∧
    (∀ past later script inputs start id d,
      (Ledger.ofOps past).scheduler.addPeriodic script inputs start = (.held id, d) →
      ∃ ks : List Nat, (d.ticks id later).map Instant.nanos =
          ks.map (tickAt start (.ofSeconds script.triggers.interval)) ∧
        (∀ k ∈ ks, 0 < k) ∧ ks.Pairwise (· < ·) ∧
        (∀ e ∈ (d.after later).entries, e.id = id →
          ∃ k, 0 < k ∧ (∀ j ∈ ks, j < k) ∧
            e.due.nanos = tickAt start (.ofSeconds script.triggers.interval) k) ∧
        (d.SoundCalls later → ∃ e ∈ (d.after later).entries, e.id = id)) ∧
    (∀ script inputs start, (c.addPeriodic script inputs start).1 = .noInterval ↔
      script.triggers.interval = 0) ∧
    ∀ time ≤ now, ∀ rounds, catchUp .zero now rounds time = none := by
  refine ⟨fun sound => ⟨?_, fun e mem script inputs interval pos job => ?_⟩,
    fun e mem script inputs interval pos job beyond => ?_,
    fun _ _ _ _ _ _ _ added => registered_keeps_cadence added, fun _ _ _ => addPeriodic_eq_noInterval_iff,
    fun _ passed rounds => catchUp_of_zero passed rounds⟩
  · obtain ⟨advanced, table, each⟩ := recurring_runReady sound
    obtain ⟨log, new, g, executes, _, ends⟩ := runReady_log fuel c h now
    rcases ends with ⟨jobs, result⟩ | ⟨_, _, _, _, _, _, _, result⟩
    · exact ⟨log, advanced, jobs, by rw [result]; exact executes, table, each⟩
    · rw [result] at sound
      cases sound
  · obtain ⟨held, late⟩ := mem_ready.1 mem
    have recurs : e ∈ c.recurring := List.mem_filter.2 ⟨held, by simp [job, Job.isRun]⟩
    obtain ⟨d, there, _, again⟩ := held_after_call sound recurs
    obtain ⟨next, is, one⟩ := (Entry.again?_of_periodic job late).1 (again late)
    cases one
    obtain ⟨first, added⟩ := e.first_of_again? job (again late)
    exact ⟨next, first, is, again late, (List.mem_filter.1 there).1, is ▸ isLeast_tickAt pos late, added,
      catchUp_eq pos late is added⟩
  · obtain ⟨_, late⟩ := mem_ready.1 mem
    exact runReady_eq_none_of_overdue mem ((Entry.again?_eq_none_iff job late).2 beyond) fuel h

/-- A script that is run once a minute. -/
def minutely : Script :=
  { triggers := { interval := 60 }, statements := #[.finish] }

/-- Registered at the beginning and not called before 350 seconds have passed, it is run once for the five
minutes that were missed, and is due again after six minutes. -/
theorem periodic_cadence_late :
    ∃ id c e next, ({} : Scheduler).addPeriodic minutely {} .beginning = (.held id, c) ∧ c.entries = [e] ∧
      (c.ticks id [.runReady 5 {} (.ofDuration (.ofSeconds 350))]).map Instant.nanos =
        [(Duration.ofSeconds 60).nanos] ∧
      next.nanos = (Duration.ofSeconds 360).nanos ∧
      { e with due := next } ∈ (c.runReady 5 {} (.ofDuration (.ofSeconds 350))).2.1.entries := by
  obtain ⟨id, c, e, added, entries, job, due, ticks, sound⟩ :
      ∃ id c e, ({} : Scheduler).addPeriodic minutely {} .beginning = (.held id, c) ∧ c.entries = [e] ∧
        e.job = .periodic minutely {} (.ofSeconds 60) (by decide) ∧ e.due = .ofDuration (.ofSeconds 60) ∧
        c.ticks id [.runReady 5 {} (.ofDuration (.ofSeconds 350))] = [.ofDuration (.ofSeconds 60)] ∧
        (c.runReady 5 {} (.ofDuration (.ofSeconds 350))).1.isSome = true :=
    ⟨_, _, _, rfl, rfl, rfl, by decide, by decide, by decide +kernel⟩
  have ready : e ∈ c.ready (.ofDuration (.ofSeconds 350)) :=
    mem_ready.2 ⟨by simp [entries], by rw [due]; decide⟩
  obtain ⟨next, _, is, _, held, _⟩ := ((periodic_cadence c 5 {} _).1 sound).2 e ready _ _ _ _ job
  refine ⟨id, c, e, next, added, entries, by rw [ticks]; decide, ?_, held⟩
  rw [is, due]
  decide

/-- A script that is run every second and sleeps for far too long. -/
def oversleeping : Script :=
  { triggers := { interval := 1 }, statements := #[.sleep (.constant (.ofText "9223372036854775807")), .finish] }

/-- Where the settings allow that, the first call breaks down and does away with it. -/
theorem oversleeping_dropped :
    let inputs : Inputs := { settings := { maxSleep := .ofSeconds 18446744073709551615 } }
    let c := (({} : Scheduler).addPeriodic oversleeping inputs .beginning).2
    let now : Instant := .ofDuration (.ofSeconds 1)
    c.ids = [1] ∧ c.ready now ≠ [] ∧ (c.runReady 5 {} now).1.isNone = true ∧ (c.runReady 5 {} now).2.1.ids = [] := by
  decide +kernel

end Scheduler

end LineScript
