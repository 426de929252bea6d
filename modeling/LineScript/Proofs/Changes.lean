import LineScript.Proofs.Alike
import LineScript.Proofs.Guarded
import LineScript.Proofs.KeyOrder
import LineScript.Proofs.Readers

/-!
**What a statement may change.**

A statement works on its session by a few small changes, one after the other: a key is read and so comes to
be there, a key is set, something is remarked on or handed to the host, the buffer is written or broadcast.
All else it does, to lists, storage, chance and the lock, does not touch values, buffer and emissions.
Here every statement is taken apart into such changes, once, with the keys that it may read and set; what
is true of each change and is kept from one to the next is then true of all statements.

Main definitions:

* `LineScript.Statement.reads`, `LineScript.Session.MaySet` — the keys that a statement reads and sets;
* `LineScript.Session.Permit` — what may be read, be set and be written;
* `LineScript.Session.Changes` — one session comes from another by permitted changes.

Main results:

* `LineScript.Session.Changes.onDesk`, `LineScript.Session.changes_granted` — desk and storage leave
  values, buffer and emissions alone;
* `LineScript.Session.exec_changes` — **a statement makes only the changes it is permitted**.
-/

set_option autoImplicit false

namespace LineScript

/-! ### Keys -/

/-- The keys that reading an operand touches. -/
def Operand.keys : Operand → List String
  | named name => if name.wildcard then [] else [name.key]
  | constant _ => []

/-- The name stands for the key: it is the key, or a wildcard that covers it. -/
def ScopedName.Covers (name : ScopedName) (key : String) : Prop :=
  if name.wildcard then KeyMap.begins name.key key = true else key = name.key

/-- The keys that a statement on lists reads. -/
def ListStatement.reads : ListStatement → List String
  | load o | get _ o | remove (some o) | filter _ o | limit o _ => o.keys
  | add source => if source.wildcard then [] else [source.key]
  | move _ _ | remove none | clear | unique _ | sort _ _ | shuffle => []

/-- The keys that a statement on storage reads. -/
def StorageStatement.reads : StorageStatement → List String
  | .open o | get _ o | has _ o | remove o | list o => o.keys
  | set key value => key.keys ++ value.keys
  | close | clear | save => []

namespace Statement

/-- **The keys that a statement reads.** -/
def reads : Statement → List String
  | fold op target operands =>
    operands.flatMap Operand.keys ++ if operands.length = 1 ∧ op ≠ .set then [target.key] else []
  | not target none => [target.key]
  | not _ (some o) => o.keys
  | jump _ condition => condition.toList.flatMap Operand.keys
  | sleep o | print o | hurl o | .match _ o _ => o.keys
  | randomize _ a b => a.keys ++ b.keys
  | clamp target a b => a.keys ++ (b.keys ++ [target.key])
  | list st => st.reads
  | storage st => st.reads
  | leap _ | finish | has _ _ | write _ | stash _ | flush | timestamp _ | drop _ => []

/-- The statement is about the buffer. -/
def isOutput : Statement → Bool
  | write _ | print _ | stash _ | flush => true
  | _ => false

end Statement

/-- The keys that tell a script where it is in the open list. -/
def ListView.cursorKeys : List String :=
  ["$list.count", "$list.lastIndex", "$list.index", "$list.hasItem", "$list.outOfBounds"]

namespace Session

/-- The statement tells the script where it is in the open list: one on lists does in any case, the one
that opens a stored list does when it succeeds. -/
def MovesCursor (s : Session) : Statement → Prop
  | .list _ => True
  | .storage (.list name) => (s.storedEffect (.list name)).1 = .ok ()
  | _ => False

/-- **The keys that a statement may set**: what its target stands for, the present time, and where the
script is in the open list. -/
inductive MaySet (s : Session) (st : Statement) (key : String) : Prop
  | target {name : ScopedName} (is : st.target? = some name) (covers : name.Covers key)
  | timestamp {format : String} (is : st = .timestamp format) (hat : key = timestampKey)
  | cursor (moves : s.MovesCursor st) (hat : key ∈ ListView.cursorKeys)

/-- What may be read and be set, and whether the buffer may be written. -/
structure Permit where
  reads : String → Prop
  sets : String → Prop
  output : Prop

/-- What a statement is permitted. -/
def permit (s : Session) (st : Statement) : Permit where
  reads key := key ∈ st.reads
  sets key := s.MaySet st key
  output := st.isOutput = true

/-- The part of a session that changes are about. -/
def visible (s : Session) : String × ValueMap × String × List Emission :=
  (s.context.script, s.values, s.context.buffer, s.host.emitted)

/-- **One session comes from another by permitted changes**, one after the other. -/
inductive Changes (p : Permit) (s : Session) : Session → Prop
  | refl : Changes p s s
  /-- a key is read -/
  | touch {t : Session} (done : Changes p s t) {key : String} (may : p.reads key) :
      Changes p s (t.setValues (t.values.touch key))
  /-- a key is set -/
  | set {t : Session} (done : Changes p s t) {key : String} (may : p.sets key) (v : Value) :
      Changes p s (t.setValues (t.values.set key v))
  | remark {t : Session} (done : Changes p s t) (r : Remark) : Changes p s (t.remark r)
  /-- values are handed to the host -/
  | hand {t : Session} (done : Changes p s t) (payload : Payload) :
      Changes p s (t.emit (.payload t.context.script payload))
  /-- the buffer is written or broadcast -/
  | output {t u : Session} (done : Changes p s t) (may : p.output) (values : u.values = t.values) :
      Changes p s u
  /-- something else changes -/
  | rest {t u : Session} (done : Changes p s t) (same : u.visible = t.visible) : Changes p s u

namespace Changes

variable {p : Permit} {s t : Session}

theorem operand (done : Changes p s t) {o : Operand} (may : ∀ key ∈ o.keys, p.reads key) :
    Changes p s (t.touch o) := by
  cases o with
  | constant v => exact done.rest rfl
  | named name =>
      cases wild : name.wildcard with
      | true =>
          simp only [Session.touch, Operand.touch, wild, if_true]
          exact done.rest rfl
      | false =>
          simp only [Session.touch, Operand.touch, wild, Bool.false_eq_true, if_false]
          exact done.touch (may name.key (by simp [Operand.keys, wild]))

theorem operands (done : Changes p s t) {os : List Operand}
    (may : ∀ key ∈ os.flatMap Operand.keys, p.reads key) : Changes p s (os.foldl Session.touch t) := by
  induction os generalizing t with
  | nil => exact done
  | cons o os ih =>
      refine ih (done.operand fun key mem => may key ?_) fun key mem => may key ?_
      · exact List.mem_flatMap.2 ⟨o, List.mem_cons_self, mem⟩
      · obtain ⟨q, among, mem⟩ := List.mem_flatMap.1 mem
        exact List.mem_flatMap.2 ⟨q, List.mem_cons_of_mem o among, mem⟩

theorem touchName (done : Changes p s t) {name : ScopedName} (may : p.reads name.key) :
    Changes p s (t.touchName name) := done.touch may

theorem assign (done : Changes p s t) {target : ScopedName} (may : p.sets target.key) (v : Value) :
    Changes p s (t.assign target v) := done.set may v

theorem setAll (done : Changes p s t) {fields : List (String × Value)}
    {name : String × Value → String} (may : ∀ f ∈ fields, p.sets (name f)) :
    Changes p s (t.setValues (fields.foldl (fun values f => values.set (name f) f.2) t.values)) := by
  induction fields generalizing t with
  | nil => exact done.rest rfl
  | cons f fields ih =>
      have first := done.set (may f List.mem_cons_self) f.2
      exact ih first fun g mem => may g (List.mem_cons_of_mem f mem)

/-- **An operation of the desk leaves values, buffer and emissions alone.** -/
theorem onDesk {α : Type} (done : Changes p s t) {f : ListDesk → Host → ListDesk.Result α}
    (blind : ListDesk.Blind f) : Changes p s (t.onDesk f).2 := by
  have kept : (f t.context.desk t.host).2.2.emitted = t.host.emitted :=
    congrArg (·.2.2.emitted) (blind t.context.desk t.host t.host.emitted)
  refine done.rest ?_
  simp only [visible, Session.onDesk, kept]
  rfl

theorem publishList (done : Changes p s t) (may : ∀ key ∈ ListView.cursorKeys, p.sets key) :
    Changes p s t.publishList := by
  simp only [ListView.cursorKeys, List.forall_mem_cons] at may
  obtain ⟨count, lastIndex, index, hasItem, outOfBounds, _⟩ := may
  exact ((((done.set count _).set lastIndex _).set index _).set hasItem _).set outOfBounds _

/-- A record is stored under keys that the target stands for. -/
theorem storeRecord (done : Changes p s t) {target : ScopedName}
    (may : ∀ key, target.Covers key → p.sets key) (r : Record) :
    Changes p s (t.storeRecord target r) := by
  unfold Session.storeRecord
  cases wild : target.wildcard with
  | true =>
      refine done.setAll fun f _ => may _ ?_
      simp only [ScopedName.Covers, wild, if_true, KeyMap.begins_iff, ScopedName.member,
        String.toList_append]
      exact List.prefix_append _ _
  | false =>
      have own : p.sets target.key := may _ (by simp [ScopedName.Covers, wild])
      simp only [Bool.false_eq_true, if_false]
      split
      · exact (done.remark _).assign own _
      · exact done.assign own _

theorem storeFound {target : ScopedName} {found : Except ListError (Option Record) × Session}
    (done : Changes p s found.2) (may : ∀ key, target.Covers key → p.sets key) :
    Changes p s (Session.storeFound target found).2 := by
  obtain ⟨result, t⟩ := found
  cases result with
  | error e => exact done
  | ok r =>
      cases r with
      | none => exact done
      | some r => exact done.storeRecord may r

end Changes

/-! ### Statements on lists -/

theorem changes_listEffect {p : Permit} (s : Session) (st : ListStatement)
    (reads : ∀ key ∈ st.reads, p.reads key)
    (sets : ∀ target, (Statement.list st).target? = some target →
      ∀ key, target.Covers key → p.sets key) : Changes p s (s.listEffect st).2 := by
  have start : Changes p s s := .refl
  cases st with
  | load name => exact (start.operand reads).onDesk (ListDesk.blind_load _)
  | get target index =>
      have found := (start.operand reads).onDesk
        (ListDesk.blind_edit fun v => v.get (s.value index).number.toInt)
      exact Changes.storeFound (found : Changes p s (_, _).2) (sets target rfl)
  | move m target =>
      exact Changes.storeFound (start.onDesk (ListDesk.blind_move m)) (sets target rfl)
  | add source =>
      have collected : Changes p s (s.collected source) := by
        unfold collected
        cases wild : source.wildcard with
        | true => exact start
        | false => exact start.touchName (reads _ (by simp [ListStatement.reads, wild]))
      simp only [listEffect]
      split
      · exact collected.remark _
      · exact collected.onDesk (ListDesk.blind_edit _)
  | remove index =>
      cases index with
      | none =>
          simp only [listEffect, ignoring]
          exact start.onDesk (ListDesk.blind_edit _)
      | some index =>
          simp only [listEffect, ignoring]
          exact (start.operand reads).onDesk (ListDesk.blind_edit _)
  | clear => exact start.onDesk (ListDesk.blind_rearrange fun _ => [])
  | filter field value => exact (start.operand reads).onDesk (ListDesk.blind_select _)
  | unique field => exact start.onDesk (ListDesk.blind_select _)
  | sort field descending => exact start.onDesk (ListDesk.blind_rearrange _)
  | shuffle => exact start.onDesk ListDesk.blind_shuffle
  | limit count last => exact (start.operand reads).onDesk (ListDesk.blind_limit _ last)

theorem changes_execList {p : Permit} (s : Session) (st : ListStatement)
    (reads : ∀ key ∈ st.reads, p.reads key)
    (sets : ∀ target, (Statement.list st).target? = some target →
      ∀ key, target.Covers key → p.sets key)
    (cursor : ∀ key ∈ ListView.cursorKeys, p.sets key) : Changes p s (s.execList st) := by
  have effect := changes_listEffect s st reads sets
  unfold execList
  generalize s.listEffect st = done at effect ⊢
  obtain ⟨_ | _, t⟩ := done
  · exact (effect.publishList cursor).remark _
  · exact effect.publishList cursor

/-! ### Statements on storage -/

theorem changes_reading {p : Permit} (s : Session) (st : StorageStatement)
    (reads : ∀ key ∈ st.reads, p.reads key) : Changes p s (s.reading st) := by
  have start : Changes p s s := .refl
  cases st with
  | close => exact start
  | clear => exact start
  | save => exact start
  | set key value =>
      have first := start.operand fun k mem => reads k (List.mem_append_left _ mem)
      exact first.operand fun k mem => reads k (List.mem_append_right _ mem)
  | _ => exact start.operand reads

/-- **Storage leaves values, buffer and emissions alone**; what follows sets the target, or tells where the
script is in a list. -/
theorem changes_granted {p : Permit} {s t u : Session} {st : StorageStatement} (done : Changes p s t)
    (sets : ∀ target, (Statement.storage st).target? = some target → p.sets target.key)
    (cursor : ∀ name, st = .list name → ∀ key ∈ ListView.cursorKeys, p.sets key)
    (granted : s.Granted t st u) : Changes p s u := by
  cases granted with
  | opens => exact done.rest rfl
  | closes => exact done.rest rfl
  | edits _ _ _ _ _ _ _ plain =>
      refine foldl_plain (P := Changes p s) plain (fun said => said.remark _) ?_ (done.rest rfl)
      intro t target v names said
      refine said.assign (sets target ?_) v
      rcases names with ⟨key, rfl⟩ | ⟨key, rfl⟩ <;> rfl
  | @lists _ _ name =>
      have opened : ∀ storage desk, Changes p s { t.setStorage storage with context.desk := desk } :=
        fun _ _ => done.rest rfl
      exact (opened _ _).publishList (cursor name rfl)

theorem changes_execStorage {p : Permit} (s : Session) (st : StorageStatement)
    (reads : ∀ key ∈ st.reads, p.reads key)
    (sets : ∀ target, (Statement.storage st).target? = some target → p.sets target.key)
    (cursor : ∀ name, st = .list name → (s.storedEffect st).1 = .ok () →
      ∀ key ∈ ListView.cursorKeys, p.sets key) : Changes p s (s.execStorage st) := by
  refine execStorage_keeps (fun said => said.remark _) .refl fun _ => ?_
  have read := changes_reading s st reads
  rcases s.storedEffect_cases st with ⟨e, _, failed⟩ | ⟨t, ready, ended⟩
  · rw [failed]
    exact read
  · have sure : Changes p s t := by
      rcases locking_eq_ok ready with rfl | ⟨_, _, _, _, _, _, rfl⟩
      · exact read
      · exact read.rest rfl
    rcases ended with ⟨e, _, failed⟩ | ⟨u, done, granted⟩
    · rw [failed]
      exact sure
    · rw [done] at cursor ⊢
      exact changes_granted sure sets (fun name is => cursor name is rfl) granted

/-! ### All statements -/

theorem changes_execFold {p : Permit} (s : Session) (op : FoldOp) (target : ScopedName)
    (operands : List Operand)
    (reads : ∀ key ∈ (Statement.fold op target operands).reads, p.reads key)
    (sets : p.sets target.key) : Changes p s (s.execFold op target operands) := by
  have read : Changes p s (operands.foldl touch s) :=
    Changes.refl.operands fun key mem => reads key (List.mem_append_left _ mem)
  -- a single operand is combined with the target, which is read for that
  have alone : Changes p s (if (operands.map s.value).length = 1 ∧ op ≠ .set
      then (operands.foldl touch s).touchName target else operands.foldl touch s) := by
    split
    · rename_i single
      rw [List.length_map] at single
      exact read.touchName (reads _ (List.mem_append_right _ (by simp [single])))
    · exact read
  unfold execFold
  dsimp only
  split
  · exact alone
  · split
    · exact alone.assign sets _
    · exact alone.remark _

/-- **A statement makes only the changes it is permitted**, unless it makes the script forget values. -/
theorem exec_changes (s : Session) {st : Statement} (keeps : ∀ name, st ≠ .drop name) :
    Changes (s.permit st) s (s.exec st).2 := by
  have start : Changes (s.permit st) s s := .refl
  have own : ∀ target, st.target? = some target → (s.permit st).sets target.key := by
    intro target is
    refine MaySet.target is ?_
    unfold ScopedName.Covers
    split
    · exact KeyMap.begins_iff.2 (List.prefix_refl _)
    · rfl
  cases st with
  | fold op target operands =>
      exact changes_execFold s op target operands (fun _ mem => mem) (own target rfl)
  | not target operand =>
      cases operand with
      | none => exact (start.touchName (by simp [permit, Statement.reads])).assign (own target rfl) _
      | some o => exact (start.operand fun _ mem => mem).assign (own target rfl) _
  | jump label condition =>
      cases condition with
      | none => exact start
      | some o => exact start.operand fun key mem => by simpa [permit, Statement.reads] using mem
  | leap labels =>
      simp only [exec, execLeap]
      split
      · exact start
      · split <;> exact start.rest rfl
  | sleep o => exact start.operand fun _ mem => mem
  | finish => exact start
  | has target name => exact start.assign (own target rfl) _
  | write text => exact start.output rfl rfl
  | print o => exact (start.operand fun _ mem => mem).output rfl rfl
  | stash target => exact (start.output (u := s.clearBuffer) rfl rfl).assign (own target rfl) _
  | flush =>
      refine start.output rfl ?_
      simp only [exec, Session.flush]
      split <;> rfl
  | randomize target a b =>
      have first := start.operand fun k mem => List.mem_append_left b.keys mem
      have both := first.operand fun k mem => List.mem_append_right a.keys mem
      have drawn : ∀ draws, Changes _ s { (s.touch a).touch b with host.draws := draws } :=
        fun _ => both.rest rfl
      exact (drawn _).assign (own target rfl) _
  | clamp target a b =>
      have first := start.operand fun k mem => List.mem_append_left (b.keys ++ [target.key]) mem
      have both := first.operand fun k mem =>
        List.mem_append_right a.keys (List.mem_append_left [target.key] mem)
      exact (both.touchName (by simp [permit, Statement.reads])).assign (own target rfl) _
  | timestamp format =>
      simp only [exec, execTimestamp]
      split
      · exact start.set (MaySet.timestamp rfl rfl) _
      · exact start.remark _
  | drop name => exact absurd rfl (keeps name)
  | «match» target o literal => exact (start.operand fun _ mem => mem).assign (own target rfl) _
  | hurl o =>
      have read : Changes (s.permit (.hurl o)) s (s.touch o) := start.operand fun _ mem => mem
      simp only [exec, execHurl]
      split
      · exact read.remark _
      · exact read.hand _
  | list st =>
      exact changes_execList s st (fun _ mem => mem) (fun _ is _ covers => .target is covers)
        fun _ mem => .cursor trivial mem
  | storage st =>
      refine changes_execStorage s st (fun _ mem => mem) own ?_
      rintro name rfl ok key mem
      exact .cursor ok mem

end Session

end LineScript
