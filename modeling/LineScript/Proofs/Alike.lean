import LineScript.Proofs.Stores

/-!
**Sessions that no statement can tell apart.**

A statement sees its session through a few operations only: it reads values, lists the set values of
a wildcard, sets, reads and drops names, and emits.  What two sessions may differ in, without any of
these showing it, is a likeness: a relation on value maps and one on what was emitted, each kept by
the operations.  Whatever the likeness, a statement makes sessions that are alike into sessions that
are alike, does the same to buffer, lists, storage and lock, and goes on in the same way.

Main definitions:

* `LineScript.Likeness` — what two sessions may differ in;
* `LineScript.Session.Alike` — sessions that differ in nothing else;
* `LineScript.Session.Paired` — equal results, and sessions that are alike;
* `LineScript.ListDesk.Blind` — an operation of the desk that does not look at what was emitted.

Main results:

* `LineScript.Session.Alike.exec` — **a statement does the same in sessions that are alike**.
-/

set_option autoImplicit false

namespace LineScript

/-- What two sessions may differ in: a relation on values that reads do not show and changes keep,
and a relation on emissions that holds on when the same is emitted after both. -/
structure Likeness where
  values : ValueMap → ValueMap → Prop
  emitted : List Emission → List Emission → Prop
  read_eq {m n : ValueMap} (h : values m n) (key : String) : n.read key = m.read key
  members_eq {m n : ValueMap} (h : values m n) (stem : String) : n.members stem = m.members stem
  set {m n : ValueMap} (h : values m n) (key : String) (v : Value) :
    values (m.set key v) (n.set key v)
  touch {m n : ValueMap} (h : values m n) (key : String) : values (m.touch key) (n.touch key)
  drop {m n : ValueMap} (h : values m n) (name : ScopedName) : values (m.drop name) (n.drop name)
  emit {es fs : List Emission} (h : emitted es fs) (e : Emission) :
    emitted (es ++ [e]) (fs ++ [e])

/-- A key is set when it reads as something with text. -/
theorem ValueMap.isSet_eq (m : ValueMap) (key : String) : m.isSet key = !(m.read key).isEmpty := by
  unfold isSet read
  cases m.get? key with
  | none => simp [Value.isEmpty, Value.empty]
  | some v => simp

namespace Likeness

variable {L : Likeness} {m n : ValueMap}

theorem has_eq (h : L.values m n) (name : ScopedName) : n.has name = m.has name := by
  rw [ValueMap.has, ValueMap.has, L.members_eq h, ValueMap.isSet_eq, ValueMap.isSet_eq, L.read_eq h]

theorem operand_value_eq (h : L.values m n) (o : Operand) : o.value n = o.value m := by
  cases o with
  | named name => simp only [Operand.value, L.read_eq h]
  | constant v => rfl

theorem operand_touch (h : L.values m n) (o : Operand) : L.values (o.touch m) (o.touch n) := by
  cases o with
  | named name =>
      simp only [Operand.touch]
      split
      · exact h
      · exact L.touch h name.key
  | constant v => exact h

theorem publish (h : L.values m n) (v : ListView) : L.values (v.publish m) (v.publish n) :=
  L.set (L.set (L.set (L.set (L.set h _ _) _ _) _ _) _ _) _ _

theorem foldl_set (h : L.values m n) (target : ScopedName) (fields : List (String × Value)) :
    L.values (fields.foldl (fun values f => values.set (target.member f.1) f.2) m)
      (fields.foldl (fun values f => values.set (target.member f.1) f.2) n) := by
  induction fields generalizing m n with
  | nil => exact h
  | cons f fields ih => exact ih (L.set h (target.member f.1) f.2)

end Likeness

/-! ### Desks do not look at emissions -/

namespace ListDesk

/-- The operation neither looks at what was emitted nor changes it. -/
def Blind {α : Type} (f : ListDesk → Host → Result α) : Prop :=
  ∀ d h emitted, f d { h with emitted } = ((f d h).1, (f d h).2.1, { (f d h).2.2 with emitted })

theorem blind_edit {α : Type} (f : ListView → Except ListError α × ListView) :
    Blind fun d h => d.edit h f := by
  rintro ⟨loaded, current, cursor, outOfBounds⟩ h emitted
  cases current with
  | none => rfl
  | some l => cases l <;> rfl

theorem blind_rearrange (f : List Record → List Record) : Blind fun d h => d.rearrange h f :=
  blind_edit _

theorem blind_select (f : List Record → List Record) : Blind fun d h => d.select h f := by
  rintro ⟨loaded, current, cursor, outOfBounds⟩ h emitted
  cases current with
  | none => rfl
  | some l => cases l <;> rfl

theorem blind_load (name : String) : Blind fun d h => d.load h name := by
  intro d h emitted
  obtain ⟨storage, catalogue, draws, clock, _⟩ := h
  simp only [load]
  split
  · rfl
  · cases d.loaded.get? name with
    | some number => rfl
    | none =>
        cases catalogue with
        | none => rfl
        | some c =>
            simp only
            split <;> rfl

theorem view_emitted (d : ListDesk) (h : Host) (emitted : List Emission) :
    d.view { h with emitted } = d.view h := by
  obtain ⟨loaded, current, cursor, outOfBounds⟩ := d
  cases current with
  | none => rfl
  | some l => cases l <;> rfl

theorem blind_move (m : CursorMove) : Blind fun d h => d.move h m := by
  rintro ⟨loaded, current, cursor, outOfBounds⟩ h emitted
  cases current with
  | none => rfl
  | some l => cases l <;> rfl

theorem blind_shuffle : Blind fun d h => d.shuffle h := by
  rintro ⟨loaded, current, cursor, outOfBounds⟩ h emitted
  cases current with
  | none => rfl
  | some l => cases l <;> rfl

theorem blind_limit (count : Int) (last : Bool) : Blind fun d h => d.limit h count last := by
  intro d h emitted
  simp only [limit]
  cases count.toNat? with
  | none => rfl
  | some n => exact blind_rearrange _ d h emitted

end ListDesk

/-! ### Sessions that are alike -/

namespace Session

/-- The session with other values and other emissions. -/
def revised (s : Session) (values : ValueMap) (emitted : List Emission) : Session :=
  { context := { s.context with values }, host := { s.host with emitted } }

/-- The sessions are equal but for values and emissions, and these differ only as the likeness
allows. -/
structure Alike (L : Likeness) (s t : Session) : Prop where
  rest : t = s.revised t.values t.host.emitted
  values : L.values s.values t.values
  emitted : L.emitted s.host.emitted t.host.emitted

/-- Two computations have equal results and leave sessions that are alike. -/
structure Paired (L : Likeness) {α : Type} (a b : α × Session) : Prop where
  result : b.1 = a.1
  session : a.2.Alike L b.2

namespace Alike

variable {L : Likeness} {s t : Session}

/-- The second session is the first one with other values and emissions. -/
theorem eq_revised (a : s.Alike L t) : ∃ values emitted, L.values s.values values ∧
    L.emitted s.host.emitted emitted ∧ t = s.revised values emitted :=
  ⟨t.values, t.host.emitted, a.values, a.emitted, a.rest⟩

/-- Sessions that are alike agree in whatever depends neither on values nor on emissions. -/
theorem congr {α : Type} (a : s.Alike L t) (f : Session → α)
    (h : ∀ (s : Session) values emitted, f (s.revised values emitted) = f s) : f t = f s := by
  rw [a.rest, h]

theorem desk_eq (a : s.Alike L t) : t.context.desk = s.context.desk :=
  a.congr (·.context.desk) fun _ _ _ => rfl

theorem lock_eq (a : s.Alike L t) : t.context.lock = s.context.lock :=
  a.congr (·.context.lock) fun _ _ _ => rfl

theorem script_eq (a : s.Alike L t) : t.context.script = s.context.script :=
  a.congr (·.context.script) fun _ _ _ => rfl

theorem buffer_eq (a : s.Alike L t) : t.context.buffer = s.context.buffer :=
  a.congr (·.context.buffer) fun _ _ _ => rfl

theorem lockWait_eq (a : s.Alike L t) : t.context.lockWait = s.context.lockWait :=
  a.congr (·.context.lockWait) fun _ _ _ => rfl

theorem settings_eq (a : s.Alike L t) : t.context.settings = s.context.settings :=
  a.congr (·.context.settings) fun _ _ _ => rfl

theorem hostStorage_eq (a : s.Alike L t) : t.host.storage = s.host.storage :=
  a.congr (·.host.storage) fun _ _ _ => rfl

theorem draws_eq (a : s.Alike L t) : t.host.draws = s.host.draws :=
  a.congr (·.host.draws) fun _ _ _ => rfl

theorem clock_eq (a : s.Alike L t) : t.host.clock = s.host.clock :=
  a.congr (·.host.clock) fun _ _ _ => rfl

/-! #### What is read -/

theorem value_eq (a : s.Alike L t) (o : Operand) : t.value o = s.value o :=
  Likeness.operand_value_eq a.values o

theorem valueOf_eq (a : s.Alike L t) (name : ScopedName) : t.valueOf name = s.valueOf name :=
  L.read_eq a.values name.key

theorem members_eq (a : s.Alike L t) (stem : String) :
    t.values.members stem = s.values.members stem :=
  L.members_eq a.values stem

theorem bounds_eq (a : s.Alike L t) (x y : Operand) : t.bounds x y = s.bounds x y := by
  simp only [bounds, a.value_eq]

theorem recordOf_eq (a : s.Alike L t) (source : ScopedName) :
    t.recordOf source = s.recordOf source := by
  simp only [recordOf, a.members_eq, a.valueOf_eq]

theorem payloadOf_eq (a : s.Alike L t) (o : Operand) : t.payloadOf o = s.payloadOf o := by
  cases o with
  | named name => simp only [payloadOf, a.members_eq, a.valueOf_eq]
  | constant v => rfl

/-! #### What is changed -/

/-- A change of the values keeps sessions alike if it keeps the maps alike. -/
theorem setValues (a : s.Alike L t) {m n : ValueMap} (h : L.values m n) :
    (s.setValues m).Alike L (t.setValues n) := by
  obtain ⟨values, emitted, _, he, rfl⟩ := a.eq_revised
  exact ⟨rfl, h, he⟩

theorem touch (a : s.Alike L t) (o : Operand) : (s.touch o).Alike L (t.touch o) :=
  a.setValues (Likeness.operand_touch a.values o)

theorem touchName (a : s.Alike L t) (name : ScopedName) :
    (s.touchName name).Alike L (t.touchName name) :=
  a.setValues (L.touch a.values name.key)

theorem assign (a : s.Alike L t) (name : ScopedName) (v : Value) :
    (s.assign name v).Alike L (t.assign name v) :=
  a.setValues (L.set a.values name.key v)

theorem foldl_touch (a : s.Alike L t) (operands : List Operand) :
    (operands.foldl Session.touch s).Alike L (operands.foldl Session.touch t) := by
  induction operands generalizing s t with
  | nil => exact a
  | cons o operands ih => exact ih (a.touch o)

theorem emit (a : s.Alike L t) (e : Emission) : (s.emit e).Alike L (t.emit e) := by
  obtain ⟨values, emitted, hv, he, rfl⟩ := a.eq_revised
  exact ⟨rfl, hv, L.emit he e⟩

theorem broadcast (a : s.Alike L t) (level : Level) (message : String) :
    (s.broadcast level message).Alike L (t.broadcast level message) := by
  unfold Session.broadcast
  rw [a.script_eq]
  exact a.emit _

theorem remark (a : s.Alike L t) (r : Remark) : (s.remark r).Alike L (t.remark r) :=
  a.broadcast r.level r.message

/-- What is done to the rest of a session, whatever its values and emissions, keeps sessions
alike. -/
theorem map (a : s.Alike L t) {f : Session → Session}
    (h : ∀ (s : Session) values emitted,
      f (s.revised values emitted) = (f s).revised values emitted)
    (hv : ∀ s : Session, (f s).values = s.values)
    (he : ∀ s : Session, (f s).host.emitted = s.host.emitted) : (f s).Alike L (f t) := by
  refine ⟨?_, ?_, ?_⟩
  · rw [hv, he, ← h, ← a.rest]
  · rw [hv, hv]
    exact a.values
  · rw [he, he]
    exact a.emitted

theorem write (a : s.Alike L t) (text : String) : (s.write text).Alike L (t.write text) :=
  a.map (f := (·.write text)) (fun _ _ _ => rfl) (fun _ => rfl) fun _ => rfl

theorem clearBuffer (a : s.Alike L t) : s.clearBuffer.Alike L t.clearBuffer :=
  a.map (f := (·.clearBuffer)) (fun _ _ _ => rfl) (fun _ => rfl) fun _ => rfl

theorem setStorage (a : s.Alike L t) (storage : Storage) :
    (s.setStorage storage).Alike L (t.setStorage storage) :=
  a.map (f := (·.setStorage storage)) (fun _ _ _ => rfl) (fun _ => rfl) fun _ => rfl

theorem setDraws (a : s.Alike L t) (draws : Draws) :
    Alike L { s with host.draws := draws } { t with host.draws := draws } :=
  a.map (f := fun s => { s with host.draws := draws }) (fun _ _ _ => rfl) (fun _ => rfl) fun _ => rfl

theorem setDesk (a : s.Alike L t) (desk : ListDesk) :
    Alike L { s with context.desk := desk } { t with context.desk := desk } :=
  a.map (f := fun s => { s with context.desk := desk }) (fun _ _ _ => rfl) (fun _ => rfl) fun _ => rfl

theorem setLock (a : s.Alike L t) (lock : Option LockToken) :
    Alike L { s with context.lock := lock } { t with context.lock := lock } :=
  a.map (f := fun s => { s with context.lock := lock }) (fun _ _ _ => rfl) (fun _ => rfl) fun _ => rfl

theorem flush (a : s.Alike L t) : s.flush.Alike L t.flush := by
  unfold Session.flush
  simp only [a.buffer_eq]
  split
  · exact a.clearBuffer
  · exact a.clearBuffer.broadcast _ _

theorem releaseLock (a : s.Alike L t) : s.releaseLock.Alike L t.releaseLock := by
  unfold Session.releaseLock
  rw [a.lock_eq, a.hostStorage_eq]
  split
  · exact a
  · split
    · exact a.setLock none
    · split
      · exact (a.setLock none).setStorage _
      · exact a.setLock none

end Alike

/-! ### Statements on lists -/

section

variable {L : Likeness} {s t : Session}

/-- Two computations with equal results, taken apart. -/
theorem Paired.cases {α : Type} {x y : α × Session} (p : Paired L x y) :
    ∃ r s t, x = (r, s) ∧ y = (r, t) ∧ s.Alike L t :=
  ⟨x.1, x.2, y.2, rfl, by rw [← p.result], p.session⟩

theorem Paired.map {α β : Type} {x y : α × Session} (p : Paired L x y) (f : α → β) :
    Paired L (f x.1, x.2) (f y.1, y.2) :=
  ⟨congrArg f p.result, p.session⟩

theorem Paired.ignoring {α : Type} {x y : Except ListError α × Session} (p : Paired L x y) :
    Paired L (ignoring x) (ignoring y) :=
  p.map fun r => r.map fun _ => ()

theorem Alike.onDesk {α : Type} (a : s.Alike L t) {f : ListDesk → Host → ListDesk.Result α}
    (blind : ListDesk.Blind f) : Paired L (s.onDesk f) (t.onDesk f) := by
  obtain ⟨values, emitted, hv, he, rfl⟩ := a.eq_revised
  -- with the emissions that are there already, blindness says that they are kept
  have kept : (f s.context.desk s.host).2.2.emitted = s.host.emitted :=
    congrArg (·.2.2.emitted) (blind s.context.desk s.host s.host.emitted)
  have other := blind s.context.desk s.host emitted
  refine ⟨congrArg (·.1) other, ?_, hv, ?_⟩
  · simp only [Session.onDesk, revised, other]
    rfl
  · simp only [Session.onDesk, revised, other, kept]
    exact he

theorem Alike.collected (a : s.Alike L t) (source : ScopedName) :
    (s.collected source).Alike L (t.collected source) := by
  unfold Session.collected
  split
  · exact a
  · exact a.touchName source

theorem Alike.storeRecord (a : s.Alike L t) (target : ScopedName) (r : Record) :
    (s.storeRecord target r).Alike L (t.storeRecord target r) := by
  unfold Session.storeRecord
  split
  · exact a.setValues (Likeness.foldl_set a.values target r.fields)
  · by_cases wide : r.size > 1
    · simp only [wide, if_true]
      exact (a.remark _).assign target _
    · simp only [wide, if_false]
      exact a.assign target _

theorem Alike.view_eq (a : s.Alike L t) : t.context.desk.view t.host = s.context.desk.view s.host := by
  rw [a.rest]
  exact ListDesk.view_emitted _ _ _

theorem Alike.breaksDown_eq (a : s.Alike L t) (st : ListStatement) : t.breaksDown st = s.breaksDown st := by
  cases st <;> simp only [breaksDown, ListDesk.sortBreaks, a.view_eq]

theorem Alike.publishList (a : s.Alike L t) : s.publishList.Alike L t.publishList := by
  unfold Session.publishList ListDesk.publish
  rw [a.view_eq]
  exact a.setValues (Likeness.publish a.values _)

theorem Paired.storeFound {x y : Except ListError (Option Record) × Session} (p : Paired L x y)
    (target : ScopedName) : Paired L (storeFound target x) (storeFound target y) := by
  obtain ⟨r, s, t, rfl, rfl, a⟩ := p.cases
  cases r with
  | error e => exact ⟨rfl, a⟩
  | ok found =>
      cases found with
      | none => exact ⟨rfl, a⟩
      | some r => exact ⟨rfl, a.storeRecord target r⟩

/-- A statement on lists has the same effect; what it reads it reads before it goes to the desk. -/
theorem Alike.listEffect (a : s.Alike L t) (st : ListStatement) :
    Paired L (s.listEffect st) (t.listEffect st) := by
  cases st with
  | load name =>
      simp only [Session.listEffect, a.value_eq]
      exact (a.touch name).onDesk (ListDesk.blind_load _)
  | get target index =>
      simp only [Session.listEffect, a.value_eq]
      have found := ((a.touch index).onDesk (ListDesk.blind_edit fun v =>
        v.get (s.value index).number.toInt)).map fun r => r.map some
      exact found.storeFound target
  | move m target =>
      simp only [Session.listEffect]
      exact (a.onDesk (ListDesk.blind_move m)).storeFound target
  | add source =>
      simp only [Session.listEffect, a.recordOf_eq]
      split
      · exact ⟨rfl, (a.collected source).remark _⟩
      · exact (a.collected source).onDesk (ListDesk.blind_edit _)
  | remove index =>
      cases index with
      | none =>
          simp only [Session.listEffect]
          exact (a.onDesk (ListDesk.blind_edit _)).ignoring
      | some index =>
          simp only [Session.listEffect, a.value_eq]
          exact ((a.touch index).onDesk (ListDesk.blind_edit _)).ignoring
  | clear => exact a.onDesk (ListDesk.blind_rearrange fun _ => [])
  | filter field value =>
      simp only [Session.listEffect, a.value_eq]
      exact (a.touch value).onDesk (ListDesk.blind_select _)
  | unique field => exact a.onDesk (ListDesk.blind_select _)
  | sort field descending => exact a.onDesk (ListDesk.blind_rearrange _)
  | shuffle => exact a.onDesk ListDesk.blind_shuffle
  | limit count last =>
      simp only [Session.listEffect, a.value_eq]
      exact (a.touch count).onDesk (ListDesk.blind_limit _ last)

theorem Alike.execList (a : s.Alike L t) (st : ListStatement) : (s.execList st).Alike L (t.execList st) := by
  obtain ⟨r, s', t', hs, ht, a'⟩ := (a.listEffect st).cases
  simp only [Session.execList, hs, ht]
  cases r with
  | ok _ => exact a'.publishList
  | error e => exact a'.publishList.remark _

/-! ### Statements on storage -/

/-- Two computations fail in the same way, or have results that are related. -/
inductive Matched {ε α : Type} (R : α → α → Prop) : Except ε α → Except ε α → Prop
  | ok {x y : α} (h : R x y) : Matched R (.ok x) (.ok y)
  | error (e : ε) : Matched R (.error e) (.error e)

theorem Alike.storage_eq (a : s.Alike L t) : t.storage = s.storage := by
  unfold Session.storage
  rw [a.hostStorage_eq]

theorem Alike.onStorage {α : Type} (a : s.Alike L t)
    (f : Storage → LockToken → Except StorageError (α × Storage)) :
    Matched (Paired L) (s.onStorage f) (t.onStorage f) := by
  unfold Session.onStorage
  rw [a.storage_eq, a.lock_eq]
  cases s.storage with
  | error e => exact Matched.error e
  | ok storage =>
      cases s.context.lock with
      | none => exact Matched.error _
      | some token =>
          simp only [bind, Except.bind]
          cases f storage token with
          | error e => exact Matched.error e
          | ok done => exact Matched.ok ⟨rfl, a.setStorage done.2⟩

theorem Alike.ensureLock (a : s.Alike L t) : Matched (Alike L) s.ensureLock t.ensureLock := by
  unfold Session.ensureLock
  rw [a.storage_eq, a.lock_eq, a.lockWait_eq]
  cases s.context.lock with
  | some token => exact Matched.ok a
  | none =>
      cases s.storage with
      | error e => exact Matched.error e
      | ok storage =>
          simp only [bind, Except.bind]
          cases storage.acquire s.context.lockWait with
          | error e => exact Matched.error e
          | ok got => exact Matched.ok ((a.setStorage got.2).setLock (some got.1))

theorem Alike.reading (a : s.Alike L t) (st : StorageStatement) : (s.reading st).Alike L (t.reading st) := by
  cases st with
  | close => exact a
  | clear => exact a
  | save => exact a
  | set key value => exact (a.touch key).touch value
  | _ => exact a.touch _

theorem Alike.locking (a : s.Alike L t) (st : StorageStatement) :
    Matched (Alike L) (s.locking st) (t.locking st) := by
  cases st with
  | «open» name => exact (a.touch name).ensureLock
  | _ => exact Matched.ok (a.reading _)

theorem Alike.request_eq (a : s.Alike L t) (st : StorageStatement) : t.request st = s.request st := by
  funext storage token
  cases st <;> simp only [Session.request, a.value_eq]

theorem Alike.foldl_after (a : s.Alike L t) (sequels : List Session.Sequel) :
    (sequels.foldl Session.Sequel.after s).Alike L (sequels.foldl Session.Sequel.after t) := by
  induction sequels generalizing s t with
  | nil => exact a
  | cons x sequels ih =>
      refine ih ?_
      cases x with
      | releases => exact a.releaseLock
      | remarks r => exact a.remark r
      | assigns target v => exact a.assign target v
      | opensList name =>
          simp only [Session.Sequel.after, Session.openedStored, a.desk_eq]
          exact (a.setDesk _).publishList

/-- A statement on storage has the same effect; its operands are read before storage is touched. -/
theorem Alike.storedEffect (a : s.Alike L t) (st : StorageStatement) :
    Paired L (s.storedEffect st) (t.storedEffect st) := by
  rw [Session.storedEffect_eq, Session.storedEffect_eq, a.request_eq]
  have ready := a.locking st
  generalize s.locking st = x at ready ⊢
  generalize t.locking st = y at ready ⊢
  cases ready with
  | error e => exact ⟨rfl, a.reading st⟩
  | @ok s' t' a' =>
      simp only [Session.granting]
      have asked := a'.onStorage (s.request st)
      generalize s'.onStorage (s.request st) = x at asked ⊢
      generalize t'.onStorage (s.request st) = y at asked ⊢
      cases asked with
      | error e => exact ⟨rfl, a'⟩
      | ok p =>
          obtain ⟨sequels, u, v, rfl, rfl, after⟩ := p.cases
          exact ⟨rfl, after.foldl_after sequels⟩

theorem Alike.execStorage (a : s.Alike L t) (st : StorageStatement) :
    (s.execStorage st).Alike L (t.execStorage st) := by
  unfold Session.execStorage
  rw [a.hostStorage_eq]
  cases s.host.storage with
  | none => exact a.remark _
  | some storage =>
      obtain ⟨r, s', t', hs, ht, a'⟩ := (a.storedEffect st).cases
      simp only [Option.isNone_some, Bool.false_eq_true, if_false, hs, ht]
      cases r with
      | ok _ => exact a'
      | error e => exact a'.remark _

/-! ### All statements -/

theorem Alike.execFold (a : s.Alike L t) (op : FoldOp) (target : ScopedName)
    (operands : List Operand) : (s.execFold op target operands).Alike L (t.execFold op target operands) := by
  have given : operands.map t.value = operands.map s.value :=
    List.map_congr_left fun o _ => a.value_eq o
  simp only [Session.execFold, given, a.valueOf_eq]
  -- a single operand is combined with the target, which is then read as well
  have read : Alike L
      (if (operands.map s.value).length = 1 ∧ op ≠ .set then
        (operands.foldl Session.touch s).touchName target else operands.foldl Session.touch s)
      (if (operands.map s.value).length = 1 ∧ op ≠ .set then
        (operands.foldl Session.touch t).touchName target else operands.foldl Session.touch t) := by
    split
    · exact (a.foldl_touch operands).touchName target
    · exact a.foldl_touch operands
  split
  · exact read
  · rename_i first rest _
    cases op.combine first rest with
    | ok v => exact read.assign target v
    | error r => exact read.remark r

theorem Alike.execNot (a : s.Alike L t) (target : ScopedName) (operand : Option Operand) :
    (s.execNot target operand).Alike L (t.execNot target operand) := by
  cases operand with
  | none =>
      simp only [Session.execNot, a.valueOf_eq]
      exact (a.touchName target).assign target _
  | some o =>
      simp only [Session.execNot, a.value_eq]
      exact (a.touch o).assign target _

theorem Alike.execRandomize (a : s.Alike L t) (target : ScopedName) (x y : Operand) :
    (s.execRandomize target x y).Alike L (t.execRandomize target x y) := by
  have read := (a.touch x).touch y
  simp only [Session.execRandomize, a.bounds_eq, read.draws_eq]
  exact (read.setDraws _).assign target _

theorem Alike.execClamp (a : s.Alike L t) (target : ScopedName) (x y : Operand) :
    (s.execClamp target x y).Alike L (t.execClamp target x y) := by
  simp only [Session.execClamp, a.bounds_eq, a.valueOf_eq]
  exact (((a.touch x).touch y).touchName target).assign target _

theorem Alike.execTimestamp (a : s.Alike L t) (format : String) :
    (s.execTimestamp format).Alike L (t.execTimestamp format) := by
  unfold Session.execTimestamp
  rw [a.clock_eq]
  split
  · exact a.setValues (L.set a.values _ _)
  · exact a.remark _

theorem Alike.execHurl (a : s.Alike L t) (o : Operand) : (s.execHurl o).Alike L (t.execHurl o) := by
  simp only [Session.execHurl, a.payloadOf_eq, (a.touch o).script_eq]
  split
  · exact (a.touch o).remark _
  · exact (a.touch o).emit _

theorem Alike.execLeap (a : s.Alike L t) (labels : List String) :
    Paired L (s.execLeap labels) (t.execLeap labels) := by
  unfold Session.execLeap
  rw [a.draws_eq]
  split
  · exact ⟨rfl, a⟩
  · simp only
    split
    · exact ⟨rfl, a.setDraws _⟩
    · exact ⟨rfl, a.setDraws _⟩

/-- **A statement does the same in sessions that are alike**: it goes on in the same way and leaves
sessions that are alike. -/
theorem Alike.exec (a : s.Alike L t) (st : Statement) : Paired L (s.exec st) (t.exec st) := by
  cases st with
  | fold op target operands => exact ⟨rfl, a.execFold op target operands⟩
  | not target operand => exact ⟨rfl, a.execNot target operand⟩
  | jump label condition =>
      cases condition with
      | none => exact ⟨rfl, a⟩
      | some o =>
          simp only [Session.exec, Session.execJump, a.value_eq]
          exact ⟨rfl, a.touch o⟩
  | leap labels => exact a.execLeap labels
  | sleep seconds =>
      simp only [Session.exec, Session.execSleep, a.value_eq]
      exact ⟨rfl, a.touch seconds⟩
  | finish => exact ⟨rfl, a⟩
  | has target name =>
      simp only [Session.exec, Likeness.has_eq a.values]
      exact ⟨rfl, a.assign target _⟩
  | write text => exact ⟨rfl, a.write text⟩
  | print o =>
      simp only [Session.exec, a.value_eq]
      exact ⟨rfl, (a.touch o).write _⟩
  | stash target =>
      simp only [Session.exec, a.buffer_eq]
      exact ⟨rfl, a.clearBuffer.assign target _⟩
  | flush => exact ⟨rfl, a.flush⟩
  | randomize target x y => exact ⟨rfl, a.execRandomize target x y⟩
  | clamp target x y => exact ⟨rfl, a.execClamp target x y⟩
  | timestamp format => exact ⟨rfl, a.execTimestamp format⟩
  | drop name => exact ⟨rfl, a.setValues (L.drop a.values name)⟩
  | «match» target o literal =>
      simp only [Session.exec, a.value_eq]
      exact ⟨rfl, (a.touch o).assign target _⟩
  | hurl o => exact ⟨rfl, a.execHurl o⟩
  | list st =>
      simp only [Session.exec, a.breaksDown_eq]
      exact ⟨rfl, a.execList st⟩
  | storage st => exact ⟨rfl, a.execStorage st⟩

end

end Session

end LineScript
