import LineScript.Proofs.Aside

/-!
**Which lists a statement can reach.**

The lists of the host are shared: what one invocation does to such a list, every other one that has
it open sees.  A statement reaches a list of the host in two ways only.  It works on the list that is
open, or it loads a list by name.  So a set of names with neither the open list nor the loaded one in
it is out of the way: other lists under these names make no difference to the statement.  And a set
of names with both in it holds all that the statement can change.

Main definitions:

* `LineScript.Catalogue.AgreeOff` — lists of the host that differ under some names only;
* `LineScript.ListDesk.Avoids`, `LineScript.ListDesk.Within` — the open list is none of the host's
  under some names, or no shared one under other names;
* `LineScript.ListDesk.Shifts` — **all that a statement can do to a desk**;
* `LineScript.Session.Loading` — the names a statement loads.

Main results:

* `LineScript.Session.shifts_exec` — a statement does one of these things to the desk;
* `LineScript.Session.exec_overlooks` — **lists that a statement does not reach make no difference
  to it**;
* `LineScript.Session.exec_spares` — **a statement changes only lists that it reaches**.
-/

set_option autoImplicit false

namespace LineScript

/-! ### Lists under other names -/

namespace Catalogue

variable {names : String → Prop}

theorem generations_setRecords (c : Catalogue) (name other : String) (number : Nat)
    (records : List Record) :
    (c.setRecords name number records).generations other =
      if other = name then (c.generations name).set number records else c.generations other := by
  unfold setRecords generations
  split
  · rename_i same
    rw [same, KeyMap.get?_insert_self]
    rfl
  · rename_i different
    rw [KeyMap.get?_insert_of_ne _ different]

theorem generations_put (c : Catalogue) (name other : String) (records : List Record) :
    (c.put name records).generations other =
      if other = name then c.generations name ++ [records] else c.generations other := by
  unfold put generations
  split
  · rename_i same
    rw [same, KeyMap.get?_insert_self]
    rfl
  · rename_i different
    rw [KeyMap.get?_insert_of_ne _ different]

theorem latest?_congr {c c' : Catalogue} {name : String}
    (same : c'.generations name = c.generations name) : c'.latest? name = c.latest? name := by
  unfold latest?
  rw [same]

/-- The host has no lists on both sides, or its lists differ under the given names only. -/
inductive AgreeOff (names : String → Prop) : Option Catalogue → Option Catalogue → Prop
  | absent : AgreeOff names none none
  | present {c c' : Catalogue} (same : ∀ name, ¬ names name → c'.generations name = c.generations name) :
      AgreeOff names (some c) (some c')

namespace AgreeOff

theorem refl (c : Option Catalogue) : AgreeOff names c c := by
  cases c with
  | none => exact .absent
  | some c => exact .present fun _ _ => rfl

theorem trans {b c d : Option Catalogue} (first : AgreeOff names b c) (second : AgreeOff names c d) :
    AgreeOff names b d := by
  cases first with
  | absent => exact second
  | present same =>
      cases second with
      | present same' => exact .present fun name other => (same' name other).trans (same name other)

/-- The records of one list are changed on both sides. -/
theorem setRecords {c d : Option Catalogue} (agree : AgreeOff names c d) (name : String)
    (number : Nat) (records : List Record) :
    AgreeOff names (c.map (·.setRecords name number records))
      (d.map (·.setRecords name number records)) := by
  cases agree with
  | absent => exact .absent
  | present same =>
      refine .present fun other outside => ?_
      rw [generations_setRecords, generations_setRecords]
      split
      · rename_i here
        rw [same name (here ▸ outside)]
      · exact same other outside

/-- The records of one list under the names are changed on one side. -/
theorem of_setRecords (c : Option Catalogue) {name : String} (mem : names name) (number : Nat)
    (records : List Record) : AgreeOff names c (c.map (·.setRecords name number records)) := by
  cases c with
  | none => exact .absent
  | some c =>
      refine .present fun other outside => ?_
      have different : other ≠ name := fun same => outside (same ▸ mem)
      rw [generations_setRecords, if_neg different]

theorem put {c c' : Catalogue}
    (same : ∀ name, ¬ names name → c'.generations name = c.generations name) (name : String)
    (records : List Record) : AgreeOff names (some (c.put name records)) (some (c'.put name records)) := by
  refine .present fun other outside => ?_
  rw [generations_put, generations_put]
  split
  · rename_i here
    rw [same name (here ▸ outside)]
  · exact same other outside

theorem of_put (c : Catalogue) {name : String} (mem : names name) (records : List Record) :
    AgreeOff names (some c) (some (c.put name records)) := by
  refine .present fun other outside => ?_
  have different : other ≠ name := fun same => outside (same ▸ mem)
  rw [generations_put, if_neg different]

end AgreeOff

end Catalogue

open Catalogue (AgreeOff)

/-! ### Open lists -/

namespace OpenList

/-- The list is not one of the host under the given names. -/
def Avoids (names : String → Prop) : OpenList → Prop
  | supplied name _ => ¬ names name
  | stored _ => True
  | own _ _ => True

/-- The list is one of the host under the given names, or one that nobody else has. -/
def Within (names : String → Prop) : OpenList → Prop
  | supplied name _ => names name
  | stored _ => False
  | own _ _ => True

theorem records_agree {names : String → Prop} {l : OpenList} (avoids : l.Avoids names) {h : Host}
    {c : Option Catalogue} (agree : AgreeOff names h.catalogue c) :
    l.records { h with catalogue := c } = l.records h := by
  cases l with
  | supplied name number =>
      simp only [records]
      generalize h.catalogue = b at agree
      cases agree with
      | absent => rfl
      | present same => simp only [Option.map_some, Catalogue.records, same name avoids]
  | stored name => rfl
  | own name records => rfl

end OpenList

namespace ListDesk

variable {α : Type} {names loads : String → Prop}

/-- The open list is not one of the host under the given names. -/
def Avoids (names : String → Prop) (d : ListDesk) : Prop := ∀ l ∈ d.current, l.Avoids names

/-- The open list is one of the host under the given names, or one that nobody else has. -/
def Within (names : String → Prop) (d : ListDesk) : Prop := ∀ l ∈ d.current, l.Within names

theorem view_agree {d : ListDesk} (avoids : d.Avoids names) {h : Host} {c : Option Catalogue}
    (agree : AgreeOff names h.catalogue c) : d.view { h with catalogue := c } = d.view h := by
  unfold view
  cases hopen : d.current with
  | none => rfl
  | some l =>
      have records := OpenList.records_agree (avoids l hopen) agree
      simp only [Option.map_some, records]

/-! ### What becomes of a desk -/

/-- **All that a statement can do to a desk**, given the names it loads and whether it is about
storage. -/
inductive Shifts (loads : String → Prop) (stores : Prop) (d : ListDesk) : ListDesk → Prop
  /-- no list is opened, unless it is one that nobody else has -/
  | stays {d' : ListDesk} (loaded : d'.loaded = d.loaded)
      (shared : ∀ l, d'.current = some l → (∃ name records, l = .own name records) ∨
        d.current = some l) : Shifts loads stores d d'
  /-- a list of the host is opened and counts as loaded from now on -/
  | opens {d' : ListDesk} {name : String} {number : Nat} (named : loads name)
      (loaded : ∀ other, d'.loaded.contains other = true ↔
        other = name ∨ d.loaded.contains other = true)
      (current : d'.current = some (.supplied name number)) : Shifts loads stores d d'
  /-- a stored list is opened -/
  | fetches {d' : ListDesk} {name : String} (allowed : stores) (loaded : d'.loaded = d.loaded)
      (current : d'.current = some (.stored name)) : Shifts loads stores d d'

/-- A list of the host that is open was loaded. -/
def Tracked (d : ListDesk) : Prop :=
  ∀ name number, d.current = some (.supplied name number) → d.loaded.contains name = true

namespace Shifts

variable {stores : Prop} {d d' : ListDesk}

theorem refl (d : ListDesk) : Shifts loads stores d d := .stays rfl fun _ same => .inr same

theorem mono {wider : String → Prop} {widely : Prop} (m : Shifts loads stores d d')
    (h : ∀ name, loads name → wider name) (hs : stores → widely) : Shifts wider widely d d' := by
  cases m with
  | stays loaded shared => exact .stays loaded shared
  | opens named loaded current => exact .opens (h _ named) loaded current
  | fetches allowed loaded current => exact .fetches (hs allowed) loaded current

/-- What is true of the open list, of all lists that nobody else has and of all lists that are opened
now is true of the list that is open afterwards. -/
theorem current {P : OpenList → Prop} (m : Shifts loads stores d d')
    (before : ∀ l ∈ d.current, P l) (own : ∀ name records, P (.own name records))
    (supplied : ∀ name number, loads name → P (.supplied name number))
    (stored : stores → ∀ name, P (.stored name)) : ∀ l ∈ d'.current, P l := by
  intro l hopen
  cases m with
  | stays loaded shared =>
      rcases shared l hopen with ⟨name, records, rfl⟩ | same
      · exact own name records
      · exact before l same
  | opens named loaded current =>
      obtain rfl : _ = l := Option.some.inj (current.symm.trans hopen)
      exact supplied _ _ named
  | fetches allowed loaded current =>
      obtain rfl : _ = l := Option.some.inj (current.symm.trans hopen)
      exact stored allowed _

/-- A statement that loads none of the names keeps away from them. -/
theorem avoids (m : Shifts loads stores d d') (before : d.Avoids names)
    (others : ∀ name, loads name → ¬ names name) : d'.Avoids names :=
  m.current before (fun _ _ => trivial) (fun name _ => others name) fun _ _ => trivial

/-- A statement that loads only such names, and is not about storage, stays within them. -/
theorem within (m : Shifts loads stores d d') (before : d.Within names) (noStorage : ¬ stores)
    (loaded : ∀ name, loads name → names name) : d'.Within names :=
  m.current before (fun _ _ => trivial) (fun name _ => loaded name) fun allowed => absurd allowed noStorage

theorem tracked (m : Shifts loads stores d d') (before : d.Tracked) : d'.Tracked := by
  intro name number hopen
  cases m with
  | stays loaded shared =>
      rcases shared _ hopen with ⟨_, _, same⟩ | same
      · cases same
      · rw [loaded]
        exact before name number same
  | opens named loaded current =>
      cases current.symm.trans hopen
      exact (loaded name).2 (.inl rfl)
  | fetches allowed loaded current => cases current.symm.trans hopen

/-- The lists that were loaded are those from before and what is loaded now. -/
theorem contains_loaded (m : Shifts loads stores d d') {name : String}
    (mem : d'.loaded.contains name = true) : d.loaded.contains name = true ∨ loads name := by
  cases m with
  | stays loaded shared => exact .inl (loaded ▸ mem)
  | opens named loaded current =>
      rcases (loaded name).1 mem with rfl | before
      · exact .inr named
      · exact .inl before
  | fetches allowed loaded current => exact .inl (loaded ▸ mem)

end Shifts

/-! ### Operations of the desk -/

/-- The operation opens only lists it loads, changes only the lists it reaches, and does not look at
the others. -/
structure Local (loads : String → Prop) (f : ListDesk → Host → Result α) : Prop where
  shifts (d : ListDesk) (h : Host) : d.Shifts loads False (f d h).2.1
  spares {names : String → Prop} {d : ListDesk} (h : Host) (within : d.Within names)
    (loaded : ∀ name, loads name → names name) :
    (f d h).2.2.storage = h.storage ∧ AgreeOff names h.catalogue (f d h).2.2.catalogue
  overlooks {names : String → Prop} {d : ListDesk} {h : Host} {c : Option Catalogue}
    (avoids : d.Avoids names) (others : ∀ name, loads name → ¬ names name)
    (agree : AgreeOff names h.catalogue c) :
    ∃ c', AgreeOff names (f d h).2.2.catalogue c' ∧
      f d { h with catalogue := c } =
        ((f d h).1, (f d h).2.1, { (f d h).2.2 with catalogue := c' })

theorem local_edit (f : ListView → Except ListError α × ListView) :
    Local loads fun d h => d.edit h f where
  shifts d h := by
    obtain ⟨loaded, current, cursor, outOfBounds⟩ := d
    cases current with
    | none => exact .refl _
    | some l =>
        refine .stays rfl fun k hopen => ?_
        cases l with
        | supplied name number => exact .inr hopen
        | stored name => exact .inr hopen
        | own name records => exact .inl ⟨_, _, (Option.some.inj hopen).symm⟩
  spares {_ d} h within _ := by
    obtain ⟨loaded, current, cursor, outOfBounds⟩ := d
    cases current with
    | none => exact ⟨rfl, .refl _⟩
    | some l =>
        have reached := within l rfl
        cases l with
        | supplied name number => exact ⟨rfl, .of_setRecords h.catalogue reached number _⟩
        | stored name => exact reached.elim
        | own name records => exact ⟨rfl, .refl _⟩
  overlooks {_ d h c} avoids _ agree := by
    obtain ⟨loaded, current, cursor, outOfBounds⟩ := d
    cases current with
    | none => exact ⟨c, agree, rfl⟩
    | some l =>
        have records := OpenList.records_agree (avoids l rfl) agree
        cases l with
        | supplied name number =>
            simp only [edit, records]
            exact ⟨_, agree.setRecords name number _, rfl⟩
        | stored name => exact ⟨c, agree, rfl⟩
        | own name records => exact ⟨c, agree, rfl⟩

theorem local_rearrange (f : List Record → List Record) :
    Local loads fun d h => d.rearrange h f := local_edit _

theorem local_select (f : List Record → List Record) : Local loads fun d h => d.select h f where
  shifts d h := by
    obtain ⟨loaded, current, cursor, outOfBounds⟩ := d
    cases current with
    | none => exact .refl _
    | some l => exact .stays rfl fun k hopen => .inl ⟨_, _, (Option.some.inj hopen).symm⟩
  spares {_ d} h _ _ := by
    obtain ⟨loaded, current, cursor, outOfBounds⟩ := d
    cases current with
    | none => exact ⟨rfl, .refl _⟩
    | some l => exact ⟨rfl, .refl _⟩
  overlooks {_ d h c} avoids _ agree := by
    obtain ⟨loaded, current, cursor, outOfBounds⟩ := d
    cases current with
    | none => exact ⟨c, agree, rfl⟩
    | some l =>
        have records := OpenList.records_agree (avoids l rfl) agree
        simp only [select, records]
        exact ⟨c, agree, rfl⟩

/-- An operation that looks at the open list first and draws by chance is as local as what it does
then. -/
theorem Local.drawing {β : Type} {f : ListDesk → Host → Result α} (look : ListDesk → Host → β × Draws)
    {g : β → ListDesk → Host → Result α} (hthen : ∀ b, Local loads (g b))
    (looks : ∀ {names : String → Prop} {d : ListDesk} {h : Host} {c : Option Catalogue},
      d.Avoids names → AgreeOff names h.catalogue c → look d { h with catalogue := c } = look d h)
    (same : ∀ d h, f d h = (g (look d h).1 d { h with draws := (look d h).2 })) : Local loads f where
  shifts d h := by
    rw [same]
    exact (hthen _).shifts d _
  spares {_ d} h within loaded := by
    rw [same]
    exact (hthen _).spares _ within loaded
  overlooks {_ d h c} avoids others agree := by
    rw [same, same, looks avoids agree]
    exact (hthen _).overlooks (h := { h with draws := (look d h).2 }) avoids others agree

theorem local_move (m : CursorMove) : Local loads fun d h => d.move h m := by
  refine Local.drawing (fun d h => destination (d.view h) h.draws m)
    (fun index => local_edit fun v => (.ok (v.moveTo index).1, (v.moveTo index).2))
    (fun avoids agree => by rw [view_agree avoids agree]) fun d h => ?_
  obtain ⟨loaded, current, cursor, outOfBounds⟩ := d
  cases current with
  | none =>
      -- with no list open, no move draws
      cases m <;> rfl
  | some l => rfl

theorem local_shuffle : Local loads fun d h => d.shuffle h := by
  refine Local.drawing
    (fun d h => d.current.elim ([], h.draws) fun l => h.draws.shuffle (l.records h))
    (fun records => local_edit fun _ => (.ok (), .ofRecords records))
    (fun {_ d _ _} avoids agree => ?_) fun d h => ?_
  · cases hopen : d.current with
    | none => rfl
    | some l => simp only [Option.elim_some, OpenList.records_agree (avoids l hopen) agree]
  · obtain ⟨loaded, current, cursor, outOfBounds⟩ := d
    cases current <;> rfl

theorem local_limit (count : Int) (last : Bool) : Local loads fun d h => d.limit h count last := by
  unfold limit
  cases count.toNat? with
  | none =>
      exact ⟨fun d _ => .refl d, fun _ _ _ => ⟨rfl, .refl _⟩, fun _ _ agree => ⟨_, agree, rfl⟩⟩
  | some n => exact local_edit _

/-- A list of the host is loaded for the first time. -/
theorem shifts_insert (d : ListDesk) {name : String} (named : loads name) (number : Nat) :
    d.Shifts loads False
      ({ d with loaded := d.loaded.insert name number }.opening (.supplied name number)) := by
  refine .opens named (fun other => ?_) rfl
  by_cases same : other = name
  · simp [opening, KeyMap.contains, same]
  · simp [opening, KeyMap.contains, KeyMap.get?_insert_of_ne _ same, same]

/-- A list that was loaded before is opened again. -/
theorem shifts_again (d : ListDesk) {name : String} (named : loads name) {number : Nat}
    (known : d.loaded.get? name = some number) :
    d.Shifts loads False (d.opening (.supplied name number)) := by
  refine .opens named (fun other => ⟨.inr, fun mem => ?_⟩) rfl
  rcases mem with rfl | mem
  · simp [opening, KeyMap.contains, known]
  · exact mem

/-- Loading, with what becomes of the lists of the host spelled out. -/
theorem load_eq (d : ListDesk) (h : Host) (name : String) :
    d.load h name =
      if name.isEmpty then (.error .emptyName, d, h)
      else
        match d.loaded.get? name, h.catalogue with
        | some number, _ => (.ok (), d.opening (.supplied name number), h)
        | none, none => (.error .noCatalogue, d, h)
        | none, some c =>
          match c.latest? name, Name.isReserved name with
          | none, true => (.error (.notFound name), d, h)
          | none, false =>
            (.ok (), { d with loaded := d.loaded.insert name 0 }.opening (.supplied name 0),
              { h with catalogue := some (c.put name []) })
          | some number, _ =>
            (.ok (), { d with loaded := d.loaded.insert name number }.opening (.supplied name number),
              { h with catalogue := some c }) := by
  unfold load
  split
  · rfl
  · cases d.loaded.get? name with
    | some number => rfl
    | none =>
        cases h.catalogue with
        | none => rfl
        | some c =>
            simp only [Catalogue.create?]
            cases c.latest? name with
            | some number => rfl
            | none => cases Name.isReserved name <;> rfl

theorem local_load {name : String} (named : loads name) : Local loads fun d h => d.load h name where
  shifts d h := by
    simp only [load_eq]
    split
    · exact .refl d
    · split
      · rename_i number _ known
        exact shifts_again d named known
      · exact .refl d
      · split
        · exact .refl d
        · exact shifts_insert d named 0
        · exact shifts_insert d named _
  spares {_ d} h _ loaded := by
    simp only [load_eq]
    split
    · exact ⟨rfl, .refl _⟩
    · split
      · exact ⟨rfl, .refl _⟩
      · exact ⟨rfl, .refl _⟩
      · rename_i c _ there
        split
        · exact ⟨rfl, .refl _⟩
        · exact ⟨rfl, there ▸ .of_put c (loaded name named) []⟩
        · exact ⟨rfl, there ▸ .refl _⟩
  overlooks {_ d h c} _ others agree := by
    obtain ⟨storage, catalogue, draws, clock, emitted⟩ := h
    simp only [load_eq]
    split
    · exact ⟨c, agree, rfl⟩
    · cases d.loaded.get? name with
      | some number => exact ⟨c, agree, rfl⟩
      | none =>
          cases agree with
          | absent => exact ⟨none, .absent, rfl⟩
          | @present b c same =>
              simp only [Catalogue.latest?_congr (same name (others name named))]
              split
              · exact ⟨some c, .present same, rfl⟩
              · exact ⟨some (c.put name []), .put same name [], rfl⟩
              · exact ⟨some c, .present same, rfl⟩

end ListDesk

/-! ### Statements on lists -/

namespace Session

variable {α β : Type} {loads : String → Prop}

/-- The session with other lists of the host. -/
def withCatalogue (s : Session) (c : Option Catalogue) : Session := { s with host.catalogue := c }

/-- What is done to the session reaches a list of the host only if it is open or loaded. -/
structure Local (loads : String → Prop) (s : Session) (f : Session → α × Session) : Prop where
  shifts : s.context.desk.Shifts loads False (f s).2.context.desk
  spares {names : String → Prop} (within : s.context.desk.Within names)
    (loaded : ∀ name, loads name → names name) :
    (f s).2.host.storage = s.host.storage ∧ AgreeOff names s.host.catalogue (f s).2.host.catalogue
  overlooks {names : String → Prop} {c : Option Catalogue} (avoids : s.context.desk.Avoids names)
    (others : ∀ name, loads name → ¬ names name) (agree : AgreeOff names s.host.catalogue c) :
    ∃ c', AgreeOff names (f s).2.host.catalogue c' ∧
      f (s.withCatalogue c) = ((f s).1, (f s).2.withCatalogue c')

theorem local_onDesk (s : Session) {f : ListDesk → Host → ListDesk.Result α}
    (desk : ListDesk.Local loads f) : Local loads s (·.onDesk f) where
  shifts := desk.shifts s.context.desk s.host
  spares within loaded := desk.spares s.host within loaded
  overlooks {_ c} avoids others agree := by
    obtain ⟨c', after, same⟩ := desk.overlooks avoids others agree
    refine ⟨c', after, ?_⟩
    simp only [onDesk, withCatalogue, same]

/-- What is done to a session has nothing to do with its stock. -/
def Plain (p : Session → Session) : Prop := ∀ s t : Session, p (s.stockedAs t) = (p s).stockedAs t

namespace Plain

variable {p : Session → Session}

theorem comp {q : Session → Session} (plain : Plain p) (next : Plain q) : Plain fun s => q (p s) := by
  intro s t
  change q (p (s.stockedAs t)) = (q (p s)).stockedAs t
  rw [plain, next]

theorem sameStock (plain : Plain p) (s : Session) : s.SameStock (p s) := sameStock_of_eq (plain s s)

theorem withCatalogue (plain : Plain p) (s : Session) (c : Option Catalogue) :
    p (s.withCatalogue c) = (p s).withCatalogue c := by
  have own : p s = (p s).stockedAs s := plain s s
  calc p (s.withCatalogue c) = (p s).stockedAs (s.withCatalogue c) := plain s (s.withCatalogue c)
    _ = ((p s).stockedAs s).withCatalogue c := rfl
    _ = (p s).withCatalogue c := by rw [← own]

end Plain

theorem plain_touch (o : Operand) : Plain (·.touch o) := fun s t => (aside_stockedAs t).touch s o

theorem plain_remark (r : Remark) : Plain (·.remark r) := fun s t => (aside_stockedAs t).remark s r

theorem plain_collected (source : ScopedName) : Plain (·.collected source) := by
  intro s t
  unfold collected
  split
  · rfl
  · exact (aside_stockedAs t).touchName s source

theorem plain_storeRecord (target : ScopedName) (r : Record) : Plain (·.storeRecord target r) := by
  intro s t
  unfold storeRecord
  split
  · rfl
  · split
    · rfl
    · rfl

namespace Local

variable {s : Session} {f : Session → α × Session}

theorem congr {g : Session → α × Session} (l : Local loads s f)
    (same : ∀ c, g (s.withCatalogue c) = f (s.withCatalogue c)) : Local loads s g := by
  have here : g s = f s := same s.host.catalogue
  refine ⟨?_, ?_, ?_⟩
  · rw [here]
    exact l.shifts
  · rw [here]
    exact l.spares
  · intro names c avoids others agree
    rw [here, same]
    exact l.overlooks avoids others agree

/-- Something plain is done, and nothing else. -/
theorem of_plain {p : Session → Session} (plain : Plain p) (s : Session) (a : α) :
    Local loads s fun s => (a, p s) := by
  have kept := plain.sameStock s
  refine ⟨?_, ?_, ?_⟩
  · rw [kept.desk]
    exact .refl _
  · intro names _ _
    exact ⟨kept.storage, kept.catalogue ▸ .refl _⟩
  · intro names c _ _ agree
    exact ⟨c, kept.catalogue ▸ agree, by rw [plain.withCatalogue]⟩

/-- Something plain is done before. -/
theorem before {p : Session → Session} (plain : Plain p) (l : Local loads (p s) f) :
    Local loads s fun s => f (p s) := by
  have kept := plain.sameStock s
  refine ⟨?_, ?_, ?_⟩
  · rw [← kept.desk]
    exact l.shifts
  · intro names within loaded
    rw [← kept.desk] at within
    rw [← kept.storage, ← kept.catalogue]
    exact l.spares within loaded
  · intro names c avoids others agree
    rw [← kept.desk] at avoids
    rw [← kept.catalogue] at agree
    rw [plain.withCatalogue]
    exact l.overlooks avoids others agree

/-- Something plain is done after, which may depend on the result. -/
theorem after (l : Local loads s f) (k : α → β) {p : α → Session → Session}
    (plain : ∀ a, Plain (p a)) : Local loads s fun s => (k (f s).1, p (f s).1 (f s).2) := by
  have kept := (plain (f s).1).sameStock (f s).2
  refine ⟨?_, ?_, ?_⟩
  · rw [kept.desk]
    exact l.shifts
  · intro names within loaded
    rw [kept.storage, kept.catalogue]
    exact l.spares within loaded
  · intro names c avoids others agree
    obtain ⟨c', agree', same⟩ := l.overlooks avoids others agree
    refine ⟨c', ?_, ?_⟩
    · rw [kept.catalogue]
      exact agree'
    · rw [same, (plain (f s).1).withCatalogue]

/-- The script is told where it is in the open list. -/
theorem publish (l : Local loads s f) : Local loads s fun s => ((f s).1, (f s).2.publishList) where
  shifts := l.shifts
  spares within loaded := l.spares within loaded
  overlooks avoids others agree := by
    obtain ⟨c', agree', same⟩ := l.overlooks avoids others agree
    -- the list that is open by now is out of the way too, so the view is the same
    have view := ListDesk.view_agree (l.shifts.avoids avoids others) agree'
    refine ⟨c', agree', ?_⟩
    rw [same]
    refine Prod.ext rfl ?_
    simp only [publishList, ListDesk.publish, withCatalogue]
    rw [view]
    rfl

end Local

theorem Local.storeFound {s : Session} {f : Session → Except ListError (Option Record) × Session}
    (l : Local loads s f) (target : ScopedName) :
    Local loads s fun s => Session.storeFound target (f s) := by
  have plain : ∀ found, Plain fun s => (Session.storeFound target (found, s)).2 := by
    intro found
    cases found with
    | error e => exact fun _ _ => rfl
    | ok r =>
        cases r with
        | none => exact fun _ _ => rfl
        | some r => exact plain_storeRecord target r
  refine (l.after (Except.map fun _ => ()) plain).congr fun c => ?_
  rcases f (s.withCatalogue c) with ⟨_ | _ | _, t⟩ <;> rfl

theorem Local.ignoring {s : Session} {f : Session → Except ListError α × Session}
    (l : Local loads s f) : Local loads s fun s => Session.ignoring (f s) :=
  l.after (Except.map fun _ => ()) (p := fun _ s => s) fun _ _ _ => rfl

/-- The effect of a statement on lists: what it reads it reads before it goes to the desk. -/
theorem local_listEffect (s : Session) (st : ListStatement)
    (named : ∀ o, st = .load o → loads (s.value o).text) : Local loads s (·.listEffect st) := by
  cases st with
  | load name =>
      have done := local_onDesk (s.touch name) (ListDesk.local_load (named name rfl))
      exact (done.before (plain_touch name)).congr fun _ => rfl
  | get target index =>
      have done : Local loads (s.touch index) _ :=
        local_onDesk _ (ListDesk.local_edit fun v => v.get (s.value index).number.toInt)
      have found := (done.before (plain_touch index)).after (Except.map some) (p := fun _ s => s)
        fun _ _ _ => rfl
      exact (found.storeFound target).congr fun _ => rfl
  | move m target => exact (local_onDesk s (ListDesk.local_move m)).storeFound target
  | add source =>
      by_cases nothing : (s.recordOf source).isEmpty = true
      · have told := (plain_collected source).comp
          (plain_remark (.nothingSet "list:add" source.display))
        exact (Local.of_plain told s (Except.ok ())).congr fun _ => if_pos nothing
      · have done : Local loads (s.collected source) _ :=
          local_onDesk _ (ListDesk.local_edit fun v => (.ok (), v.add (s.recordOf source)))
        exact (done.before (plain_collected source)).congr fun _ => if_neg nothing
  | remove index =>
      cases index with
      | none => exact (local_onDesk s (ListDesk.local_edit fun v => v.remove none)).ignoring
      | some index =>
          have done : Local loads (s.touch index) _ := local_onDesk _
            (ListDesk.local_edit fun v => v.remove (some (s.value index).number.toInt))
          exact (done.before (plain_touch index)).ignoring.congr fun _ => rfl
  | clear => exact local_onDesk s (ListDesk.local_rearrange fun _ => [])
  | filter field value =>
      have done : Local loads (s.touch value) _ :=
        local_onDesk _ (ListDesk.local_select (ListView.matching field (s.value value)))
      exact (done.before (plain_touch value)).congr fun _ => rfl
  | unique field => exact local_onDesk s (ListDesk.local_select (ListView.distinct field))
  | sort field descending =>
      exact local_onDesk s (ListDesk.local_rearrange (ListView.sorted field descending))
  | shuffle => exact local_onDesk s ListDesk.local_shuffle
  | limit count last =>
      have done : Local loads (s.touch count) _ :=
        local_onDesk _ (ListDesk.local_limit (s.value count).number.toInt last)
      exact (done.before (plain_touch count)).congr fun _ => rfl

theorem local_execList (s : Session) (st : ListStatement)
    (named : ∀ o, st = .load o → loads (s.value o).text) :
    Local loads s fun s => (Flow.next, s.execList st) := by
  have told := (s.local_listEffect st named).publish
  have plain : ∀ result : Except ListError Unit, Plain fun s => match result with
      | .ok () => s
      | .error e => s.remark (.listFailed st.keyword e) := by
    intro result
    cases result with
    | ok _ => exact fun _ _ => rfl
    | error e => exact plain_remark _
  refine (told.after (fun _ => Flow.next) plain).congr fun c => ?_
  simp only [execList]
  rcases (s.withCatalogue c).listEffect st with ⟨_ | _, t⟩ <;> rfl

/-! ### All statements -/

/-- The names of lists that a statement loads. -/
def Loading (s : Session) (st : Statement) (name : String) : Prop :=
  ∃ o, st = .list (.load o) ∧ (s.value o).text = name

/-- Lists that are out of the way do not decide whether a statement breaks down. -/
theorem breaksDown_withCatalogue {s : Session} {names : String → Prop} {c : Option Catalogue}
    (avoids : s.context.desk.Avoids names) (agree : Catalogue.AgreeOff names s.host.catalogue c)
    (q : ListStatement) : (s.withCatalogue c).breaksDown q = s.breaksDown q := by
  have view := ListDesk.view_agree avoids agree
  cases q <;> simp only [breaksDown, ListDesk.sortBreaks, withCatalogue, view]

theorem local_exec_list (s : Session) (q : ListStatement) :
    Local (s.Loading (.list q)) s (·.exec (.list q)) := by
  have done : Local (s.Loading (.list q)) s fun s => (Flow.next, s.execList q) :=
    s.local_execList q fun o same => ⟨o, congrArg _ same, rfl⟩
  refine ⟨done.shifts, done.spares, fun avoids others agree => ?_⟩
  obtain ⟨c', agree', same⟩ := done.overlooks avoids others agree
  refine ⟨c', agree', ?_⟩
  simp only [exec, breaksDown_withCatalogue avoids agree]
  exact congrArg (Prod.mk _) (congrArg Prod.snd same)

theorem farAside_withCatalogue (c : Option Catalogue) : FarAside fun s => s.withCatalogue c where
  values _ := rfl
  buffer _ := rfl
  script _ := rfl
  draws _ := rfl
  clock _ := rfl
  setValues _ _ := rfl
  setBuffer _ _ := rfl
  setDraws _ _ := rfl
  emit _ _ := rfl
  storage _ := rfl
  lock _ := rfl
  lockWait _ := rfl
  setStorage _ _ := rfl
  setLock _ _ := rfl

theorem farAside_setDesk (desk : ListDesk) :
    FarAside fun s => { s with context.desk := desk } where
  values _ := rfl
  buffer _ := rfl
  script _ := rfl
  draws _ := rfl
  clock _ := rfl
  setValues _ _ := rfl
  setBuffer _ _ := rfl
  setDraws _ _ := rfl
  emit _ _ := rfl
  storage _ := rfl
  lock _ := rfl
  lockWait _ := rfl
  setStorage _ _ := rfl
  setLock _ _ := rfl

/-- A statement that opens a stored list opens it, or fails. -/
theorem shifts_execStorage_list (s : Session) (o : Operand) :
    s.context.desk.Shifts loads True (s.execStorage (.list o)).context.desk := by
  refine execStorage_keeps (P := fun t => s.context.desk.Shifts loads True t.context.desk) id (.refl _) fun _ => ?_
  rcases s.storedEffect_list_cases o with ⟨e, failed⟩ | ⟨st, _, done⟩
  · rw [failed]
    exact .refl _
  · rw [done]
    exact .fetches trivial rfl rfl

/-- **A statement does one of the things listed to the desk.** -/
theorem shifts_exec (s : Session) (st : Statement) :
    s.context.desk.Shifts (s.Loading st) (∃ q, st = .storage q) (s.exec st).2.context.desk := by
  by_cases about : ∃ q, st = .list q
  · obtain ⟨q, rfl⟩ := about
    exact (s.local_exec_list q).shifts.mono (fun _ named => named) False.elim
  · have noList : ∀ q, st ≠ .list q := fun q same => about ⟨q, same⟩
    by_cases fetching : ∃ o, st = .storage (.list o)
    · obtain ⟨o, rfl⟩ := fetching
      exact (s.shifts_execStorage_list o).mono (fun _ named => named) fun _ => ⟨_, rfl⟩
    · -- the desk itself makes no difference before the statement, so it makes none after it
      have same := (farAside_setDesk s.context.desk).exec s noList fun o same =>
        absurd ⟨o, same⟩ fetching
      have kept : (s.exec st).2.context.desk = s.context.desk :=
        congrArg (·.2.context.desk) same
      rw [kept]
      exact .refl _

/-- **Lists that a statement does not reach make no difference to it**, and they stay as different as
they were. -/
theorem exec_overlooks (s : Session) (st : Statement) {names : String → Prop} {c : Option Catalogue}
    (avoids : s.context.desk.Avoids names) (others : ∀ name, s.Loading st name → ¬ names name)
    (agree : AgreeOff names s.host.catalogue c) :
    ∃ c', AgreeOff names (s.exec st).2.host.catalogue c' ∧
      (s.withCatalogue c).exec st = ((s.exec st).1, (s.exec st).2.withCatalogue c') := by
  by_cases about : ∃ q, st = .list q
  · obtain ⟨q, rfl⟩ := about
    exact (s.local_exec_list q).overlooks avoids others agree
  · have noList : ∀ q, st ≠ .list q := fun q same => about ⟨q, same⟩
    have same := fun b => (farAside_withCatalogue b).exec s noList fun _ _ _ _ => rfl
    have kept : (s.exec st).2.host.catalogue = s.host.catalogue :=
      congrArg (·.2.host.catalogue) (same s.host.catalogue)
    exact ⟨c, kept ▸ agree, same c⟩

/-- **A statement that is not about storage changes only lists that it reaches.** -/
theorem exec_spares (s : Session) {st : Statement} (noStorage : ∀ q, st ≠ .storage q)
    {names : String → Prop} (within : s.context.desk.Within names)
    (loaded : ∀ name, s.Loading st name → names name) :
    (s.exec st).2.host.storage = s.host.storage ∧
      AgreeOff names s.host.catalogue (s.exec st).2.host.catalogue := by
  by_cases about : ∃ q, st = .list q
  · obtain ⟨q, rfl⟩ := about
    exact (s.local_exec_list q).spares within loaded
  · have kept := s.sameStock_exec (fun q same => about ⟨q, same⟩) noStorage
    exact ⟨kept.storage, kept.catalogue ▸ .refl _⟩

end Session

end LineScript
