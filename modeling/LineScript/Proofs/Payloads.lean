import LineScript.Proofs.Flatten
import LineScript.Proofs.LineByLine

/-!
**What is handed to the host.**

`hurl` hands values to the host: the members of a wildcard, the value of a plain name, or a constant.  It is
meant to hand over what is set and nothing else, and to warn if there is nothing.  For wildcards and constants
it does.  The value of a plain name is read without a look at whether it is set, so that an empty value goes
out under the name where a warning is due.

Main definitions:

* `LineScript.Operand.StandsFor` — the set values that an operand stands for;
* `LineScript.Session.HandsSet` — **just these are handed over**, or a warning says that there are none;
* `LineScript.Operand.Unset` — the operand is a plain name that is not set.

Main results:

* `LineScript.KeyMap.get?_ofList` — what is in a map that is made of a list;
* `LineScript.Session.get?_payloadOf` — what is in a payload;
* `LineScript.Session.hurl_hands_set_iff` — **only set values are handed over just if the operand is not a
  plain name that is not set**;
* `LineScript.Session.hurl_hands_unset` — one that is not.
-/

set_option autoImplicit false

namespace LineScript

/-! ### Maps made of lists -/

namespace KeyMap

variable {β : Type}

theorem get?_foldl_insert {es : List (String × β)} (distinct : (es.map Prod.fst).Nodup) (m : KeyMap β)
    (key : String) (v : β) :
    (es.foldl (fun m e => m.insert e.1 e.2) m).get? key = some v ↔
      (key, v) ∈ es ∨ key ∉ es.map Prod.fst ∧ m.get? key = some v := by
  induction es generalizing m with
  | nil => simp
  | cons e es ih =>
      obtain ⟨fresh, distinct⟩ := List.nodup_cons.1 distinct
      rw [List.foldl_cons, ih distinct, List.map_cons, List.mem_cons, List.mem_cons]
      by_cases here : key = e.1
      · -- no later entry has this key, so that the first one stays
        subst here
        have later : (e.1, v) ∉ es := fun mem => fresh (List.mem_map.2 ⟨_, mem, rfl⟩)
        simp [later, fresh, Prod.ext_iff, eq_comm]
      · simp [here, Prod.ext_iff, get?_insert_of_ne m here]

/-- **A map that is made of a list has its entries**, if no key comes twice. -/
theorem get?_ofList {es : List (String × β)} (distinct : (es.map Prod.fst).Nodup) (key : String) (v : β) :
    (ofList es).get? key = some v ↔ (key, v) ∈ es := by
  rw [ofList, get?_foldl_insert distinct]
  simp [get?, empty]

/-- A map is empty just if nothing is found in it. -/
theorem isEmpty_eq_true_iff {m : KeyMap β} : m.isEmpty = true ↔ ∀ key v, m.get? key ≠ some v := by
  rw [isEmpty, List.isEmpty_iff, List.eq_nil_iff_forall_not_mem]
  constructor
  · intro hnone key v found
    exact hnone (key, v) (mem_of_get? found)
  · rintro hnone ⟨key, v⟩ mem
    exact hnone key v (get?_of_mem mem)

end KeyMap

/-! ### Operands -/

namespace Operand

/-- **The set values that an operand stands for**, each with the name by which it is handed over: the members
of a wildcard by the rest of their keys, a plain name by its base, and a constant as `value`. -/
def StandsFor (o : Operand) (values : ValueMap) (key : String) (v : Value) : Prop :=
  v.isEmpty = false ∧
    match o with
    | named name =>
      if name.wildcard then values.get? (name.member key) = some v
      else key = name.base ∧ values.get? name.key = some v
    | constant c => key = "value" ∧ v = c

/-- The operand is a plain name, and the name is not set. -/
def Unset (o : Operand) (values : ValueMap) : Prop :=
  ∃ name, o = named name ∧ name.wildcard = false ∧ values.isSet name.key = false

end Operand

/-- **A line with the keyword `hurl` that compiles has one operand**, which is not an empty constant. -/
theorem Instruction.read?_hurl {keyword tail : String} {i : Instruction}
    (hurl : Case.asciiLowercase keyword = "hurl") (compiles : read? keyword tail = some i) :
    ∃ o, i = .execute (.hurl o) ∧ o.Spoken := by
  obtain ⟨read, known, yields⟩ := read?_eq_some compiles
  have reader : reader? keyword = some fun tail => execute <$> Grammar.unary .hurl true tail := by
    rw [reader?, hurl]
    rfl
  obtain rfl : read = fun tail => execute <$> Grammar.unary .hurl true tail :=
    Option.some.inj (known.symm.trans reader)
  have statement : (Grammar.unary .hurl true tail).Settles fun st => ∃ o, st = .hurl o ∧ o.Spoken :=
    (Tail.settles_operand tail true).bind fun o fits => Reading.settles_pure ⟨o, rfl, fits.spoken⟩
  have instruction : (execute <$> Grammar.unary .hurl true tail).Settles
      fun i => ∃ o, i = .execute (.hurl o) ∧ o.Spoken :=
    statement.map fun _ ⟨o, eq, spoken⟩ => ⟨o, congrArg execute eq, spoken⟩
  exact instruction.only yields

/-! ### Payloads -/

namespace Session

variable {s : Session} {o : Operand}

/-- What is in the payload of a wildcard, and what is in the others. -/
theorem get?_payloadOf (s : Session) (o : Operand) (key : String) (v : Value) :
    (s.payloadOf o).get? key = some v ↔
      match o with
      | .named name =>
        if name.wildcard then s.values.get? (name.member key) = some v ∧ v.isEmpty = false
        else key = name.base ∧ v = s.valueOf name
      | .constant c => key = "value" ∧ v = c := by
  have single : ∀ (name : String) (w : Value),
      (KeyMap.ofList [(name, w)]).get? key = some v ↔ key = name ∧ v = w := by
    intro name w
    rw [KeyMap.get?_ofList (by simp), List.mem_singleton, Prod.mk.injEq]
  cases o with
  | constant c => exact single "value" c
  | named name =>
      cases wild : name.wildcard with
      | false => simpa [payloadOf, wild] using single name.base (s.valueOf name)
      | true =>
          have distinct : ((s.values.members name.key).map Prod.fst).Nodup := by
            refine List.nodup_iff_pairwise_ne.2 (List.pairwise_map.2 ?_)
            refine (s.values.members_ordered name.key).imp fun below same => ?_
            rw [same] at below
            exact String.lt_irrefl _ below
          simp only [payloadOf, wild, if_true]
          rw [KeyMap.get?_ofList distinct]
          exact ValueMap.mem_members

/-- **What is set and nothing else is handed over**: either a payload of just the set values that the operand
stands for, of which there are some, or a warning that there are none. -/
inductive HandsSet (s : Session) (o : Operand) (t : Session) : Prop
  | payload (p : Payload) (filled : p.isEmpty = false)
      (set : ∀ key v, p.get? key = some v ↔ o.StandsFor s.values key v)
      (emitted : t.host.emitted = s.host.emitted ++ [.payload s.context.script p])
  | warning (hnone : ∀ key v, ¬ o.StandsFor s.values key v)
      (emitted : t.host.emitted = s.host.emitted ++
        [.broadcast ⟨.warning, s.context.script, s!"hurl: nothing is set under {o.display}"⟩])

theorem emitted_exec_hurl (s : Session) (o : Operand) :
    (s.exec (.hurl o)).2.host.emitted = s.host.emitted ++
      [if (s.payloadOf o).isEmpty then
        .broadcast ⟨.warning, s.context.script, s!"hurl: nothing is set under {o.display}"⟩
      else .payload s.context.script (s.payloadOf o)] := by
  simp only [exec, execHurl]
  split <;> rfl

/-- The values of a payload are those that the operand stands for, unless it is a plain name that is not
set. -/
theorem get?_payloadOf_iff_standsFor (spoken : o.Spoken) (set : ¬ o.Unset s.values) (key : String)
    (v : Value) : (s.payloadOf o).get? key = some v ↔ o.StandsFor s.values key v := by
  rw [get?_payloadOf]
  cases o with
  | constant c =>
      have filled : c.isEmpty = false := spoken c rfl
      simp only [Operand.StandsFor]
      constructor
      · rintro ⟨rfl, rfl⟩
        exact ⟨filled, rfl, rfl⟩
      · exact And.right
  | named name =>
      simp only [Operand.StandsFor]
      cases wild : name.wildcard with
      | true => simp [and_comm]
      | false =>
          obtain ⟨w, found, filled⟩ : ∃ w, s.values.get? name.key = some w ∧ w.isEmpty = false := by
            refine ValueMap.isSet_eq_true_iff.1 (Bool.not_eq_false _ ▸ fun unset => ?_)
            exact set ⟨name, rfl, wild, unset⟩
          have read : s.valueOf name = w := by simp [valueOf, ValueMap.read, found]
          simp only [read, found, Bool.false_eq_true, if_false, Option.some.injEq]
          constructor
          · rintro ⟨rfl, rfl⟩
            exact ⟨filled, rfl, rfl⟩
          · rintro ⟨_, rfl, rfl⟩
            exact ⟨rfl, rfl⟩

/-- A plain name that is not set is read as empty, and goes out as that. -/
theorem payloadOf_of_unset {name : ScopedName} (plain : name.wildcard = false)
    (unset : s.values.isSet name.key = false) :
    s.payloadOf (.named name) = .ofList [(name.base, .empty)] := by
  have read : s.valueOf name = .empty := by
    cases found : s.values.get? name.key with
    | none => simp [valueOf, ValueMap.read, found]
    | some v =>
        have bare : v.text = "" := by simpa [ValueMap.isSet, found, Value.isEmpty] using unset
        simp only [valueOf, ValueMap.read, found, Option.getD_some]
        exact Value.ext_text bare
  simp [payloadOf, plain, read]

/-- **Only set values are handed over, just if the operand is not a plain name that is not set.**  Whatever
line with the keyword `hurl` compiles, in every session it hands over just the set values that its operand
stands for, or warns that there are none; but for a plain name that is not set it hands over an empty value
under that name. -/
theorem hurl_hands_set_iff {keyword tail : String} {i : Instruction}
    (hurl : Case.asciiLowercase keyword = "hurl") (compiles : Instruction.read? keyword tail = some i)
    (s : Session) :
    ∃ o, i = .execute (.hurl o) ∧
      (s.HandsSet o (s.exec (.hurl o)).2 ↔ ¬ o.Unset s.values) ∧
      ∀ name, o = .named name → name.wildcard = false → s.values.isSet name.key = false →
        (s.exec (.hurl o)).2.host.emitted = s.host.emitted ++
          [.payload s.context.script (.ofList [(name.base, .empty)])] := by
  obtain ⟨o, rfl, spoken⟩ := Instruction.read?_hurl hurl compiles
  have unsets : ∀ name, o = .named name → name.wildcard = false → s.values.isSet name.key = false →
      (s.exec (.hurl o)).2.host.emitted = s.host.emitted ++
        [.payload s.context.script (.ofList [(name.base, .empty)])] := by
    rintro name rfl plain unset
    rw [emitted_exec_hurl, payloadOf_of_unset plain unset]
    rfl
  refine ⟨o, rfl, ⟨?_, ?_⟩, unsets⟩
  · rintro hands ⟨name, rfl, plain, unset⟩
    have out := unsets name rfl plain unset
    cases hands with
    | warning _ emitted =>
        rw [emitted] at out
        simp at out
    | payload p _ set emitted =>
        -- the empty value is in the payload, though it is not set
        rw [emitted] at out
        obtain rfl : p = .ofList [(name.base, .empty)] := by simpa using out
        have inside : (KeyMap.ofList [(name.base, Value.empty)]).get? name.base = some .empty := by
          simp [KeyMap.get?_ofList]
        exact absurd ((set _ _).1 inside).1 (by decide)
  · intro set
    have values := get?_payloadOf_iff_standsFor spoken set
    cases empty : (s.payloadOf o).isEmpty with
    | false =>
        refine .payload _ empty values ?_
        rw [emitted_exec_hurl, empty]
        rfl
    | true =>
        refine .warning (fun key v stands => ?_) ?_
        · exact KeyMap.isEmpty_eq_true_iff.1 empty key v ((values key v).2 stands)
        · rw [emitted_exec_hurl, empty]
          rfl

/-- A session in which one member of a wildcard is set, and another was only read. -/
def eventful : Session :=
  ⟨.ofInputs "s" { values := ValueMap.touch (.ofList [("!ev.kind", .ofText "raid")]) "!ev.none" }, {}⟩

/-- The keyword may be written in any case.  The member that was only read is there and is not handed over. -/
theorem hurl_hands_set_members :
    let o : Operand := .named ⟨.script, "ev.", true⟩
    Instruction.read? "Hurl" " !ev.*" = some (.execute (.hurl o)) ∧
      eventful.values.get? "!ev.none" = some .empty ∧
      eventful.HandsSet o (eventful.exec (.hurl o)).2 ∧
      (Emission.payloads (eventful.exec (.hurl o)).2.host.emitted).map KeyMap.entries =
        [[("kind", .ofText "raid")]] := by
  intro o
  have line : (Item.ofInstruction (Instruction.read? "Hurl" " !ev.*")).statement? = some (.hurl o) := by
    decide +kernel
  cases read : Instruction.read? "Hurl" " !ev.*" with
  | none =>
      rw [read] at line
      cases line
  | some i =>
      obtain ⟨o', rfl, hands, _⟩ := hurl_hands_set_iff (by decide +kernel) read eventful
      rw [read] at line
      obtain rfl : o' = o := by simpa [Item.ofInstruction, Item.statement?] using line
      refine ⟨rfl, by decide +kernel, hands.2 ?_, by decide +kernel⟩
      rintro ⟨name, is, plain, _⟩
      obtain rfl : ⟨.script, "ev.", true⟩ = name := Operand.named.inj is
      cases plain

/-- **An empty value is handed over**: a plain name that was never set goes out with the empty value that the
read itself has left behind, and nothing is said. -/
theorem hurl_hands_unset :
    let s : Session := ⟨.ofInputs "s" {}, {}⟩
    let o : Operand := .named ⟨.script, "solo", false⟩
    let t := (s.exec (.hurl o)).2
    (Item.ofText "hurl !solo").statement? = some (.hurl o) ∧ s.values.get? "!solo" = none ∧
      (Emission.payloads t.host.emitted).map KeyMap.entries = [[("solo", .ofText "")]] ∧
      Emission.messagesAt .warning t.host.emitted = [] := by
  decide +kernel

end Session

end LineScript
