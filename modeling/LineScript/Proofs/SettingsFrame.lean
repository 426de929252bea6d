import LineScript.Proofs.Aside

/-!
**No statement looks at the settings.**

The settings of an invocation say how long it may sleep and how many statements it may execute.  Both
are for the loop that executes the statements; the statements themselves neither read the settings
nor change them.  So a statement does the same under other settings, and all that was there before is
there afterwards, settings included.

Main definition:

* `LineScript.Session.withSettings` — the session under other settings.

Main result:

* `LineScript.Session.exec_withSettings` — **a statement does the same under other settings**.
-/

set_option autoImplicit false

namespace LineScript.Session

/-- The session under other settings. -/
def withSettings (s : Session) (settings : Settings) : Session :=
  { s with context.settings := settings }

variable (s : Session) (settings : Settings)

@[simp] theorem withSettings_host : (s.withSettings settings).host = s.host := rfl

/-- Values, output, storage and lock are all away from the settings. -/
theorem farAside_withSettings : FarAside fun s => s.withSettings settings where
  values _ := rfl
  buffer _ := rfl
  script _ := rfl
  draws _ := rfl
  clock _ := rfl
  setValues _ _ := rfl
  setBuffer _ _ := rfl
  setDraws _ _ := rfl
  emit _ _ := rfl
  storage _ := rfl
  lock _ := rfl
  lockWait _ := rfl
  setStorage _ _ := rfl
  setLock _ _ := rfl

theorem flush_withSettings : (s.withSettings settings).flush = s.flush.withSettings settings :=
  (farAside_withSettings settings).flush s

theorem releaseLock_withSettings :
    (s.withSettings settings).releaseLock = s.releaseLock.withSettings settings :=
  (farAside_withSettings settings).releaseLock s

/-! ### Lists -/

theorem storeRecord_withSettings (target : ScopedName) (r : Record) :
    (s.withSettings settings).storeRecord target r =
      (s.storeRecord target r).withSettings settings := by
  unfold storeRecord
  split
  · rfl
  · split <;> rfl

theorem storeFound_withSettings (target : ScopedName) (found : Except ListError (Option Record)) :
    storeFound target (found, s.withSettings settings) =
      ((storeFound target (found, s)).1, (storeFound target (found, s)).2.withSettings settings) := by
  cases found with
  | error e => rfl
  | ok r =>
      cases r with
      | none => rfl
      | some r => exact Prod.ext rfl (storeRecord_withSettings s settings target r)

theorem listEffect_withSettings (st : ListStatement) :
    (s.withSettings settings).listEffect st =
      ((s.listEffect st).1, (s.listEffect st).2.withSettings settings) := by
  cases st with
  | get target index =>
      exact storeFound_withSettings
        ((s.touch index).onDesk fun d h => d.get h (s.value index).number.toInt).2 settings target _
  | move m target =>
      exact storeFound_withSettings (s.onDesk fun d h => d.move h m).2 settings target _
  | add source =>
      have record : (s.withSettings settings).recordOf source = s.recordOf source := rfl
      have read : (s.withSettings settings).collected source =
          (s.collected source).withSettings settings := by
        unfold collected
        split <;> rfl
      simp only [listEffect, record, read]
      split <;> rfl
  | remove index => cases index <;> rfl
  | _ => rfl

theorem execList_withSettings (st : ListStatement) :
    (s.withSettings settings).execList st = (s.execList st).withSettings settings := by
  simp only [execList, listEffect_withSettings]
  rcases s.listEffect st with ⟨_ | _, t⟩ <;> rfl

/-! ### All statements -/

/-- **A statement does the same under other settings**, and leaves them as they are. -/
theorem exec_withSettings (st : Statement) :
    (s.withSettings settings).exec st =
      ((s.exec st).1, (s.exec st).2.withSettings settings) := by
  by_cases about : ∃ q, st = .list q
  · obtain ⟨q, rfl⟩ := about
    exact Prod.ext rfl (execList_withSettings s settings q)
  · exact (farAside_withSettings settings).exec s (fun q same => about ⟨q, same⟩)
      fun _ _ _ _ => rfl

end LineScript.Session
