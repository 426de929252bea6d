import LineScript.Compile
import LineScript.Proofs.Readers

/-!
**A line is refused exactly when it is at fault.**

What a reader yields and what it records are two different things.  They agree: a reader that starts without
a fault yields an instruction just when it has recorded none, and where it yields none it says why.  So the
names in what it yields are well formed, and the draft of a text takes it up as it is.

Main results:

* `LineScript.Instruction.reader_decides` — **a keyword's reader yields an instruction if and only if it
  finds no fault**, and the draft of a text never has to make up for one that does otherwise.
-/

set_option autoImplicit false

namespace LineScript.Instruction

/-- **A keyword's reader yields an instruction if and only if it finds no fault.**  All names in what is
executed are well formed, with wildcards only where the keyword allows one, and its target is a
variable.  A reader that yields nothing has said why, and a draft takes up just what was yielded and
notes what was found. -/
theorem reader_decides {keyword : String} {read : String → Reading Instruction}
    (known : reader? keyword = some read) (tail : String) :
    (((read tail).outcome []).1.isSome = true ↔ sound ((read tail).outcome []).2 = true) ∧
    (∀ s, ((read tail).outcome []).1 = some (.execute s) →
      (∀ target, s.target? = some target → target.scope = .script ∧
        Name.isPlain target.base = true ∧
        (target.wildcard = true → Case.asciiLowercase keyword ∈ Statement.wildTargets)) ∧
      (∀ name ∈ s.names, Name.isPlain name.base = true ∧
        (name.wildcard = true → Case.asciiLowercase keyword ∈ Statement.wildNames))) ∧
    (((read tail).outcome []).1 = none → ∃ f, .fault f ∈ ((read tail).outcome []).2) ∧
    ∀ (d : Draft) (line : Nat), d.addKeyword line keyword tail =
      match ((read tail).outcome []).1 with
      | some i => (d.addInstruction line i).note line ((read tail).outcome []).2
      | none => d.note line ((read tail).outcome []).2 := by
  have settles := settles_reader known tail
  have fresh : sound [] = true := rfl
  refine ⟨?_, fun s yields => ?_, fun hnone => ?_, fun d line => ?_⟩
  · cases result : ((read tail).outcome []).1 with
    | none => simp [settles.refuses fresh result]
    | some i => simp [settles.accepts fresh result]
  · obtain ⟨target, others⟩ := settles.only yields
    refine ⟨fun name is => ?_, fun name mem => ⟨(others name mem).base, (others name mem).mark⟩⟩
    obtain ⟨own, fits⟩ := target is
    exact ⟨own, fits.base, fits.mark⟩
  · exact exists_fault_of_unsound (settles.refuses fresh hnone)
  · unfold Draft.addKeyword
    rw [known]
    cases outcome : (read tail).outcome [] with
    | mk result found =>
        cases result with
        | none =>
            have unsound : sound found = false := by
              simpa [outcome] using settles.refuses fresh (congrArg Prod.fst outcome)
            simp only [outcome, unsound, Bool.false_eq_true, if_false]
        | some i =>
            have still : sound found = true := by
              simpa [outcome] using settles.accepts fresh (congrArg Prod.fst outcome)
            simp only [outcome, still, if_true]

/-- A line in capitals with two operands at fault: both faults are found, nothing is yielded, and the draft
notes just the two. -/
theorem reader_decides_two_faults :
    ∃ read, reader? "RANGE" = some read ∧ ((read "!n #low $").outcome []).1.isSome = false ∧
      (({} : Draft).addKeyword 1 "RANGE" "!n #low $").findings =
        #[⟨1, .fault (.badValueName "#low" false)⟩, ⟨1, .fault (.badValueName "$" false)⟩] := by
  have known : reader? "RANGE" = some fun tail => execute <$> Grammar.bounded .clamp tail := rfl
  have found : ((execute <$> Grammar.bounded .clamp "!n #low $").outcome []).2 =
      [.fault (.badValueName "#low" false), .fault (.badValueName "$" false)] := by
    decide +kernel
  obtain ⟨yields, _, _, notes⟩ := reader_decides known "!n #low $"
  have refused : ((execute <$> Grammar.bounded .clamp "!n #low $").outcome []).1 = none := by
    rw [← Option.not_isSome_iff_eq_none, yields, found]
    decide
  refine ⟨_, known, by rw [refused]; rfl, ?_⟩
  rw [notes, refused, found]
  rfl

end LineScript.Instruction
