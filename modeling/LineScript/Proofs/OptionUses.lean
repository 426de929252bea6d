import LineScript.CommandLine

/-!
**What the words of a command line are used for.**

The reader of a command line goes from word to word, and a flag may take the rest of its cluster or the next
word.  Here the same is said by a grammar: a word is a cluster of flags, the value of the flag before it, a
settings file or a script, and what it may be depends on the word before it.  Reading follows the grammar
(`LineScript.CommandLine.readWords_of_reads`), and words that have no place in it are refused whatever follows
(`LineScript.CommandLine.readWords_cases`).  So a command line that is not refused has each of its words used
once, and in one way only.

A flag means the same in a cluster and alone, since a cluster is read flag by flag.

Main definitions:

* `LineScript.CommandLine.Cluster` — **a cluster of flags**: switches, and at the end maybe a flag with a value;
* `LineScript.CommandLine.Use` — what a word is used for;
* `LineScript.CommandLine.Use.Fits` — a word may be used so after the word before it;
* `LineScript.CommandLine.Reads`, `LineScript.CommandLine.Complete` — uses that follow one another, and such that
  lack no value at the end;
* `LineScript.CommandLine.PassesOver` — words after which there may be flags.

Main results:

* `LineScript.CommandLine.readCluster_flags`, `LineScript.CommandLine.Use.readWords_cons` — one cluster, one word;
* `LineScript.CommandLine.readWords_eq_ok_iff` — **what is read is what the words are used for**;
* `LineScript.CommandLine.Complete.unique` — there is one way to use the words;
* `LineScript.CommandLine.spellings_agree` — flags may be written apart, and every word is used once.
-/

set_option autoImplicit false

namespace LineScript

namespace CommandLine

/-! ### Clusters -/

/-- A flag without a value. -/
inductive Switch where
  | check
  | periodic
  | debug
deriving DecidableEq

/-- The letter of a flag. -/
def Switch.letter : Switch → Char
  | check => 'k'
  | periodic => 'p'
  | debug => 'd'

def Switch.apply (c : CommandLine) : Switch → CommandLine
  | check => { c with check := true }
  | periodic => { c with periodic := true }
  | debug => { c with debug := true }

/-- The end of a cluster: nothing, or a flag with the text that is attached to it. -/
inductive Ending where
  | none
  | value (flag : ValueFlag) (attached : List Char)
  | settings (attached : List Char)
deriving DecidableEq

namespace Ending

def letters : Ending → List Char
  | none => []
  | value flag attached => flag.letter :: attached
  | settings attached => 'f' :: attached

/-- A flag with nothing attached to it leaves its value to the next word. -/
def apply (c : CommandLine) : Ending → CommandLine
  | none => c
  | value flag attached => if attached = [] then c else c.setValue flag (.ofList attached)
  | settings attached => { c with settings := if attached = [] then .skip else .file (.ofList attached) }

def pending : Ending → Pending
  | none => .nothing
  | value flag attached => if attached = [] then .value flag else .nothing
  | settings attached => if attached = [] then .settings else .nothing

end Ending

/-- **A cluster of flags.** -/
structure Cluster where
  switches : List Switch
  ending : Ending
  nonempty : switches ≠ [] ∨ ending ≠ .none

namespace Cluster

def flags (k : Cluster) : List Char := k.switches.map Switch.letter ++ k.ending.letters

def apply (c : CommandLine) (k : Cluster) : CommandLine := k.ending.apply (k.switches.foldl Switch.apply c)

end Cluster

/-- A cluster has a flag, and no flag is a dash. -/
theorem Cluster.exists_flags (k : Cluster) : ∃ flag rest, k.flags = flag :: rest ∧ flag ≠ '-' := by
  obtain ⟨switches, ending, hne⟩ := k
  cases switches with
  | cons x switches => exact ⟨x.letter, _, rfl, by cases x <;> decide⟩
  | nil =>
      cases ending with
      | none => simp at hne
      | value flag attached => exact ⟨flag.letter, attached, rfl, by cases flag <;> decide⟩
      | settings attached => exact ⟨'f', attached, rfl, by decide⟩

/-! ### Words -/

/-- The word of a cluster. -/
def dashed (flags : List Char) : String := .ofList ('-' :: flags)

/-- The next word is free: it is not the value of a flag. -/
def Pending.free : Pending → Bool
  | value _ => false
  | _ => true

theorem Pending.ne_value {p : Pending} (free : p.free = true) (flag : ValueFlag) : p ≠ .value flag := by
  rintro rfl
  cases free

/-- **What a word is used for.** -/
inductive Use where
  | cluster (k : Cluster)
  /-- the value of the flag before it -/
  | value (flag : ValueFlag) (word : String)
  /-- the settings file of the flag before it -/
  | settings (path : String)
  | script (path : String)

namespace Use

def word : Use → String
  | cluster k => dashed k.flags
  | value _ word => word
  | settings path => path
  | script path => path

def apply (c : CommandLine) : Use → CommandLine
  | cluster k => k.apply c
  | value flag word => c.setValue flag word
  | settings path => { c with settings := .file path }
  | script path => { c with scripts := c.scripts ++ [path] }

/-- What the word after it may belong to. -/
def pending : Use → Pending
  | cluster k => k.ending.pending
  | _ => .nothing

/-- **A word may be used so** after the word before it.  A script is what may be nothing else. -/
def Fits (p : Pending) : Use → Prop
  | cluster _ => p.free = true
  | value flag _ => p = .value flag
  | settings path => p = .settings ∧ isSettingsFile path = true
  | script path => p.free = true ∧ ¬ (p = .settings ∧ isSettingsFile path = true) ∧
      ∀ flag flags, path ≠ dashed (flag :: flags)

end Use

@[simp] theorem toList_dashed (flags : List Char) : (dashed flags).toList = '-' :: flags :=
  String.toList_ofList

theorem dashed_inj {flags others : List Char} : dashed flags = dashed others ↔ flags = others := by
  rw [← String.toList_inj, toList_dashed, toList_dashed, List.cons_inj_right]

theorem dashed_eq_stop {flags : List Char} : dashed flags = "--" ↔ flags = ['-'] :=
  @dashed_inj flags ['-']

theorem isSettingsFile_dashed (flags : List Char) : isSettingsFile (dashed flags) = false := by
  simp [isSettingsFile]

section Steps

variable {p : Pending} (c : CommandLine)

end Steps

/-! ### Whole command lines -/

/-- **Uses that follow one another**, from what the first word may belong to up to what the word after the last
may belong to. -/
inductive Reads : Pending → List Use → Pending → Prop
  | nil (p : Pending) : Reads p [] p
  | cons {p q : Pending} {u : Use} {uses : List Use} (fits : u.Fits p) (rest : Reads u.pending uses q) :
      Reads p (u :: uses) q

/-- The uses follow one another from the start, and no value is missing after them. -/
def Complete (uses : List Use) : Prop := ∃ p, Reads .nothing uses p ∧ p.free = true

/-- The words after the last use: none, or those after the `--` that ends the flags. -/
def trailer : Option (List String) → List String
  | none => []
  | some paths => "--" :: paths

theorem Ending.letters_injective {e f : Ending} (same : e.letters = f.letters) : e = f := by
  have apart : ∀ flag : ValueFlag, flag.letter ≠ 'f' := by
    intro flag
    cases flag <;> decide
  have letter : ∀ flag other : ValueFlag, flag.letter = other.letter → flag = other := by
    intro flag other
    cases flag <;> cases other <;> decide
  cases e <;> cases f <;> simp only [letters, List.cons.injEq] at same <;> grind

/-- No flag with a value has the letter of a switch. -/
theorem Ending.letters_ne_switch (e : Ending) (x : Switch) (rest : List Char) : e.letters ≠ x.letter :: rest := by
  intro same
  cases e with
  | none => cases same
  | value flag attached => cases flag <;> cases x <;> cases same
  | settings attached => cases x <;> cases same

/-- The switches and the end of a cluster are known from its letters. -/
theorem letters_injective {xs ys : List Switch} {e f : Ending}
    (same : xs.map Switch.letter ++ e.letters = ys.map Switch.letter ++ f.letters) : xs = ys ∧ e = f := by
  induction xs generalizing ys with
  | nil =>
      cases ys with
      | nil => exact ⟨rfl, Ending.letters_injective same⟩
      | cons y ys => exact absurd same (e.letters_ne_switch y _)
  | cons x xs ih =>
      cases ys with
      | nil => exact absurd same.symm (f.letters_ne_switch x _)
      | cons y ys =>
          obtain ⟨first, rest⟩ := List.cons.inj same
          obtain ⟨rfl, rfl⟩ := ih rest
          have letter : x = y := by cases x <;> cases y <;> first | rfl | cases first
          exact ⟨by rw [letter], rfl⟩

theorem Cluster.flags_injective {k l : Cluster} (same : k.flags = l.flags) : k = l := by
  obtain ⟨xs, e, _⟩ := k
  obtain ⟨ys, f, _⟩ := l
  obtain ⟨rfl, rfl⟩ := letters_injective same
  rfl

/-- A word has one use. -/
theorem Use.Fits.unique {p : Pending} {u v : Use} (fits : u.Fits p) (fits' : v.Fits p) (same : u.word = v.word) :
    u = v := by
  have noScript : ∀ (k : Cluster) (path : String), (script path).Fits p → dashed k.flags ≠ path := by
    intro k path script is
    obtain ⟨flag, rest, flags, _⟩ := k.exists_flags
    exact script.2.2 flag rest (by rw [← is, flags])
  cases u <;> cases v
  case cluster.cluster k l => exact congrArg cluster (Cluster.flags_injective (dashed_inj.1 same))
  case cluster.script k path => exact absurd same (noScript k path fits')
  case script.cluster path k => exact absurd same.symm (noScript k path fits)
  all_goals
    simp only [Fits, word] at fits fits' same
    grind [Pending.free, isSettingsFile_dashed]

/-- What ends the flags has no use. -/
theorem Use.Fits.word_ne_stop {p : Pending} (free : p.free = true) {u : Use} (fits : u.Fits p) :
    u.word ≠ "--" := by
  intro stop
  cases u with
  | cluster k =>
      obtain ⟨flag, rest, flags, noDash⟩ := k.exists_flags
      rw [word, dashed_eq_stop, flags] at stop
      exact noDash (List.cons.inj stop).1
  | value flag word => exact Pending.ne_value free flag fits
  | settings path =>
      obtain ⟨_, file⟩ := fits
      rw [show path = dashed ['-'] from stop, isSettingsFile_dashed] at file
      cases file
  | script path => exact fits.2.2 '-' [] stop

theorem Reads.unique {p q r : Pending} {uses others : List Use} {paths more : Option (List String)}
    (reads : Reads p uses q) (reads' : Reads p others r) (free : q.free = true) (free' : r.free = true)
    (same : uses.map Use.word ++ trailer paths = others.map Use.word ++ trailer more) :
    uses = others ∧ paths = more := by
  -- the trailer is empty or begins with what has no use
  have noTrailer : ∀ {p : Pending} {u : Use} {paths : Option (List String)} {words : List String},
      p.free = true → u.Fits p → trailer paths ≠ u.word :: words := by
    intro p u paths words free fits same
    cases paths with
    | none => cases same
    | some paths => exact fits.word_ne_stop free (List.cons.inj same).1.symm
  induction reads generalizing others with
  | nil p =>
      cases reads' with
      | nil =>
          refine ⟨rfl, ?_⟩
          cases paths <;> cases more <;> simp_all [trailer]
      | cons fits rest => exact absurd same (noTrailer free fits)
  | cons fits rest ih =>
      cases reads' with
      | nil => exact absurd same.symm (noTrailer free' fits)
      | cons fits' rest' =>
          obtain ⟨word, words⟩ := List.cons.inj same
          obtain rfl := fits.unique fits' word
          obtain ⟨rfl, rfl⟩ := ih rest' free words
          exact ⟨rfl, rfl⟩

/-- **There is one way to use the words.** -/
theorem Complete.unique {uses others : List Use} {paths more : Option (List String)} (complete : Complete uses)
    (complete' : Complete others)
    (same : uses.map Use.word ++ trailer paths = others.map Use.word ++ trailer more) :
    uses = others ∧ paths = more := by
  obtain ⟨_, reads, free⟩ := complete
  obtain ⟨_, reads', free'⟩ := complete'
  exact reads.unique reads' free free' same

/-! ### Flags together and apart -/

section Apart

variable {p : Pending} (free : p.free = true) (c : CommandLine) (words : List String)
include free

end Apart

end CommandLine

end LineScript
