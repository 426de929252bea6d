import LineScript.Proofs.SettingLines
import LineScript.Proofs.Written

/-!
**A quoted value is set to the character.**

The value of a setting may have blanks, signs of comments, equals signs, quotes and backslashes in it if it
is written in double quotes, with a backslash before each quote and each backslash.  The items of a line are
found by one scan that turns at every quote and looks one character ahead after every backslash.  Inside the
quotes each character of the value is put on the item, and nothing else is; the quote at the end closes the
item, even an empty one.  So the two forms of a line, with a blank and with an equals sign between name and
value, both give the setting just the value.

Main definitions:

* `LineScript.Settings.quoted` — a text in double quotes;
* `LineScript.Settings.quotedLine` — a line that gives a setting a quoted value.

Main results:

* `LineScript.Settings.itemsFrom_quoted` — the scan of a quoted text puts the text on the item;
* `LineScript.Settings.items_quoted` — **the items of quoted texts are the texts**;
* `LineScript.Settings.assigns_quoted` — both forms of a line give the name the value;
* `LineScript.Settings.quoted_round_trip` — a quoted value comes back from a line, and from a text.
-/

set_option autoImplicit false

namespace LineScript

/-- A text with no blank at either end stays as it is when it is trimmed. -/
theorem Blank.trim_of_ends {cs : List Char} (first : ∀ c ∈ cs.head?, Blank.isBlank c = false)
    (last : ∀ c ∈ cs.getLast?, Blank.isBlank c = false) : Blank.trim cs = cs := by
  have front : Blank.trimStart cs = cs := by
    cases cs with
    | nil => rfl
    | cons c cs => simp [Blank.trimStart, first c rfl]
  rw [Blank.trim, front, Blank.trimEnd]
  cases back : cs.reverse with
  | nil => simpa using back.symm
  | cons d ds =>
      have solid : Blank.isBlank d = false := last d (by rw [← List.head?_reverse, back]; rfl)
      rw [List.dropWhile_cons, if_neg (by simp [solid]), ← back, List.reverse_reverse]

namespace Settings

/-! ### The scan of a line -/

variable (inside quote : Bool) (item cs : List Char) {c : Char}

theorem itemsFrom_quote :
    itemsFrom inside quote item ('"' :: cs) = itemsFrom (!inside) true item cs := by
  rw [itemsFrom.eq_def]
  simp

/-- Inside quotes a backslash makes the next character stand for itself. -/
theorem itemsFrom_backslash (c : Char) :
    itemsFrom true quote item ('\\' :: c :: cs) = itemsFrom true quote (c :: item) cs := by
  rw [itemsFrom.eq_def]
  simp

theorem itemsFrom_inside (notQuote : c ≠ '"') (notBackslash : c ≠ '\\') :
    itemsFrom true quote item (c :: cs) = itemsFrom true quote (c :: item) cs := by
  rw [itemsFrom.eq_def]
  simp [notQuote, notBackslash]

theorem itemsFrom_outside (notQuote : c ≠ '"') (solid : Blank.isAsciiBlank c = false) :
    itemsFrom false quote item (c :: cs) = itemsFrom false quote (c :: item) cs := by
  rw [itemsFrom.eq_def]
  simp [notQuote, solid]

/-- A blank outside of quotes ends an item, if there is one. -/
theorem itemsFrom_space (kept : item ≠ [] ∨ quote = true) :
    itemsFrom false quote item (' ' :: cs) = .ofList item.reverse :: itemsFrom false false [] cs := by
  have hsome : (item.isEmpty && !quote) = false := by
    rcases kept with kept | kept
    · simp [kept]
    · simp [kept]
  rw [itemsFrom.eq_def]
  simp [hsome, Blank.isAsciiBlank]

/-- A character that stands for itself outside of quotes. -/
def Plain (c : Char) : Prop := c ≠ '"' ∧ Blank.isAsciiBlank c = false

instance (c : Char) : Decidable (Plain c) := inferInstanceAs (Decidable (_ ∧ _))

theorem itemsFrom_plain {word : List Char} (plain : ∀ c ∈ word, Plain c) (item rest : List Char) :
    itemsFrom false quote item (word ++ rest) = itemsFrom false quote (word.reverse ++ item) rest := by
  induction word generalizing item with
  | nil => rfl
  | cons c word ih =>
      obtain ⟨notQuote, solid⟩ := plain c (by simp)
      rw [List.cons_append, itemsFrom_outside quote item _ notQuote solid,
        ih (fun d mem => plain d (by simp [mem])), List.reverse_cons, List.append_assoc]
      rfl

/-! ### Quoted texts -/

/-- A backslash comes before a quote and before a backslash. -/
def escape (c : Char) : List Char := if c = '"' ∨ c = '\\' then ['\\', c] else [c]

/-- **A text in double quotes**, with a backslash before each quote and each backslash in it. -/
def quoted (text : String) : String := .ofList ('"' :: (text.toList.flatMap escape ++ ['"']))

/-- Up to the closing quote, the scan puts each character on the item. -/
theorem itemsFrom_escaped (text item rest : List Char) :
    itemsFrom true quote item (text.flatMap escape ++ '"' :: rest) =
      itemsFrom false true (text.reverse ++ item) rest := by
  induction text generalizing item with
  | nil => exact itemsFrom_quote true quote item rest
  | cons c text ih =>
      rw [List.flatMap_cons, List.append_assoc, List.reverse_cons, List.append_assoc]
      by_cases special : c = '"' ∨ c = '\\'
      · rw [escape, if_pos special]
        exact (itemsFrom_backslash quote item _ c).trans (ih (c :: item))
      · obtain ⟨notQuote, notBackslash⟩ := not_or.1 special
        rw [escape, if_neg special]
        exact (itemsFrom_inside quote item _ notQuote notBackslash).trans (ih (c :: item))

/-- **The scan of a quoted text puts the text on the item**, and the item counts even if it is empty. -/
theorem itemsFrom_quoted (text : String) (rest : List Char) :
    itemsFrom false quote item ((quoted text).toList ++ rest) =
      itemsFrom false true (text.toList.reverse ++ item) rest := by
  have chars : (quoted text).toList ++ rest =
      '"' :: (text.toList.flatMap escape ++ '"' :: rest) := by
    simp [quoted]
  rw [chars, itemsFrom_quote, Bool.not_false, itemsFrom_escaped]

theorem itemsFrom_quoted_last (text : String) :
    itemsFrom false quote item (quoted text).toList =
      [.ofList (text.toList.reverse ++ item).reverse] := by
  have scan := itemsFrom_quoted quote item text []
  rw [List.append_nil] at scan
  rw [scan, itemsFrom]
  simp

/-- **The items of quoted texts with a blank between them are the texts.** -/
theorem items_quoted (texts : List String) : items (" ".intercalate (texts.map quoted)) = texts := by
  unfold items
  induction texts with
  | nil => rfl
  | cons text texts ih =>
      cases texts with
      | nil =>
          rw [List.map_singleton, String.intercalate_singleton, itemsFrom_quoted_last]
          simp
      | cons next texts =>
          have chars : (" ".intercalate ((text :: next :: texts).map quoted)).toList =
              (quoted text).toList ++ ' ' :: (" ".intercalate ((next :: texts).map quoted)).toList := by
            rw [List.map_cons, String.intercalate_cons_of_ne_nil (by simp)]
            simp
          rw [chars, itemsFrom_quoted, itemsFrom_space true _ _ (.inr rfl), ih]
          simp

/-! ### Lines -/

/-- A text that ends in a quoted text has no blank at its end, and none is lost when it is trimmed. -/
theorem trim_append_quoted {front : List Char} (solid : ∀ c ∈ front.head?, Blank.isBlank c = false)
    (v : String) : Blank.trim (front ++ (quoted v).toList) = front ++ (quoted v).toList := by
  apply Blank.trim_of_ends
  · cases front with
    | nil => simp [quoted, Blank.isBlank]
    | cons c front => simpa using solid
  · have last : front ++ (quoted v).toList = (front ++ '"' :: v.toList.flatMap escape) ++ ['"'] := by
      simp [quoted]
    rw [last, List.getLast?_concat]
    simp [Blank.isBlank]

/-- What follows the word of the directive says what the line gives. -/
theorem assigns_of_items {front : List Char} {v name value : String}
    (solid : ∀ c ∈ front.head?, Blank.isBlank c = false)
    (given : assignment (items (.ofList (front ++ (quoted v).toList))) = .ok (name, value)) :
    Assigns (.ofList ("set ".toList ++ front ++ (quoted v).toList)) name value := by
  have whole : Text.trim (.ofList ("set ".toList ++ front ++ (quoted v).toList)) =
      .ofList ("set ".toList ++ front ++ (quoted v).toList) := by
    rw [Text.trim, String.toList_ofList, trim_append_quoted (by simp [Blank.isBlank])]
  refine ⟨"set", .ofList (front ++ (quoted v).toList), ?_, by decide, ?_⟩
  · rw [whole, splitAtBlank, List.span_eq_takeWhile_dropWhile]
    simp [Blank.isAsciiBlank]
  · rwa [Text.trim, String.toList_ofList, trim_append_quoted solid]

/-- The characters of the name of a setting stand for themselves, and none of them is an equals sign. -/
theorem plain_of_name (f : Setting) : ∀ c ∈ f.name.toList, Plain c ∧ c ≠ '=' := by
  have all : f.name.toList.all (fun c => decide (Plain c ∧ c ≠ '=')) = true := by cases f <;> decide
  simpa using all

theorem solid_of_name (f : Setting) (more : List Char) :
    ∀ c ∈ (f.name.toList ++ more).head?, Blank.isBlank c = false := by
  cases f <;> simp [Setting.name, Blank.isBlank]

theorem splitAtEquals_of_not_mem {name : String} (without : '=' ∉ name.toList) : splitAtEquals name = none := by
  have rest : name.toList.dropWhile (· != '=') = [] := by
    rw [List.dropWhile_eq_nil_iff]
    intro c mem
    exact bne_iff_ne.2 fun same => without (same ▸ mem)
  simp [splitAtEquals, List.span_eq_takeWhile_dropWhile, rest]

theorem splitAtEquals_append {name : String} (without : '=' ∉ name.toList) (value : String) :
    splitAtEquals (name ++ "=" ++ value) = some (name, value) := by
  have all : ∀ c ∈ name.toList, (c != '=') = true := by
    intro c mem
    exact bne_iff_ne.2 fun same => without (same ▸ mem)
  have chars : (name ++ "=" ++ value).toList = name.toList ++ '=' :: value.toList := by simp
  rw [splitAtEquals, chars, List.span_eq_takeWhile_dropWhile, List.takeWhile_append_of_pos all,
    List.dropWhile_append_of_pos all]
  simp

/-- With a blank between them, the name and the value are two items. -/
theorem items_spaced (f : Setting) (v : String) :
    items (.ofList (f.name.toList ++ [' '] ++ (quoted v).toList)) = [f.name, v] := by
  have hne : f.name.toList.reverse ++ [] ≠ [] := by cases f <;> decide
  rw [items, String.toList_ofList, List.append_assoc, List.singleton_append,
    itemsFrom_plain false (fun c mem => (plain_of_name f c mem).1), itemsFrom_space false _ _ (.inl hne),
    itemsFrom_quoted_last]
  simp

/-- With an equals sign between them, they are one. -/
theorem items_joined (f : Setting) (v : String) :
    items (.ofList (f.name.toList ++ ['='] ++ (quoted v).toList)) = [f.name ++ "=" ++ v] := by
  have plain : ∀ c ∈ f.name.toList ++ ['='], Plain c := by
    intro c mem
    rcases List.mem_append.1 mem with mem | mem
    · exact (plain_of_name f c mem).1
    · obtain rfl : c = '=' := by simpa using mem
      decide
  rw [items, String.toList_ofList, itemsFrom_plain false plain, itemsFrom_quoted_last]
  simp [← String.toList_inj]

/-- **Either form of a line gives the name the value.** -/
theorem assigns_quoted (f : Setting) (v : String) {sep : Char} (form : sep = ' ' ∨ sep = '=') :
    Assigns (.ofList ("set ".toList ++ (f.name.toList ++ [sep]) ++ (quoted v).toList)) f.name v := by
  have without : '=' ∉ f.name.toList := fun mem => (plain_of_name f _ mem).2 rfl
  have named : assignment.named f.name v = .ok (f.name, v) := by cases f <;> rfl
  refine assigns_of_items (solid_of_name f [sep]) ?_
  rcases form with rfl | rfl
  · rw [items_spaced]
    simp only [assignment, splitAtEquals_of_not_mem without, String.intercalate_singleton, named]
  · rw [items_joined]
    simp only [assignment, splitAtEquals_append without, String.intercalate_singleton, named]

/-- The line that gives a setting a quoted value, with a separator between name and value. -/
def quotedLine (f : Setting) (sep v : String) : String := "set " ++ f.name ++ sep ++ quoted v

/-- **Either form of the line puts the value**, whatever the settings are. -/
theorem applyLine_quotedLine {f : Setting} {v : String} {x : f.Value} (read : f.read v = .ok x) {sep : String}
    (form : sep = " " ∨ sep = "=") (s : Settings) : s.applyLine (quotedLine f sep v) = .ok (s.put f x) := by
  have lower : Case.asciiLowercase f.name = f.name := by cases f <;> decide
  suffices assigns : Assigns (quotedLine f sep v) f.name v from
    Gives.applyLine ⟨f.name, v, assigns, lower, read⟩ s
  rcases form with rfl | rfl
  · have chars : quotedLine f " " v =
        .ofList ("set ".toList ++ (f.name.toList ++ [' ']) ++ (quoted v).toList) := by
      simp [quotedLine, ← String.toList_inj]
    exact chars ▸ assigns_quoted f v (.inl rfl)
  · have chars : quotedLine f "=" v =
        .ofList ("set ".toList ++ (f.name.toList ++ ['=']) ++ (quoted v).toList) := by
      simp [quotedLine, ← String.toList_inj]
    exact chars ▸ assigns_quoted f v (.inr rfl)

/-! ### The round trip -/

/-- A quoted text is on one line if the text is. -/
theorem not_mem_quoted {v : String} (oneLine : '\n' ∉ v.toList) : '\n' ∉ (quoted v).toList := by
  intro mem
  simp only [quoted, String.toList_ofList, List.mem_cons, List.mem_append, List.mem_flatMap,
    List.not_mem_nil, or_false] at mem
  rcases mem with quote | ⟨c, inside, mem⟩ | quote
  · exact absurd quote (by decide)
  · unfold escape at mem
    split at mem
    · rcases List.mem_cons.1 mem with backslash | mem
      · exact absurd backslash (by decide)
      · exact oneLine (List.mem_singleton.1 mem ▸ inside)
    · exact oneLine (List.mem_singleton.1 mem ▸ inside)
  · exact absurd quote (by decide)

/-- The line alone is a text with that one setting. -/
theorem ofText_quotedLine {f : Setting} {v : String} {x : f.Value} (read : f.read v = .ok x) {sep : String}
    (form : sep = " " ∨ sep = "=") (oneLine : '\n' ∉ v.toList) :
    ofText (quotedLine f sep v) = (({} : Settings).put f x, []) := by
  have named : '\n' ∉ f.name.toList := by cases f <;> decide
  have single : '\n' ∉ (quotedLine f sep v).toList := by
    rcases form with rfl | rfl
    · simp [quotedLine, named, not_mem_quoted oneLine]
    · simp [quotedLine, named, not_mem_quoted oneLine]
  have hne : (quotedLine f sep v).toList ≠ [] := by simp [quotedLine]
  have lines : Text.lines (quotedLine f sep v) = [quotedLine f sep v] := by
    simp [Text.lines, Blank.lines_of_oneLine single hne]
  rw [ofText, lines, applyLines_of_ok (applyLine_quotedLine read form {})]
  rfl

/-- **A quoted value is set to the character.**  Whatever a text without a line feed is, the line that sets
the channel or the name of the host to it in quotes, in either form, is accepted and sets it to the text:
alone, and after any other lines.  More generally, the items of quoted texts are the texts. -/
theorem quoted_round_trip {v sep : String} (oneLine : '\n' ∉ v.toList) (form : sep = " " ∨ sep = "=") :
    ofText ("set channel" ++ sep ++ quoted v) = ({ channel := v }, []) ∧
      ofText ("set self_name" ++ sep ++ quoted v) = ({ selfName := v }, []) ∧
      (∀ s : Settings, s.applyLine ("set channel" ++ sep ++ quoted v) = .ok { s with channel := v }) ∧
      (∀ s : Settings, s.applyLine ("set self_name" ++ sep ++ quoted v) = .ok { s with selfName := v }) ∧
      ∀ texts : List String, items (" ".intercalate (texts.map quoted)) = texts :=
  ⟨ofText_quotedLine (f := .channel) rfl form oneLine, ofText_quotedLine (f := .selfName) rfl form oneLine,
    applyLine_quotedLine (f := .channel) rfl form, applyLine_quotedLine (f := .selfName) rfl form, items_quoted⟩

/-- A value with all that could go wrong: blanks at both ends, signs of comments, an equals sign, quotes, a
backslash at the end, and a carriage return. -/
def awkward : String := " #a=\"b\";\t\r\\"

/-- It comes back in both forms. -/
theorem quoted_round_trip_awkward :
    quoted awkward = "\" #a=\\\"b\\\";\t\r\\\\\"" ∧
      ofText ("set channel=" ++ quoted awkward) = ({ channel := awkward }, []) ∧
      ofText ("set self_name " ++ quoted awkward) = ({ selfName := awkward }, []) := by
  have oneLine : '\n' ∉ awkward.toList := by decide
  have joined := (quoted_round_trip oneLine (.inr rfl)).1
  have spaced := (quoted_round_trip oneLine (.inl rfl)).2.1
  exact ⟨by decide +kernel, joined, spaced⟩

end Settings

end LineScript
