import Prototyper.Proofs.Settings.Quoted
import Prototyper.Settings.Document

/-!
# Settings are read back from their document

The document that holds some settings is read line by line, and what its lines say gives the same
settings again (`ofText_text`). Keys are bare words; a value stands at the end of its line, where a
quoted text has no quote behind it.
-/

namespace Prototyper

open Reader (Series bind_run_of_ok)

namespace Toml

/-! ## Keys -/

/-- A key that needs no quotes. -/
def IsBare (key : String) : Prop :=
  key.toList ≠ [] ∧ key.toList.all isKeyChar = true

instance (key : String) : Decidable (IsBare key) :=
  inferInstanceAs (Decidable (_ ∧ _))

/-- A bare key has a first character. -/
lemma IsBare.exists_cons {key : String} (h : IsBare key) : ∃ first others,
    key.toList = first :: others ∧ isKeyChar first = true ∧
      ∀ c ∈ others, isKeyChar c = true := by
  obtain ⟨nonempty, all⟩ := h
  obtain ⟨first, others, eq⟩ := List.exists_cons_of_ne_nil nonempty
  rw [eq, List.all_cons, Bool.and_eq_true] at all
  exact ⟨first, others, eq, all.1, List.all_eq_true.1 all.2⟩

/-- A character of keys differs from each one that belongs to no key. -/
lemma isKeyChar_ne {c d : Char} (h : isKeyChar c = true) (other : isKeyChar d = false) :
    c ≠ d := by
  rintro rfl
  rw [h] at other
  cases other

/-- No character of keys is a blank. -/
lemma isBlank_of_isKeyChar {c : Char} (h : isKeyChar c = true) : isBlank c = false := by
  have space : c ≠ ' ' := isKeyChar_ne h rfl
  have tab : c ≠ '\t' := isKeyChar_ne h rfl
  simp [isBlank, space, tab]

/-- Where no blank is in front, none is passed over. -/
lemma blanks_run_of_head {s : List Char} (h : ∀ c ∈ s.head?, isBlank c = false) :
    blanks.run s = .ok ((), s) :=
  bind_run_of_ok (takeWhile_run (t := []) nofun h)

/-- A bare key is read up to its end. -/
lemma keyPart_run {c : Char} {cs s : List Char} (first : isKeyChar c = true)
    (others : ∀ d ∈ cs, isKeyChar d = true) (behind : ∀ d ∈ s.head?, isKeyChar d = false) :
    (keyPart c).run (cs ++ s) = .ok (String.ofList (c :: cs), s) := by
  rw [keyPart, if_neg (isKeyChar_ne first rfl), if_neg (isKeyChar_ne first rfl), if_pos first,
    bind_run_of_ok (takeWhile_run others behind)]
  rfl

/-- A bare key without a dot behind it is a key of one part. -/
lemma keyPath_run {c : Char} {cs s s' : List Char} (first : isKeyChar c = true)
    (others : ∀ d ∈ cs, isKeyChar d = true) (behind : ∀ d ∈ s.head?, isKeyChar d = false)
    (blank : blanks.run s = .ok ((), s')) (noDot : s'.head? ≠ some '.') :
    (keyPath c).run (cs ++ s) = .ok ([String.ofList (c :: cs)], s') := by
  have ends : Series furtherPart? s' [] s' := .nil (bind_run_of_ok (accept_run_of_head noDot []))
  rw [keyPath, bind_run_of_ok (keyPart_run first others behind), bind_run_of_ok blank]
  exact bind_run_of_ok (Reader.many_run_of_series ends advances_furtherPart?)

/-! ## Values -/

/-- A text that is read as a value at the end of a line. -/
def ReadsAs (t : List Char) (literal : Literal) : Prop :=
  ∃ first w, t = first :: w ∧ isBlank first = false ∧ ∀ levels rest,
    (value levels first).run (w ++ '\n' :: rest) = .ok (literal, '\n' :: rest)

/-- A quoted text is read as the text. -/
lemma readsAs_quote (s : String) : ReadsAs (quote s.toList) (.string s) := by
  obtain ⟨q, w, eq, visible, reads⟩ := value_run_quote s.toList
  refine ⟨q, w, eq, visible, fun levels rest => ?_⟩
  have read := reads levels ('\n' :: rest) (by simp) (by simp)
  rwa [String.ofList_toList] at read

/-- A truth value is read as it was written. -/
lemma readsAs_boolean (b : Bool) :
    ReadsAs (if b then "true" else "false").toList (.boolean b) := by
  cases b with
  | false => exact ⟨'f', _, rfl, rfl, fun levels rest => by cases levels <;> rfl⟩
  | true => exact ⟨'t', _, rfl, rfl, fun levels rest => by cases levels <;> rfl⟩

/-- A key, an equals sign and a value are read as a pair. -/
lemma pairFrom_run {c : Char} {cs t : List Char} {literal : Literal}
    (first : isKeyChar c = true) (others : ∀ d ∈ cs, isKeyChar d = true)
    (reads : ReadsAs t literal) (levels : Nat) (rest : List Char) :
    (pairFrom (value levels) c).run (cs ++ [' ', '=', ' '] ++ t ++ '\n' :: rest) =
      .ok (([String.ofList (c :: cs)], literal), '\n' :: rest) := by
  obtain ⟨v, w, rfl, visible, read⟩ := reads
  have key := keyPath_run (s := ' ' :: '=' :: ' ' :: v :: w ++ '\n' :: rest) first others
    (by simp; rfl) rfl nofun
  have blank : blanks.run (' ' :: v :: w ++ '\n' :: rest) = .ok ((), v :: w ++ '\n' :: rest) :=
    bind_run_of_ok (takeWhile_run (t := [' ']) (by simp [isBlank]) (by simpa using visible))
  rw [List.append_assoc, List.append_assoc]
  refine (bind_run_of_ok key).trans ?_
  refine (bind_run_of_ok (expect_run ['='] _)).trans ?_
  refine (bind_run_of_ok blank).trans ?_
  exact bind_run_of_ok (read levels rest)

/-! ## Lines -/

/-- A line that begins with something visible begins there. -/
lemma line_run_of_lineFrom {c : Char} {s rest : List Char} {found : Option Expression}
    (visible : isBlank c = false) (h : (lineFrom c).run s = .ok (found, rest)) :
    line.run (c :: s) = .ok (some found, rest) := by
  have front : blanks.run (c :: s) = .ok ((), c :: s) :=
    blanks_run_of_head (by simpa using visible)
  exact (bind_run_of_ok front).trans (bind_run_of_ok h)

/-- The line of a setting is read as its key and its value. -/
lemma line_run_pair {key : String} (bare : IsBare key) {t : List Char} {literal : Literal}
    (reads : ReadsAs t literal) (rest : List Char) :
    line.run (Settings.line key t ++ rest) =
      .ok (some (some (.pair [key] literal)), rest) := by
  obtain ⟨c, cs, eq, first, others⟩ := bare.exists_cons
  have pair := pairFrom_run first others reads (nestingLimit - 1) rest
  have found : (lineFrom c).run (cs ++ [' ', '=', ' '] ++ t ++ '\n' :: rest) =
      .ok (some (.pair [key] literal), rest) := by
    rw [lineFrom, if_neg (isKeyChar_ne first rfl), if_neg (isKeyChar_ne first rfl),
      if_neg (isKeyChar_ne first rfl), if_neg (isKeyChar_ne first rfl), bind_run_of_ok pair,
      ← eq, String.ofList_toList]
    rfl
  have written : Settings.line key t ++ rest =
      c :: (cs ++ [' ', '=', ' '] ++ t ++ '\n' :: rest) := by
    simp [Settings.line, eq]
  rw [written]
  exact line_run_of_lineFrom (isBlank_of_isKeyChar first) found

/-- The line of a table is read as its key. -/
lemma line_run_table {key : String} (bare : IsBare key) (rest : List Char) :
    line.run ('[' :: key.toList ++ ']' :: '\n' :: rest) =
      .ok (some (some (.table [key])), rest) := by
  obtain ⟨c, cs, eq, first, others⟩ := bare.exists_cons
  have front : blanks.run (c :: cs ++ ']' :: '\n' :: rest) =
      .ok ((), c :: cs ++ ']' :: '\n' :: rest) :=
    blanks_run_of_head (by simpa using isBlank_of_isKeyChar first)
  have path := keyPath_run (s := ']' :: '\n' :: rest) first others (by simp; rfl)
    (blanks_run_of_head (by simp; rfl)) nofun
  have inner : (headerPath [']']).run (key.toList ++ ']' :: '\n' :: rest) = .ok ([key], rest) := by
    rw [eq]
    refine (bind_run_of_ok front).trans ?_
    refine (bind_run_of_ok path).trans ?_
    refine (bind_run_of_ok (expect_run [']'] _)).trans ?_
    rw [← eq, String.ofList_toList]
    rfl
  have single : (key.toList ++ ']' :: '\n' :: rest).head? ≠ some '[' := by
    rw [eq]
    simpa using isKeyChar_ne first rfl
  have whole : header.run (key.toList ++ ']' :: '\n' :: rest) = .ok (.table [key], rest) := by
    rw [header, bind_run_of_ok (accept_run_of_head single []), if_neg (by decide),
      bind_run_of_ok inner]
    rfl
  exact line_run_of_lineFrom rfl (bind_run_of_ok whole)

/-- There is no line at the end of a document. -/
lemma line_run_nil : line.run [] = .ok (none, []) :=
  rfl

/-- An empty line says nothing. -/
lemma line_run_empty (rest : List Char) : line.run ('\n' :: rest) = .ok (some none, rest) :=
  line_run_of_lineFrom rfl rfl

/-- The line of a text that may be missing is read as what it was written for. -/
lemma series_textLine {key : String} (bare : IsBare key) (text : Option String)
    {rest s : List Char} {found : List (Option Expression)} (others : Series line rest found s) :
    Series line (Settings.textLine key text ++ rest)
      ((text.map fun t => some (.pair [key] (.string t))).toList ++ found) s := by
  cases text with
  | none => exact others
  | some t => exact .cons (line_run_pair bare (readsAs_quote t) rest) others

end Toml

namespace Settings

open Toml

/-! ## Documents -/

/-- What the lines say that hold some settings. The third one is empty. -/
def expressions (s : Settings) : List (Option Expression) :=
  some (.pair ["include_declarations"] (.boolean s.includeDeclarations)) ::
    some (.pair ["output"] (.string s.output.label)) ::
    none ::
    some (.table ["log"]) ::
    ((s.log.filter.map fun t => some (.pair ["filter"] (.string t))).toList ++
      (s.log.file.map fun t => some (.pair ["file"] (.string t))).toList)

/-- What stands under the keys of a document that holds some settings. -/
def entries (s : Settings) : Entries :=
  [("include_declarations", .boolean s.includeDeclarations),
    ("output", .string s.output.label),
    ("log", .table .header
      ((s.log.filter.map fun t => ("filter", .string t)).toList ++
        (s.log.file.map fun t => ("file", .string t)).toList))]

/-- The document of settings is read line by line as what the lines were written for. -/
lemma series_text (s : Settings) : Series Toml.line s.text s.expressions [] := by
  have file := series_textLine (by decide : IsBare "file") s.log.file (.nil line_run_nil)
  have filter := series_textLine (by decide : IsBare "filter") s.log.filter file
  have table := Series.cons (line_run_table (by decide : IsBare "log") _) filter
  have output := Series.cons
    (line_run_pair (by decide : IsBare "output") (readsAs_quote s.output.label) _)
    (.cons (line_run_empty _) table)
  have declarations := Series.cons
    (line_run_pair (by decide : IsBare "include_declarations")
      (readsAs_boolean s.includeDeclarations) _) output
  simpa [text, expressions] using declarations

/-- The expressions of a document are those that it was written for. -/
lemma expressions_text (s : Settings) :
    Toml.expressions s.text = .ok (s.expressions.filterMap fun e => e) := by
  have lines := Reader.many_run_of_series s.series_text advances_line
  -- the text has no byte order mark in front
  have body : Toml.expressions s.text = ((Reader.many Toml.line advances_line).run s.text).map
      fun found => found.1.filterMap fun e => e := rfl
  rw [body, lines]
  rfl

/-- The entries of a document are those that it was written for. -/
lemma parse_text (s : Settings) : Toml.parse s.text = .ok s.entries := by
  rw [Toml.parse, expressions_text]
  obtain ⟨declarations, output, filter, file⟩ := s
  cases filter <;> cases file <;> rfl

/-- Under its key stands the format that was written there. -/
lemma valueAt_output (s : Settings) :
    valueAt s.entries "output" OutputFormat.ofItem? .text = .ok s.output := by
  have named : OutputFormat.ofItem? (.string s.output.label) = some s.output :=
    OutputFormat.ofLabel?_eq_some_iff.2 rfl
  have found : s.entries.lookup "output" = some (.string s.output.label) := rfl
  simp only [valueAt, found, named]

/-- Under its key stands the table that was written for the log. -/
lemma valueAt_log (s : Settings) :
    valueAt s.entries "log" LogSettings.ofItem? {} = .ok s.log := by
  obtain ⟨declarations, output, filter, file⟩ := s
  cases filter <;> cases file <;> rfl

/-- The entries of settings are read as the settings. -/
lemma ofEntries_entries (s : Settings) : ofEntries s.entries = .ok s := by
  have declarations : valueAt s.entries "include_declarations" boolean? true =
      .ok s.includeDeclarations := rfl
  rw [ofEntries, declarations, s.valueAt_output, s.valueAt_log]
  rfl

/-- The text that holds some settings gives these settings, whatever characters are in them. -/
theorem ofText_text (s : Settings) : ofText s.text = .ok s := by
  rw [ofText, parse_text]
  exact s.ofEntries_entries

end Settings

end Prototyper
