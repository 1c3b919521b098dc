import Mathlib.Data.List.Induction
import Prototyper.Proofs.Codes
import Prototyper.Proofs.Reader
import Prototyper.Toml.Grammar
import Prototyper.Toml.Quotation

/-!
# Quoted texts are read back

Whatever a text holds, it is written in quotes such that the value that is read there is this text
(`value_run_quote`). In each of the four forms the reader takes one piece after the other: a
character that stands for itself, an escape, or up to two quotes in front of something that is no
quote. What comes behind the text must not be a quote, since it would belong to the last ones.

The reader and the writer are those of `Toml`: that they keep to the format is the TOML assumption
(see `Toml.Basic`).
-/

namespace Prototyper.Toml

open Reader (Series bind_run_of_ok)

/-- What begins with a character takes at least that one. -/
lemma advances_next {α : Type} (f : Char → Grammar (Option α)) : (next >>= f).Advances :=
  Reader.Consumes.advances (Reader.Consumes.bind consumes_next f)

/-! ## Escapes -/

/-- The digits of a code are read one after the other as one number. -/
lemma codedChar_go_run {digits : List Char} (hex : ∀ d ∈ digits, Text.isHexDigit d = true)
    (read rest : List Char) :
    (codedChar.go digits.length read).run (digits ++ rest) =
      .ok (Text.ofDigits 16 (read ++ digits), rest) := by
  induction digits generalizing read with
  | nil =>
    rw [List.append_nil]
    rfl
  | cons d digits ih =>
    have others := ih (fun d' mem => hex d' (List.mem_cons_of_mem d mem)) (read ++ [d])
    rw [List.append_assoc, List.singleton_append] at others
    rw [List.length_cons, codedChar.go, List.cons_append, bind_run_of_ok rfl,
      if_pos (hex d List.mem_cons_self), others]

/-- The digits of a code are read as the character that they are the code of. -/
lemma codedChar_run {digits : List Char} {c : Char} (h : Text.IsCode digits c)
    (rest : List Char) : (codedChar 4).run (digits ++ rest) = .ok (c, rest) := by
  have code := codedChar_go_run (List.all_eq_true.1 h.hex) [] rest
  have valid : (Text.ofDigits 16 digits).isValidChar := h.value ▸ c.valid
  rw [h.length, List.nil_append] at code
  rw [codedChar, bind_run_of_ok code, if_pos valid, h.ofNat_eq]
  rfl

/-- A character that may not stand for itself is one of ASCII. -/
lemma toNat_lt_of_control {c : Char} (control : isPlain c = false) : c.toNat < 128 := by
  simp only [isPlain, Bool.or_eq_false_iff, Bool.and_eq_false_iff, decide_eq_false_iff_not,
    bne_eq_false_iff_eq] at control
  omega

/-! ## Characters in double quotes -/

/-- A character between double quotes as it is written: as itself, or as an escape, which does not
look like the end of a line. -/
inductive Written : Char → List Char → Prop where
  | plain {c} :
    c = '\n' ∨ isPlain c = true →
    c ≠ '"' →
    c ≠ '\\' →
    Written c [c]
  | escape {c e} :
    (∀ rest, escaped.run (e ++ rest) = .ok (c, rest)) →
    (∀ rest, endsLine (e ++ rest) = false) →
    Written c ('\\' :: e)

/-- A double quote is written behind a backslash. -/
lemma written_quote : Written '"' ['\\', '"'] :=
  .escape (fun _ => rfl) (fun _ => rfl)

/-- A character other than the double quote is written by itself or escaped. -/
lemma written_writeChar {c : Char} (notQuote : c ≠ '"') : Written c (writeChar c) := by
  by_cases lettered : c ∈ ['\x08', '\t', '\x0c', '\r', '\\']
  · simp only [List.mem_cons, List.not_mem_nil, or_false] at lettered
    rcases lettered with rfl | rfl | rfl | rfl | rfl <;>
      exact .escape (fun _ => rfl) (fun _ => rfl)
  · simp only [List.mem_cons, List.not_mem_nil, or_false, not_or] at lettered
    obtain ⟨backspace, tab, feed, carriage, backslash⟩ := lettered
    simp only [writeChar, backspace, tab, feed, carriage, backslash, if_false]
    split
    case isTrue ordinary => exact .plain (by simpa using ordinary) notQuote backslash
    case isFalse control =>
      simp only [Bool.or_eq_true, decide_eq_true_eq, not_or, Bool.not_eq_true] at control
      have code := (Text.isCode_hexPadded (toNat_lt_of_control control.2)).2
      exact .escape (codedChar_run code) fun _ => rfl

/-- What is written for a character begins with no quote, nor with a line break but for one. -/
lemma Written.head {c : Char} {w : List Char} (h : Written c w) :
    ∃ d w', w = d :: w' ∧ d ≠ '"' ∧ (c ≠ '\n' → isPlain d = true) := by
  cases h with
  | plain ordinary notQuote _ => exact ⟨c, [], rfl, notQuote, ordinary.resolve_left⟩
  | escape => exact ⟨'\\', _, rfl, by decide, fun _ => rfl⟩

/-- In a line, what is written for a character is read as the character. -/
lemma basicChar_run_written {c : Char} {w : List Char} (h : Written c w) (inLine : c ≠ '\n')
    (rest : List Char) : basicChar.run (w ++ rest) = .ok (some c, rest) := by
  cases h with
  | plain ordinary notQuote notBackslash =>
    have plain := ordinary.resolve_left inLine
    rw [basicChar, List.singleton_append, bind_run_of_ok rfl, if_neg notQuote,
      if_neg notBackslash, if_pos plain]
    rfl
  | escape read _ =>
    rw [basicChar, List.cons_append, bind_run_of_ok rfl, if_neg (by decide), if_pos rfl,
      bind_run_of_ok (read rest)]
    rfl

/-- In a string of several lines, what is written for a character is read as the character. -/
lemma basicPiece_run_written {c : Char} {w : List Char} (h : Written c w) (rest : List Char) :
    basicPiece.run (w ++ rest) = .ok (some [c], rest) := by
  cases h with
  | plain ordinary notQuote notBackslash =>
    rw [basicPiece, List.singleton_append, bind_run_of_ok rfl, if_neg notQuote,
      if_neg notBackslash, if_pos (by simpa using ordinary)]
    rfl
  | escape read noEnd =>
    rw [basicPiece, List.cons_append, bind_run_of_ok rfl, if_neg (by decide), if_pos rfl,
      bind_run_of_ok rfl, if_neg (by rw [noEnd]; decide), bind_run_of_ok (read rest)]
    rfl

/-- Where no quote is free, none is in front. -/
lemma head?_writeText_ne (free : Nat) (s : List Char) :
    (writeText free free s).head? ≠ some '"' := by
  cases s with
  | nil => exact nofun
  | cons c s =>
    rw [writeText]
    split
    · simp
    · next notQuote =>
      obtain ⟨d, w', eq, differs, -⟩ := (written_writeChar notQuote).head
      simpa [eq] using differs

/-- A text within a line is written without a line break in front. -/
lemma isPlain_of_head?_writeText {s : List Char} (inLine : '\n' ∉ s) (free run : Nat) :
    ∀ d ∈ (writeText free run s).head?, isPlain d = true := by
  cases s with
  | nil => exact nofun
  | cons c s =>
    simp only [List.mem_cons, not_or] at inLine
    rw [writeText]
    split
    · split <;> simp [isPlain]
    · next notQuote =>
      obtain ⟨d, w', eq, -, plain⟩ := (written_writeChar notQuote).head
      simpa [eq] using plain (Ne.symm inLine.1)

/-! ## Expected characters -/

/-- What is expected is accepted. -/
lemma accept_run (expected rest : List Char) :
    (TextReader.accept expected : Grammar Bool).run (expected ++ rest) = .ok (true, rest) := by
  simp [TextReader.accept]

/-- What begins with another character is not accepted. -/
lemma accept_run_of_head {q : Char} {s : List Char} (h : s.head? ≠ some q) (s' : List Char) :
    (TextReader.accept (q :: s') : Grammar Bool).run s = .ok (false, s) := by
  cases s with
  | nil => rfl
  | cons c s =>
    have differs : q ≠ c := fun same => h (by rw [same, List.head?_cons])
    simp [TextReader.accept, differs]

/-- What is expected is taken. -/
lemma expect_run (expected rest : List Char) :
    (TextReader.expect malformed expected).run (expected ++ rest) = .ok ((), rest) := by
  rw [TextReader.expect, bind_run_of_ok (accept_run expected rest)]
  rfl

/-- Characters that pass a test are taken up to the first one that does not. -/
lemma takeWhile_run {test : Char → Bool} {t rest : List Char} (all : ∀ c ∈ t, test c = true)
    (behind : ∀ c ∈ rest.head?, test c = false) :
    (TextReader.takeWhile test : Grammar (List Char)).run (t ++ rest) = .ok (t, rest) := by
  have stops : rest.takeWhile test = [] ∧ rest.dropWhile test = rest := by
    cases rest with
    | nil => exact ⟨rfl, rfl⟩
    | cons c rest => simp [behind c rfl]
  simp only [TextReader.takeWhile, List.takeWhile_append_of_pos all,
    List.dropWhile_append_of_pos all, stops, List.append_nil]

/-- The quote behind a text, which may be empty, is not the second one of three. -/
lemma accept_run_of_single {q : Char} {w rest : List Char} (front : w.head? ≠ some q)
    (behind : rest.head? ≠ some q) :
    (TextReader.accept [q, q] : Grammar Bool).run (w ++ q :: rest) =
      .ok (false, w ++ q :: rest) := by
  cases w with
  | nil =>
    cases rest with
    | nil => simp [TextReader.accept]
    | cons c rest =>
      have differs : q ≠ c := fun same => behind (by rw [same, List.head?_cons])
      simp [TextReader.accept, differs]
  | cons c w => exact accept_run_of_head (s := c :: (w ++ q :: rest)) front [q]

/-! ## Texts within a line -/

/-- What is written for a text in one line is read as its characters. -/
lemma series_writeText {s : List Char} (inLine : '\n' ∉ s) (rest : List Char) :
    Series basicChar (writeText 0 0 s ++ '"' :: rest) s rest := by
  induction s with
  | nil => exact .nil rfl
  | cons c s ih =>
    simp only [List.mem_cons, not_or] at inLine
    have others := ih inLine.2
    have first {w : List Char} (h : Written c w) :=
      basicChar_run_written h (Ne.symm inLine.1) (writeText 0 0 s ++ '"' :: rest)
    by_cases isQuote : c = '"'
    · subst isQuote
      exact .cons (first written_quote) others
    · rw [writeText, if_neg isQuote, List.append_assoc]
      exact .cons (first (written_writeChar isQuote)) others

/-- A string in double quotes is read as the text that it was written for. -/
lemma basicString_run_line {s rest : List Char} (inLine : '\n' ∉ s)
    (behind : rest.head? ≠ some '"') :
    basicString.run (writeText 0 0 s ++ '"' :: rest) = .ok (s, rest) := by
  rw [basicString, bind_run_of_ok (accept_run_of_single (head?_writeText_ne 0 s) behind),
    if_neg (by decide)]
  exact Reader.many_run_of_series (series_writeText inLine rest) (advances_next _)

/-- Text in single quotes is read as it stands. -/
lemma literalText_run {s rest : List Char} (plain : ∀ c ∈ s, isPlain c = true ∧ c ≠ '\'') :
    literalText.run (s ++ '\'' :: rest) = .ok (s, rest) := by
  have all : ∀ c ∈ s, (isPlain c && c != '\'') = true := fun c mem => by
    simpa using plain c mem
  have taken : (TextReader.takeWhile fun c => isPlain c && c != '\'' : Grammar (List Char)).run
      (s ++ '\'' :: rest) = .ok (s, '\'' :: rest) := takeWhile_run all (by simp)
  rw [literalText, bind_run_of_ok taken,
    bind_run_of_ok (s := '\'' :: rest) (expect_run ['\''] rest)]
  rfl

/-- A string in single quotes is read as the text in it. -/
lemma literalString_run_line {s rest : List Char} (plain : ∀ c ∈ s, isPlain c = true ∧ c ≠ '\'')
    (behind : rest.head? ≠ some '\'') :
    literalString.run (s ++ '\'' :: rest) = .ok (s, rest) := by
  have front : s.head? ≠ some '\'' := fun h => (plain _ (List.mem_of_mem_head? h)).2 rfl
  rw [literalString, bind_run_of_ok (accept_run_of_single front behind), if_neg (by decide)]
  exact literalText_run plain

/-! ## Texts of several lines -/

/-- A text and how it is written between three quotes on either side. One or two quotes stand for
themselves, as long as no other one is written right behind them. -/
inductive Lines (piece : Grammar (Option (List Char))) (q : Char) :
    List Char → List Char → Prop where
  | nil :
    Lines piece q [] []
  | char {c w s t} :
    (∀ rest, piece.run (w ++ rest) = .ok (some [c], rest)) →
    Lines piece q s t →
    Lines piece q (c :: s) (w ++ t)
  | one {s t} :
    t.head? ≠ some q →
    Lines piece q s t →
    Lines piece q (q :: s) (q :: t)
  | two {s t} :
    t.head? ≠ some q →
    Lines piece q s t →
    Lines piece q (q :: q :: s) (q :: q :: t)

/-- Where there is no quote in front, no quotes are taken. -/
lemma takeWhile_of_head {q : Char} {s : List Char} (h : s.head? ≠ some q) :
    s.takeWhile (· == q) = [] := by
  cases s with
  | nil => rfl
  | cons c s =>
    have differs : c ≠ q := fun same => h (by rw [same, List.head?_cons])
    simp [differs]

/-- With three quotes behind it, a text that begins with none begins with none or with three. -/
lemma takeWhile_closed {q : Char} {t rest : List Char} (front : t.head? ≠ some q)
    (behind : rest.head? ≠ some q) : ∃ n, (n = 0 ∨ n = 3) ∧
      (t ++ q :: q :: q :: rest).takeWhile (· == q) = List.replicate n q := by
  cases t with
  | nil => exact ⟨3, .inr rfl, by simp [takeWhile_of_head behind]⟩
  | cons c t => exact ⟨0, .inl rfl, takeWhile_of_head (s := c :: (t ++ q :: q :: q :: rest)) front⟩

/-- A few quotes inside a string of several lines belong to its text. -/
lemma innerQuotes_run {q : Char} {s s' : List Char} {n k : Nat}
    (run : s.takeWhile (· == q) = List.replicate n q) (few : n < 5)
    (inner : (if n + 1 < 3 then n + 1 else n + 1 - 3) = k + 1)
    (eq : s = List.replicate k q ++ s') :
    (innerQuotes q).run s = .ok (some (List.replicate (k + 1) q), s') := by
  rw [innerQuotes, bind_run_of_ok rfl]
  simp only [run, List.length_cons, List.length_replicate, inner]
  rw [if_neg (by omega), if_neg (by omega), eq, Nat.add_sub_cancel,
    bind_run_of_ok (expect_run _ _)]
  rfl

/-- Quotes at the end of a string of several lines close it. -/
lemma innerQuotes_run_end {q : Char} {rest : List Char} (behind : rest.head? ≠ some q) :
    (innerQuotes q).run (q :: q :: rest) = .ok (none, rest) := by
  have run : (q :: q :: rest).takeWhile (· == q) = [q, q] := by
    simp [takeWhile_of_head behind]
  rw [innerQuotes, bind_run_of_ok rfl]
  simp only [run]
  exact bind_run_of_ok (expect_run [q, q] rest)

/-- A text between three quotes is read piece by piece. Quotes at its end run into those that end
it, five at most. -/
lemma series_lines {piece : Grammar (Option (List Char))} {q : Char}
    (quotes : ∀ rest, piece.run (q :: rest) = (innerQuotes q).run rest) {s t rest : List Char}
    (h : Lines piece q s t) (behind : rest.head? ≠ some q) :
    ∃ pieces, Series piece (t ++ q :: q :: q :: rest) pieces rest ∧ pieces.flatten = s := by
  induction h with
  | nil => exact ⟨[], .nil ((quotes _).trans (innerQuotes_run_end behind)), rfl⟩
  | char first _ ih =>
    obtain ⟨pieces, others, rfl⟩ := ih
    rw [List.append_assoc]
    exact ⟨_ :: pieces, .cons (first _) others, rfl⟩
  | one front _ ih =>
    obtain ⟨pieces, others, rfl⟩ := ih
    obtain ⟨n, count, run⟩ := takeWhile_closed front behind
    refine ⟨[q] :: pieces, .cons ((quotes _).trans ?_) others, rfl⟩
    exact innerQuotes_run (k := 0) run (by omega) (by rcases count with rfl | rfl <;> rfl) rfl
  | @two s t front _ ih =>
    obtain ⟨pieces, others, rfl⟩ := ih
    obtain ⟨n, count, run⟩ := takeWhile_closed front behind
    have run' : (q :: (t ++ q :: q :: q :: rest)).takeWhile (· == q) =
        List.replicate (n + 1) q := by
      simp [run, List.replicate_succ]
    refine ⟨[q, q] :: pieces, .cons ((quotes _).trans ?_) others, rfl⟩
    exact innerQuotes_run (k := 1) run' (by omega) (by rcases count with rfl | rfl <;> rfl) rfl

/-- What is written for a text, behind none, two, or one quote that stands for itself. -/
lemma lines_writeText (s : List Char) :
    Lines basicPiece '"' s (writeText 2 0 s) ∧ Lines basicPiece '"' s (writeText 2 2 s) ∧
      Lines basicPiece '"' ('"' :: s) ('"' :: writeText 2 1 s) := by
  induction s with
  | nil => exact ⟨.nil, .nil, .one nofun .nil⟩
  | cons c s ih =>
    obtain ⟨none, two, one⟩ := ih
    by_cases isQuote : c = '"'
    · subst isQuote
      exact ⟨one, .char (basicPiece_run_written written_quote) none,
        .two (head?_writeText_ne 2 s) two⟩
    · have written := written_writeChar isQuote
      have all (run : Nat) : writeText 2 run (c :: s) = writeChar c ++ writeText 2 0 s := by
        rw [writeText, if_neg isQuote]
      have lines := Lines.char (basicPiece_run_written written) none
      obtain ⟨d, w', eq, differs, -⟩ := written.head
      rw [all, all, all]
      exact ⟨lines, lines, .one (by simpa [eq] using differs) lines⟩

/-- In single quotes a line break and what may stand for itself are read as they stand. -/
lemma literalPiece_run {c : Char} (notQuote : c ≠ '\'') (ordinary : c = '\n' ∨ isPlain c = true)
    (rest : List Char) : literalPiece.run ([c] ++ rest) = .ok (some [c], rest) := by
  rw [literalPiece, List.singleton_append, bind_run_of_ok rfl, if_neg notQuote,
    if_pos (by simpa using ordinary)]
  rfl

/-- Three quotes in a part of a text are three quotes in the text. -/
lemma hasTriple_of_cons {q c : Char} {s : List Char} (h : hasTriple q (c :: s) = false) :
    hasTriple q s = false := by
  rw [hasTriple, Bool.or_eq_false_iff] at h
  exact h.2

/-- Where no three quotes follow each other, two are followed by something else. -/
lemma head?_ne_of_hasTriple {q : Char} {s : List Char} (h : hasTriple q (q :: q :: s) = false) :
    s.head? ≠ some q := by
  intro head
  cases s with
  | nil => cases head
  | cons c s =>
    cases head
    simp [hasTriple] at h

/-- A text without three single quotes in a row stands in triple single quotes as it is. -/
lemma lines_self {s : List Char} (few : hasTriple '\'' s = false)
    (ordinary : ∀ c ∈ s, c = '\n' ∨ isPlain c = true) : Lines literalPiece '\'' s s := by
  induction s using List.twoStepInduction with
  | nil => exact .nil
  | singleton c =>
    by_cases isQuote : c = '\''
    · subst isQuote
      exact .one nofun .nil
    · exact .char (literalPiece_run isQuote (ordinary c List.mem_cons_self)) .nil
  | cons_cons c d s two one =>
    have lines := one d (hasTriple_of_cons few) fun c' mem => ordinary c' (.tail c mem)
    by_cases isQuote : c = '\''
    · subst isQuote
      by_cases isQuote' : d = '\''
      · subst isQuote'
        have others := two (hasTriple_of_cons (hasTriple_of_cons few)) fun c' mem =>
          ordinary c' (.tail _ (.tail _ mem))
        exact .two (head?_ne_of_hasTriple few) others
      · exact .one (by simpa using isQuote') lines
    · exact .char (literalPiece_run isQuote (ordinary c List.mem_cons_self)) lines

/-- The line break in front of the first of several lines. -/
def opening (s : List Char) : List Char :=
  if s.contains '\n' then ['\n'] else []

/-- A text of one line needs no line break in front. -/
lemma opening_of_line {s : List Char} (inLine : '\n' ∉ s) : opening s = [] := by
  simp [opening, inLine]

/-- There is no line break where a character stands for itself. -/
lemma lineBreak_run_of_plain {s : List Char} (h : ∀ c ∈ s.head?, isPlain c = true) :
    lineBreak.run s = .ok (false, s) := by
  have front {c : Char} (broken : isPlain c = false) : s.head? ≠ some c := fun head => by
    rw [h c head] at broken
    cases broken
  rw [lineBreak, bind_run_of_ok (accept_run_of_head (front rfl) []), if_neg (by decide)]
  exact accept_run_of_head (front rfl) _

/-- The line break behind the opening quotes is passed over. -/
lemma lineBreak_run_opening {s t : List Char}
    (h : '\n' ∉ s → ∀ c ∈ t.head?, isPlain c = true) :
    ∃ found, lineBreak.run (opening s ++ t) = .ok (found, t) := by
  rw [opening]
  split
  · exact ⟨true, rfl⟩
  · next inLine => exact ⟨false, lineBreak_run_of_plain (h (by simpa using inLine))⟩

/-- A string in triple double quotes is read as the text that it was written for. -/
lemma basicString_run_lines {s rest : List Char} (behind : rest.head? ≠ some '"') :
    basicString.run ('"' :: '"' :: opening s ++ (writeText 2 0 s ++ '"' :: '"' :: '"' :: rest)) =
      .ok (s, rest) := by
  have front (inLine : '\n' ∉ s) :
      ∀ c ∈ (writeText 2 0 s ++ '"' :: '"' :: '"' :: rest).head?, isPlain c = true := by
    have plain := isPlain_of_head?_writeText inLine 2 0
    cases eq : writeText 2 0 s with
    | nil => simp [isPlain]
    | cons d w => simpa [eq] using plain
  obtain ⟨found, opened⟩ := lineBreak_run_opening front
  obtain ⟨pieces, series, whole⟩ := series_lines (fun _ => rfl) (lines_writeText s).1 behind
  rw [basicString, List.cons_append, List.cons_append]
  refine (bind_run_of_ok (accept_run ['"', '"'] _)).trans ?_
  refine (bind_run_of_ok opened).trans ?_
  refine (bind_run_of_ok (Reader.many_run_of_series series (advances_next _))).trans ?_
  rw [whole]
  rfl

/-- A string in triple single quotes is read as the text in it. -/
lemma literalString_run_lines {s rest : List Char} (few : hasTriple '\'' s = false)
    (ordinary : ∀ c ∈ s, c = '\n' ∨ isPlain c = true) (behind : rest.head? ≠ some '\'') :
    literalString.run ('\'' :: '\'' :: opening s ++ (s ++ '\'' :: '\'' :: '\'' :: rest)) =
      .ok (s, rest) := by
  have front (inLine : '\n' ∉ s) :
      ∀ c ∈ (s ++ '\'' :: '\'' :: '\'' :: rest).head?, isPlain c = true := by
    cases s with
    | nil => simp [isPlain]
    | cons d w =>
      simp only [List.mem_cons, not_or] at inLine
      simpa using (ordinary d List.mem_cons_self).resolve_left (Ne.symm inLine.1)
  obtain ⟨found, opened⟩ := lineBreak_run_opening front
  obtain ⟨pieces, series, whole⟩ := series_lines (fun _ => rfl) (lines_self few ordinary) behind
  rw [literalString, List.cons_append, List.cons_append]
  refine (bind_run_of_ok (accept_run ['\'', '\''] _)).trans ?_
  refine (bind_run_of_ok opened).trans ?_
  refine (bind_run_of_ok (Reader.many_run_of_series series (advances_next _))).trans ?_
  rw [whole]
  rfl

/-! ## Quoted texts -/

/-- What a text does not hold that is written in some quotes. -/
def Quotes.Fits (s : List Char) : Quotes → Prop
  | double => '\n' ∉ s
  | single => '\n' ∉ s ∧ '\'' ∉ s ∧ s.any needsEscape = false
  | tripleDouble => True
  | tripleSingle => hasTriple '\'' s = false ∧ s.any needsEscape = false

/-- The quotes that are chosen for a text fit it. -/
lemma fits_ofText (s : List Char) : (Quotes.ofText s).Fits s := by
  simp only [Quotes.ofText]
  split
  · simp_all [Quotes.Fits]
  split
  · simp_all [Quotes.Fits]
  split
  · trivial
  split
  · simp_all [Quotes.Fits]
  split
  · trivial
  · simp_all [Quotes.Fits]

/-- A text that needs no escapes has only line breaks and what may stand for itself. -/
lemma ordinary_of_needsEscape {s : List Char} (h : s.any needsEscape = false) :
    ∀ c ∈ s, c = '\n' ∨ isPlain c = true := by
  intro c mem
  have := List.any_eq_false.1 h c mem
  simpa [needsEscape, or_iff_not_imp_right] using this

/-- A text is quoted by the quotes that are chosen for it. -/
lemma quote_eq (s : List Char) {quotes : Quotes} (h : Quotes.ofText s = quotes) :
    quote s = quotes.mark ++ opening s ++ quotes.content s ++ quotes.mark := by
  rw [← h]
  rfl

/-- What begins with a double quote is read as a string in double quotes. -/
lemma value_run_basic {s t rest : List Char} (h : basicString.run t = .ok (s, rest))
    (levels : Nat) : (value levels '"').run t = .ok (.string (String.ofList s), rest) := by
  cases levels <;> exact bind_run_of_ok h

/-- What begins with a single quote is read as a string in single quotes. -/
lemma value_run_literal {s t rest : List Char} (h : literalString.run t = .ok (s, rest))
    (levels : Nat) : (value levels '\'').run t = .ok (.string (String.ofList s), rest) := by
  cases levels <;> exact bind_run_of_ok h

/-- A text in quotes is read as this text, whatever comes behind it but a quote. -/
lemma value_run_quote (s : List Char) : ∃ q w, quote s = q :: w ∧ isBlank q = false ∧
    ∀ levels rest, rest.head? ≠ some '"' → rest.head? ≠ some '\'' →
      (value levels q).run (w ++ rest) = .ok (.string (String.ofList s), rest) := by
  have fits := fits_ofText s
  cases quotes : Quotes.ofText s with
  | double =>
    rw [quotes] at fits
    refine ⟨'"', _, quote_eq s quotes, rfl, fun levels rest behind _ => ?_⟩
    refine value_run_basic ?_ levels
    simpa [opening_of_line fits, Quotes.content, Quotes.mark] using
      basicString_run_line fits behind
  | single =>
    rw [quotes] at fits
    obtain ⟨inLine, notQuote, bare⟩ := fits
    have plain (c : Char) (mem : c ∈ s) : isPlain c = true ∧ c ≠ '\'' :=
      ⟨(ordinary_of_needsEscape bare c mem).resolve_left fun eq => inLine (eq ▸ mem),
        fun eq => notQuote (eq ▸ mem)⟩
    refine ⟨'\'', _, quote_eq s quotes, rfl, fun levels rest _ behind => ?_⟩
    refine value_run_literal ?_ levels
    simpa [opening_of_line inLine, Quotes.content, Quotes.mark] using
      literalString_run_line plain behind
  | tripleDouble =>
    refine ⟨'"', _, quote_eq s quotes, rfl, fun levels rest behind _ => ?_⟩
    refine value_run_basic ?_ levels
    simpa [Quotes.content, Quotes.mark] using basicString_run_lines behind
  | tripleSingle =>
    rw [quotes] at fits
    obtain ⟨few, bare⟩ := fits
    refine ⟨'\'', _, quote_eq s quotes, rfl, fun levels rest _ behind => ?_⟩
    refine value_run_literal ?_ levels
    simpa [Quotes.content, Quotes.mark] using
      literalString_run_lines few (ordinary_of_needsEscape bare) behind

end Prototyper.Toml
