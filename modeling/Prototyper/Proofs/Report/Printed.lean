import Prototyper.Json.Pretty
import Prototyper.Proofs.Codes

/-!
# Printed JSON is read in one way

A printed value shows where it ends: a string at the first quote that is no escape, a list or an
object at its bracket, and a number where its digits end. So when two values with something behind
them are the same text, the values are the same, and so is what is behind them
(`write_append_inj`). Behind a number that something must not begin with a digit, and in a printed
value it never does.
-/

namespace Prototyper.Json

/-! ## Strings -/

/-- The character that an escape stands for after its backslash, and the text behind it. -/
def escapee? : List Char → Option (Char × List Char)
  | [] => none
  | 'n' :: s => some ('\n', s)
  | 'r' :: s => some ('\r', s)
  | 't' :: s => some ('\t', s)
  | 'b' :: s => some ('\x08', s)
  | 'f' :: s => some ('\x0c', s)
  | 'u' :: s => some (Char.ofNat (Text.ofDigits 16 (s.take 4)), s.drop 4)
  | c :: s => some (c, s)

/-- The first character that a text within quotes stands for, and the text behind it. -/
def unescape? : List Char → Option (Char × List Char)
  | [] => none
  | c :: s => if c = '\\' then escapee? s else some (c, s)

/-- A character is read back from its escape. -/
lemma unescape?_escapeChar (c : Char) (s : List Char) :
    unescape? (escapeChar c ++ s) = some (c, s) := by
  by_cases lettered : c ∈ ['"', '\\', '\n', '\r', '\t', '\x08', '\x0c']
  · simp only [List.mem_cons, List.not_mem_nil, or_false] at lettered
    rcases lettered with rfl | rfl | rfl | rfl | rfl | rfl | rfl <;> rfl
  · simp only [List.mem_cons, List.not_mem_nil, or_false, not_or] at lettered
    obtain ⟨quote, backslash, newline, carriage, tab, backspace, feed⟩ := lettered
    simp only [escapeChar, quote, backslash, newline, carriage, tab, backspace, feed, if_false]
    split
    case isTrue control =>
      have code := (Text.isCode_hexPadded (c := c) (by omega)).1
      simp only [List.cons_append, unescape?, if_true, escapee?]
      rw [List.take_left' code.length, List.drop_left' code.length, code.ofNat_eq]
    case isFalse => exact if_neg backslash

/-- What is written for a character tells where it ends. -/
lemma escapeChar_append_inj {c c' : Char} {s s' : List Char}
    (h : escapeChar c ++ s = escapeChar c' ++ s') : c = c' ∧ s = s' := by
  have read := unescape?_escapeChar c s
  rw [h, unescape?_escapeChar] at read
  cases read
  exact ⟨rfl, rfl⟩

/-- No character within quotes looks like the quote that ends them. -/
lemma escapeChar_append_ne (c : Char) (s t : List Char) : escapeChar c ++ s ≠ '"' :: t := by
  intro h
  have read := unescape?_escapeChar c s
  rw [h] at read
  cases read
  cases h

/-- What is written for characters tells where the closing quote is. -/
lemma escaped_append_inj {cs cs' s s' : List Char}
    (h : cs.flatMap escapeChar ++ '"' :: s = cs'.flatMap escapeChar ++ '"' :: s') :
    cs = cs' ∧ s = s' := by
  induction cs generalizing cs' with
  | nil =>
    cases cs' with
    | nil =>
      cases h
      exact ⟨rfl, rfl⟩
    | cons c' cs' =>
      rw [List.flatMap_cons, List.append_assoc] at h
      exact absurd h.symm (escapeChar_append_ne c' _ s)
  | cons c cs ih =>
    rw [List.flatMap_cons, List.append_assoc] at h
    cases cs' with
    | nil => exact absurd h (escapeChar_append_ne c _ s')
    | cons c' cs' =>
      rw [List.flatMap_cons, List.append_assoc] at h
      obtain ⟨rfl, rest⟩ := escapeChar_append_inj h
      obtain ⟨rfl, rfl⟩ := ih rest
      exact ⟨rfl, rfl⟩

/-- A string tells where it ends. -/
lemma quote_append_inj {a a' : String} {s s' : List Char} (h : quote a ++ s = quote a' ++ s') :
    a = a' ∧ s = s' := by
  simp only [quote, List.cons_append, List.append_assoc, List.cons.injEq, List.nil_append,
    true_and] at h
  obtain ⟨same, rest⟩ := escaped_append_inj h
  exact ⟨String.toList_inj.1 same, rest⟩

/-! ## Numbers -/

/-- A text that does not go on a number in front of it. -/
def EndsNumber (s : List Char) : Prop :=
  ∀ c ∈ s.head?, c.isDigit = false

/-- A number tells where it ends, if no digit follows. -/
lemma decimal_append_inj {n n' : Nat} {s s' : List Char} (ends : EndsNumber s)
    (ends' : EndsNumber s') (h : Text.decimal n ++ s = Text.decimal n' ++ s') :
    n = n' ∧ s = s' := by
  have digits (n : Nat) {s : List Char} (ends : EndsNumber s) :
      (Text.decimal n ++ s).takeWhile Char.isDigit = Text.decimal n := by
    rw [List.takeWhile_append_of_pos fun c => Text.isDigit_of_mem_decimal]
    cases s with
    | nil => rw [List.takeWhile_nil, List.append_nil]
    | cons c s => rw [List.takeWhile_cons_of_neg (by simp [ends c rfl]), List.append_nil]
  have same : Text.decimal n = Text.decimal n' := by rw [← digits n ends, h, digits n' ends']
  rw [same] at h
  exact ⟨Text.decimal_injective same, List.append_cancel_left h⟩

/-! ## Values -/

/-- The kinds of values, which differ in how their texts begin. -/
inductive Kind where
  | null
  | bool
  | number
  | string
  | list
  | object

/-- The kind of a value. -/
def kind : Json → Kind
  | null => .null
  | bool _ => .bool
  | number _ => .number
  | string _ => .string
  | list _ => .list
  | object _ => .object

/-- The kind of the values whose texts begin with a character. -/
def Kind.ofChar : Char → Kind
  | 'n' => null
  | 't' | 'f' => bool
  | '"' => string
  | '[' => list
  | '\x7b' => object
  | _ => number

/-- What begins with a digit is a number. -/
lemma Kind.ofChar_digit {c : Char} (h : c.isDigit = true) : ofChar c = .number := by
  unfold ofChar
  split <;> first | rfl | exact absurd h (by decide)

/-- What is written for a value tells its kind by the first character. -/
lemma head_write (level : Nat) (j : Json) :
    ∃ c s, write level j = c :: s ∧ Kind.ofChar c = j.kind := by
  match j with
  | number n =>
    rw [write]
    cases digits : Text.decimal n with
    | nil => exact absurd digits Nat.toDigits_ne_nil
    | cons c s =>
      have digit := Text.isDigit_of_mem_decimal (digits ▸ List.mem_cons_self)
      exact ⟨c, s, rfl, Kind.ofChar_digit digit⟩
  | null | bool true | bool false | string _ | list [] | list (_ :: _) | object [] |
    object ((_, _) :: _) =>
    rw [write]
    exact ⟨_, _, rfl, rfl⟩

/-- Values of different kinds are not the beginning of one text. -/
lemma kind_eq_of_write {level : Nat} {j j' : Json} {s s' : List Char}
    (h : write level j ++ s = write level j' ++ s') : j.kind = j'.kind := by
  obtain ⟨c, t, text, kind⟩ := head_write level j
  obtain ⟨c', t', text', kind'⟩ := head_write level j'
  rw [text, text'] at h
  rw [← kind, ← kind', (List.cons.inj h).1]

/-- No digit follows an item of a list. -/
lemma endsNumber_items (level : Nat) (items : List Json) (s : List Char) :
    EndsNumber (writeItems level items ++ s) := by
  intro c head
  cases items <;> rw [writeItems] at head <;> cases head <;> rfl

/-- No digit follows a field of an object. -/
lemma endsNumber_fields (level : Nat) (fields : List (String × Json)) (s : List Char) :
    EndsNumber (writeFields level fields ++ s) := by
  intro c head
  match fields with
  | [] | (_, _) :: _ => rw [writeFields] at head; cases head; rfl

mutual

/-- A printed value and what is behind it are known from the two of them together. -/
theorem write_append_inj (level : Nat) (j j' : Json) {s s' : List Char} (ends : EndsNumber s)
    (ends' : EndsNumber s') (h : write level j ++ s = write level j' ++ s') : j = j' ∧ s = s' := by
  -- no case is left for values of two kinds, nor for an empty list or object and another one, of
  -- which the second characters differ
  have kind := kind_eq_of_write h
  match j, j' with
  | null, null => exact ⟨rfl, List.append_cancel_left h⟩
  | bool true, bool true | bool false, bool false => exact ⟨rfl, List.append_cancel_left h⟩
  | number n, number n' =>
    obtain ⟨rfl, rest⟩ := decimal_append_inj ends ends' h
    exact ⟨rfl, rest⟩
  | string a, string a' =>
    obtain ⟨rfl, rest⟩ := quote_append_inj h
    exact ⟨rfl, rest⟩
  | list [], list [] => exact ⟨rfl, List.append_cancel_left h⟩
  | list (item :: items), list (item' :: items') =>
    simp only [write, List.append_assoc, List.cons_append, List.cons.injEq, true_and] at h
    obtain ⟨rfl, further⟩ := write_append_inj (level + 1) item item'
      (endsNumber_items level items s) (endsNumber_items level items' s')
      (List.append_cancel_left h)
    obtain ⟨rfl, rest⟩ := writeItems_append_inj level items items' further
    exact ⟨rfl, rest⟩
  | object [], object [] => exact ⟨rfl, List.append_cancel_left h⟩
  | object ((key, value) :: fields), object ((key', value') :: fields') =>
    simp only [write, List.append_assoc, List.cons_append, List.cons.injEq, true_and] at h
    obtain ⟨rfl, field⟩ := quote_append_inj (List.append_cancel_left h)
    simp only [List.nil_append, List.cons.injEq, true_and] at field
    obtain ⟨rfl, further⟩ := write_append_inj (level + 1) value value'
      (endsNumber_fields level fields s) (endsNumber_fields level fields' s') field
    obtain ⟨rfl, rest⟩ := writeFields_append_inj level fields fields' further
    exact ⟨rfl, rest⟩

/-- The further items of a list show where they end. -/
theorem writeItems_append_inj (level : Nat) (items items' : List Json) {s s' : List Char}
    (h : writeItems level items ++ s = writeItems level items' ++ s') :
    items = items' ∧ s = s' := by
  match items, items' with
  | [], [] => exact ⟨rfl, List.append_cancel_left h⟩
  | item :: items, item' :: items' =>
    simp only [writeItems, List.append_assoc, List.cons_append, List.cons.injEq, true_and] at h
    obtain ⟨rfl, further⟩ := write_append_inj (level + 1) item item'
      (endsNumber_items level items s) (endsNumber_items level items' s')
      (List.append_cancel_left h)
    obtain ⟨rfl, rest⟩ := writeItems_append_inj level items items' further
    exact ⟨rfl, rest⟩

/-- The further fields of an object show where they end. -/
theorem writeFields_append_inj (level : Nat) (fields fields' : List (String × Json))
    {s s' : List Char} (h : writeFields level fields ++ s = writeFields level fields' ++ s') :
    fields = fields' ∧ s = s' := by
  match fields, fields' with
  | [], [] => exact ⟨rfl, List.append_cancel_left h⟩
  | (key, value) :: fields, (key', value') :: fields' =>
    simp only [writeFields, List.append_assoc, List.cons_append, List.cons.injEq, true_and] at h
    obtain ⟨rfl, field⟩ := quote_append_inj (List.append_cancel_left h)
    simp only [List.nil_append, List.cons.injEq, true_and] at field
    obtain ⟨rfl, further⟩ := write_append_inj (level + 1) value value'
      (endsNumber_fields level fields s) (endsNumber_fields level fields' s') field
    obtain ⟨rfl, rest⟩ := writeFields_append_inj level fields fields' further
    exact ⟨rfl, rest⟩

end

/-- Values are printed alike only if they are the same. -/
lemma pretty_injective : Function.Injective pretty := by
  intro j j' h
  have printed : write 0 j ++ [] = write 0 j' ++ [] :=
    congrArg (· ++ []) (String.ofList_injective h)
  have ends : EndsNumber [] := fun _ none => by cases none
  exact (write_append_inj 0 j j' ends ends printed).1

end Prototyper.Json
