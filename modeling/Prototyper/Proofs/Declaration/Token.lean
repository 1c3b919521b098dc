import Mathlib.Data.List.Basic
import Mathlib.Tactic.Lemma
import Prototyper.CType.Declarator

/-!
# Tokens of a declaration

C reads a declaration as words and marks. Words end where a character stands that belongs to no
word, and blanks only separate. This file cuts a text into tokens and shows that the spaces put
between the parts of a declaration never change its tokens: `tokens_declare` describes the tokens
of `CType.declare` with the layers alone.
-/

namespace Prototyper

/-- The word of C for a qualifier. -/
def Qualifier.word : Qualifier → String
  | const => "const"
  | volatile => "volatile"
  | restrict => "restrict"

/-- A qualifier is written as its word. -/
lemma Qualifier.keyword_eq_word (q : Qualifier) : q.keyword = q.word := by
  cases q <;> rfl

end Prototyper

namespace Prototyper.Declarator

/-- A token of a declaration: a word, or a single mark. -/
inductive Token where
  | word (text : List Char)
  | mark (c : Char)
  deriving DecidableEq, Repr

/-- A character of a word: a letter, a digit, an underscore, or one beyond ASCII. -/
def isNameChar (c : Char) : Bool :=
  c.isAlphanum || c == '_' || decide (127 < c.toNat)

/-- One more character in front of tokens: next to a word it becomes part of the word. -/
def Token.cons (c : Char) (ts : List Token) : List Token :=
  if isNameChar c then
    match ts with
    | word w :: ts => word (c :: w) :: ts
    | ts => word [c] :: ts
  else mark c :: ts

/-- The tokens of a text, blanks included. -/
def scan (s : List Char) : List Token :=
  s.foldr Token.cons []

/-- The tokens of a text. -/
def tokens (s : List Char) : List Token :=
  (scan s).filter (· ≠ .mark ' ')

/-- Two texts whose words do not grow together when one follows the other. -/
def Apart (s s' : List Char) : Prop :=
  ∀ c ∈ s.getLast?, ∀ c' ∈ s'.head?, isNameChar c = true → isNameChar c' = false

/-- A text that begins with a mark stands apart from what precedes it. -/
lemma apart_of_head {s s' : List Char} (h : ∀ c ∈ s'.head?, isNameChar c = false) : Apart s s' :=
  fun _ _ c' hc' _ => h c' hc'

/-- A mark stands apart from what precedes it, whatever follows. -/
lemma apart_cons {c : Char} (hc : isNameChar c = false) (s s' : List Char) : Apart s (c :: s') := by
  apply apart_of_head
  rintro d ⟨⟩
  exact hc

/-- A text that ends with a mark stands apart from what follows it. -/
lemma apart_of_last {s s' : List Char} (h : ∀ c ∈ s.getLast?, isNameChar c = false) : Apart s s' := by
  intro c hc _ _ word
  rw [h c hc] at word
  exact absurd word (by simp)

/-- A character in front of tokens never reaches past the first of them. -/
lemma Token.cons_append (c : Char) {ts : List Token} (ne : ts ≠ []) (ts' : List Token) :
    Token.cons c (ts ++ ts') = Token.cons c ts ++ ts' := by
  cases ts with
  | nil => exact absurd rfl ne
  | cons t ts => cases t <;> simp only [Token.cons, List.cons_append] <;> split <;> rfl

/-- Scanning makes at least one token of a character. -/
lemma Token.cons_ne_nil (c : Char) (ts : List Token) : Token.cons c ts ≠ [] := by
  unfold Token.cons
  split
  · split <;> simp
  · simp

/-- A text that does not begin within a word is scanned to something that is no word. -/
lemma scan_of_head {s : List Char} (h : ∀ c ∈ s.head?, isNameChar c = false) :
    scan s = [] ∨ ∃ c ts, scan s = .mark c :: ts := by
  cases s with
  | nil => exact .inl rfl
  | cons c s =>
    have hc : isNameChar c = false := h c rfl
    exact .inr ⟨c, scan s, by simp [scan, Token.cons, hc]⟩

/-- Texts that stand apart are scanned one after the other. -/
lemma scan_append {s s' : List Char} (h : Apart s s') : scan (s ++ s') = scan s ++ scan s' := by
  induction s with
  | nil => rfl
  | cons c s ih =>
    cases s with
    | nil =>
      -- `c` is the last character; only here can words of the two texts meet
      by_cases hc : isNameChar c = true
      · obtain e | ⟨d, ts, e⟩ := scan_of_head (s := s') fun d hd => h c rfl d hd hc
        · simp only [scan, List.cons_append, List.nil_append, List.foldr_cons] at e ⊢
          simp [e]
        · simp only [scan, List.cons_append, List.nil_append, List.foldr_cons] at e ⊢
          simp [e, Token.cons, hc]
      · simp [scan, Token.cons, hc]
    | cons d s =>
      have ih := ih fun x hx => h x (by simpa using hx)
      have e : scan (c :: d :: s ++ s') = Token.cons c (scan (d :: s ++ s')) := rfl
      rw [e, ih]
      exact Token.cons_append c (Token.cons_ne_nil d (scan s)) (scan s')

/-- Texts that stand apart have their tokens one after the other. -/
lemma tokens_append {s s' : List Char} (h : Apart s s') : tokens (s ++ s') = tokens s ++ tokens s' := by
  simp only [tokens, scan_append h, List.filter_append]

/-- An empty text has no tokens. -/
@[simp] lemma tokens_nil : tokens [] = [] := rfl

/-- A mark is a token of its own. -/
lemma tokens_mark {c : Char} (hc : isNameChar c = false) (hb : c ≠ ' ') (s : List Char) :
    tokens (c :: s) = .mark c :: tokens s := by
  simp [tokens, scan, Token.cons, hc, hb]

/-- A blank leaves no token. -/
lemma tokens_blank (s : List Char) : tokens (' ' :: s) = tokens s := by
  have hb : isNameChar ' ' = false := by decide
  simp [tokens, scan, Token.cons, hb]

/-- The characters of a word make one token. -/
lemma tokens_word {w : List Char} (ne : w ≠ []) (hw : ∀ c ∈ w, isNameChar c = true) :
    tokens w = [.word w] := by
  suffices e : scan w = [.word w] by simp [tokens, e]
  induction w with
  | nil => exact absurd rfl ne
  | cons c w ih =>
    have hc : isNameChar c = true := hw c (by simp)
    cases w with
    | nil => simp [scan, Token.cons, hc]
    | cons d w =>
      have ih : scan (d :: w) = [.word (d :: w)] :=
        ih (by simp) fun x hx => hw x (List.mem_cons_of_mem c hx)
      have e : scan (c :: d :: w) = Token.cons c (scan (d :: w)) := rfl
      simp [e, ih, Token.cons, hc]

/-- The tokens of qualifiers. -/
def qualifierTokens (qs : List Qualifier) : List Token :=
  qs.map fun q => .word q.word.toList

/-- The tokens of an array suffix. -/
def boundsTokens : Option Nat → List Token
  | some n => [.mark '[', .word (Text.decimal n), .mark ']']
  | none => [.mark '[', .mark ']']

/-- A digit is the character of a word. -/
lemma isNameChar_of_isDigit {c : Char} (h : c.isDigit = true) : isNameChar c = true := by
  simp [isNameChar, Char.isAlphanum, h]

/-- The keyword of a qualifier is one token. -/
lemma tokens_keyword (q : Qualifier) : tokens q.keyword.toList = [.word q.word.toList] := by
  cases q <;> decide

/-- The qualifiers of a pointer, as tokens. -/
lemma tokens_qualifiersAfter (qs : List Qualifier) :
    tokens (qualifiersAfter qs) = qualifierTokens qs := by
  induction qs with
  | nil => rfl
  | cons q qs ih =>
    have apart : Apart q.keyword.toList (qualifiersAfter qs) := by
      cases qs with
      | nil => exact apart_of_head (by simp [qualifiersAfter])
      | cons _ _ => exact apart_cons (by decide) _ _
    have e : qualifiersAfter (q :: qs) = ' ' :: (q.keyword.toList ++ qualifiersAfter qs) := by
      simp [qualifiersAfter]
    rw [e, tokens_blank, tokens_append apart, tokens_keyword, ih]
    rfl

/-- The qualifiers of a specifier stand apart from what follows them, and have tokens of their
own. -/
lemma tokens_qualifiersBefore (qs : List Qualifier) (s : List Char) :
    tokens (qualifiersBefore qs ++ s) = qualifierTokens qs ++ tokens s := by
  induction qs with
  | nil => rfl
  | cons q qs ih =>
    have e : qualifiersBefore (q :: qs) ++ s
        = q.keyword.toList ++ ' ' :: (qualifiersBefore qs ++ s) := by
      simp [qualifiersBefore]
    have apart : Apart q.keyword.toList (' ' :: (qualifiersBefore qs ++ s)) :=
      apart_cons (by decide) _ _
    rw [e, tokens_append apart, tokens_keyword, tokens_blank, ih]
    rfl

/-- The suffix of an array, as tokens. -/
lemma tokens_bounds (length : Option UInt64) :
    tokens (bounds length) = boundsTokens (length.map UInt64.toNat) := by
  cases length with
  | none => decide
  | some n =>
    have digits : ∀ c ∈ Text.decimal n.toNat, isNameChar c = true := fun c hc =>
      isNameChar_of_isDigit (Text.isDigit_of_mem_decimal hc)
    have ne : Text.decimal n.toNat ≠ [] := Nat.toDigits_ne_nil
    have apart : Apart (Text.decimal n.toNat) [']'] := apart_cons (by decide) _ _
    have e : bounds (some n) = '[' :: (Text.decimal n.toNat ++ [']']) := by simp [bounds]
    rw [e, tokens_mark (by decide) (by decide), tokens_append apart, tokens_word ne digits]
    rfl

/-- The space that may stand between a pointer and its declarator is no token. -/
lemma tokens_joinPointer (qs : List Qualifier) (inner : List Char) :
    tokens (joinPointer ('*' :: qualifiersAfter qs) inner)
      = .mark '*' :: qualifierTokens qs ++ tokens inner := by
  have star : tokens ('*' :: qualifiersAfter qs) = .mark '*' :: qualifierTokens qs := by
    rw [tokens_mark (by decide) (by decide), tokens_qualifiersAfter]
  unfold joinPointer
  split
  case h_1 => rw [star, tokens_nil, List.append_nil]
  case h_2 =>
    rw [tokens_append, star]
    exact apart_cons (by decide) _ _
  case h_3 =>
    rw [tokens_append, star, tokens_blank]
    exact apart_cons (by decide) _ _

/-- The space that may stand between a specifier and its declarator is no token. -/
lemma tokens_attach (specifier inner : List Char) :
    tokens (attach specifier inner) = tokens specifier ++ tokens inner := by
  unfold attach
  split
  case h_1 => rw [tokens_nil, List.append_nil]
  case h_2 => exact tokens_append (apart_cons (by decide) _ _)
  case h_3 => exact tokens_append (apart_cons (by decide) _ _)
  case h_4 =>
    rw [tokens_append, tokens_blank]
    exact apart_cons (by decide) _ _

/-- Closing the gap behind bare stars changes no token. -/
lemma tokens_hugName (inner : List Char) : tokens (hugName inner) = tokens inner := by
  unfold hugName
  dsimp only
  split
  case h_2 => rfl
  case h_1 rest e =>
    split
    case isTrue => rfl
    case isFalse =>
      -- both texts begin with the stars, which stand apart from anything
      have inner_eq : inner = inner.takeWhile (· == '*') ++ ' ' :: rest := by
        rw [← e, List.takeWhile_append_dropWhile]
      have last : ∀ c ∈ (inner.takeWhile (· == '*')).getLast?, isNameChar c = false := by
        intro c hc
        have star : (c == '*') = true := by
          have mem := List.mem_of_getLast? hc
          exact List.all_eq_true.1 List.all_takeWhile c mem
        rw [beq_iff_eq.1 star]
        decide
      conv_rhs => rw [inner_eq]
      rw [tokens_append (apart_of_last last), tokens_append (apart_of_last last), tokens_blank]

/-- A pointer in parentheses, as tokens. -/
lemma tokens_group (qs : List Qualifier) (inner : List Char) :
    tokens (group qs inner)
      = .mark '(' :: (.mark '*' :: qualifierTokens qs ++ tokens inner) ++ [.mark ')'] := by
  have close : ∀ s, tokens (s ++ [')']) = tokens s ++ [.mark ')'] := fun s =>
    tokens_append (apart_cons (by decide) _ _)
  unfold group
  dsimp only
  rw [List.cons_append, tokens_mark (by decide) (by decide), close]
  split
  case isTrue bare =>
    rw [List.isEmpty_iff.1 bare]
    have e : '*' :: qualifiersAfter [] ++ hugName inner = '*' :: hugName inner := rfl
    rw [e, tokens_mark (by decide) (by decide), tokens_hugName]
    rfl
  case isFalse => rw [tokens_joinPointer]; rfl

end Prototyper.Declarator

namespace Prototyper.CType
open Declarator

/-- The tokens of a declarator wrapped in the layers of a type: what `declare` writes, without the
care for spaces. -/
def declareTokens : CType → List Token → List Token
  | leaf qs spec, inner => qualifierTokens qs ++ tokens spec.spelling.toList ++ inner
  | pointer qs pointee, inner =>
    let pointer := .mark '*' :: qualifierTokens qs ++ inner
    if pointee.isArray then pointee.declareTokens (.mark '(' :: pointer ++ [.mark ')'])
    else pointee.declareTokens pointer
  | array _ length element, inner =>
    element.declareTokens (inner ++ boundsTokens (length.map UInt64.toNat))

/-- The spaces of a declaration change none of its tokens. -/
lemma tokens_declare (t : CType) (inner : List Char) :
    tokens (t.declare inner) = t.declareTokens (tokens inner) := by
  induction t generalizing inner with
  | leaf qs spec =>
    simp only [declare, declareTokens, tokens_attach, tokens_qualifiersBefore]
  | pointer qs pointee ih =>
    simp only [declare, declareTokens]
    split
    · rw [ih, tokens_group]
    · rw [ih, tokens_joinPointer]
  | array qs length element ih =>
    have apart : Apart inner (bounds length) := by
      cases length <;> exact apart_cons (by decide) _ _
    simp only [declare, declareTokens]
    rw [ih, tokens_append apart, tokens_bounds]

end Prototyper.CType
