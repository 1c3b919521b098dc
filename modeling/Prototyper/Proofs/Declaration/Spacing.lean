import Mathlib.Data.List.Chain
import Mathlib.Tactic.Lemma
import Prototyper.Signature.Prototype

/-!
# Spaces in declarations

Declarations are written with as few spaces as there can be: none at either end, none next to
another one, and none in front of a star, so that stars stand close to the type (`Tight`). The
declarator grows from the inside out, and each layer looks only at the first character of what is
there already. That is enough: what a layer puts in front ends in no space, and puts a space only
between two texts of which the second one begins with neither a space nor a star
(`Tight.append`, `Tight.space`).
-/

namespace Prototyper

namespace Declarator

/-- A text whose spaces stand alone between other characters. -/
structure Spaced (s : List Char) : Prop where
  start : s.head? ≠ some ' '
  stop : s.getLast? ≠ some ' '
  single : ¬ [' ', ' '] <:+: s

/-- A text whose spaces stand alone between other characters, and not in front of a star. -/
structure Tight (s : List Char) : Prop extends Spaced s where
  close : ¬ [' ', '*'] <:+: s

/-- The text with each star put close to what precedes it. -/
def closeStars : List Char → List Char
  | [] => []
  | ' ' :: '*' :: s => '*' :: closeStars s
  | c :: s => c :: closeStars s

/-- In a tight text a space is followed by neither a space nor a star. -/
lemma tight_iff {s : List Char} :
    Tight s ↔ s.head? ≠ some ' ' ∧ s.getLast? ≠ some ' ' ∧
      s.IsChain fun c c' => c = ' ' → c' ≠ ' ' ∧ c' ≠ '*' := by
  rw [List.isChain_iff_forall_rel_of_append_cons_cons]
  constructor
  · intro h
    refine ⟨h.start, h.stop, ?_⟩
    rintro c c' p q rfl rfl
    constructor
    · rintro rfl
      exact h.single ⟨p, q, by simp⟩
    · rintro rfl
      exact h.close ⟨p, q, by simp⟩
  · rintro ⟨start, stop, next⟩
    refine ⟨⟨start, stop, ?_⟩, ?_⟩
    · rintro ⟨p, q, rfl⟩
      exact (@next ' ' ' ' p q (by simp) rfl).1 rfl
    · rintro ⟨p, q, rfl⟩
      exact (@next ' ' '*' p q (by simp) rfl).2 rfl

/-- A text without spaces is tight. -/
lemma tight_of_notMem {s : List Char} (none : ' ' ∉ s) : Tight s where
  start h := none (List.mem_of_mem_head? h)
  stop h := none (List.mem_of_mem_getLast? h)
  single h := none (h.subset List.mem_cons_self)
  close h := none (h.subset List.mem_cons_self)

/-- No space comes of putting tight texts side by side. -/
lemma Tight.append {s t : List Char} (hs : Tight s) (ht : Tight t) : Tight (s ++ t) := by
  obtain ⟨start, stop, next⟩ := tight_iff.1 hs
  obtain ⟨start', stop', next'⟩ := tight_iff.1 ht
  refine tight_iff.2 ⟨?_, ?_, List.isChain_append.2 ⟨next, next', ?_⟩⟩
  · cases s with
    | nil => exact start'
    | cons => exact start
  · cases t with
    | nil => rwa [List.append_nil]
    | cons => rwa [List.getLast?_append_of_ne_nil _ (List.cons_ne_nil _ _)]
  · rintro _ last c' - rfl
    exact absurd last stop

/-- A space may stand between two texts if the second one does not begin with a star. -/
lemma Tight.space {s t : List Char} (hs : Tight s) (ht : Tight t) (left : s ≠ []) (right : t ≠ [])
    (noStar : t.head? ≠ some '*') : Tight (s ++ ' ' :: t) := by
  obtain ⟨start, stop, next⟩ := tight_iff.1 hs
  obtain ⟨start', stop', next'⟩ := tight_iff.1 ht
  refine tight_iff.2 ⟨?_, ?_, List.isChain_append.2 ⟨next, List.isChain_cons.2 ⟨?_, next'⟩, ?_⟩⟩
  · rwa [List.head?_append_of_ne_nil _ left]
  · rwa [List.getLast?_append_of_ne_nil _ (List.cons_ne_nil _ _),
      List.getLast?_cons_of_ne_nil right]
  · rintro c' head -
    constructor
    · rintro rfl
      exact start' head
    · rintro rfl
      exact noStar head
  · rintro _ last c' - rfl
    exact absurd last stop

/-- What follows a space in a tight text is tight. -/
lemma Tight.behind {s t : List Char} (h : Tight (s ++ ' ' :: t)) : Tight t := by
  obtain ⟨-, stop, next⟩ := tight_iff.1 h
  obtain ⟨follows, rest⟩ := List.isChain_cons.1 (List.isChain_append.1 next).2.1
  refine tight_iff.2 ⟨fun head => (follows ' ' head rfl).1 rfl, fun last => stop ?_, rest⟩
  have nonempty : t ≠ [] := List.ne_nil_of_mem (List.mem_of_mem_getLast? last)
  rwa [List.getLast?_append_of_ne_nil _ (List.cons_ne_nil _ _),
    List.getLast?_cons_of_ne_nil nonempty]

/-- Stars that are close to what precedes them stay where they are. -/
lemma Tight.closeStars_eq {s : List Char} (h : Tight s) : closeStars s = s := by
  obtain ⟨-, -, next⟩ := tight_iff.1 h
  clear h
  induction s using closeStars.induct with
  | case1 => rfl
  | case2 s ih => exact absurd rfl ((List.isChain_cons_cons.1 next).1 rfl).2
  | case3 c s other ih =>
    rw [closeStars, ih (List.isChain_cons.1 next).2]
    exact other

/-! ## Parts of a declaration -/

/-- A tight text that something may stand in front of, with a space between the two. -/
structure Opens (s : List Char) : Prop extends Tight s where
  nonempty : s ≠ []
  noStar : s.head? ≠ some '*'

/-- A text that may follow a space still may with something tight behind it. -/
lemma Opens.append {s t : List Char} (hs : Opens s) (ht : Tight t) : Opens (s ++ t) where
  toTight := hs.toTight.append ht
  nonempty := List.append_ne_nil_of_left_ne_nil hs.nonempty t
  noStar := by rw [List.head?_append_of_ne_nil _ hs.nonempty]; exact hs.noStar

/-- Of two texts that may follow a space, one may follow the other behind a space. -/
lemma Opens.space {s t : List Char} (hs : Opens s) (ht : Opens t) : Opens (s ++ ' ' :: t) where
  toTight := hs.toTight.space ht.toTight hs.nonempty ht.nonempty ht.noStar
  nonempty := List.append_ne_nil_of_left_ne_nil hs.nonempty _
  noStar := by rw [List.head?_append_of_ne_nil _ hs.nonempty]; exact hs.noStar

/-- The word of a qualifier may follow a space. -/
lemma opens_keyword (q : Qualifier) : Opens q.keyword.toList where
  toTight := tight_of_notMem (by cases q <;> decide)
  nonempty := by cases q <;> decide
  noStar := by cases q <;> decide

/-- Qualifiers may follow any text that is there. -/
lemma tight_qualifiersAfter {s : List Char} (h : Tight s) (nonempty : s ≠ [])
    (qs : List Qualifier) : Tight (s ++ qualifiersAfter qs) := by
  induction qs generalizing s with
  | nil => rwa [qualifiersAfter, List.flatMap_nil, List.append_nil]
  | cons q qs ih =>
    have keyword := opens_keyword q
    have first := h.space keyword.toTight nonempty keyword.nonempty keyword.noStar
    rw [qualifiersAfter, List.flatMap_cons, ← List.append_assoc]
    exact ih first (List.append_ne_nil_of_left_ne_nil nonempty _)

/-- A pointer with its qualifiers is tight. -/
lemma tight_star (qs : List Qualifier) : Tight ('*' :: qualifiersAfter qs) :=
  tight_qualifiersAfter (tight_of_notMem (by decide)) (List.cons_ne_nil _ []) qs

/-- Qualifiers in front of a text that may follow a space may follow one as well. -/
lemma opens_qualifiersBefore {s : List Char} (h : Opens s) (qs : List Qualifier) :
    Opens (qualifiersBefore qs ++ s) := by
  induction qs with
  | nil => exact h
  | cons q qs ih =>
    rw [qualifiersBefore, List.flatMap_cons, List.append_assoc, List.append_assoc]
    exact (opens_keyword q).space ih

/-- The suffix of an array is tight. -/
lemma tight_bounds (length : Option UInt64) : Tight (bounds length) := by
  refine tight_of_notMem ?_
  cases length with
  | none => decide
  | some n =>
    intro mem
    simp only [bounds, List.cons_append, List.mem_cons, List.mem_append] at mem
    have digit : ' ' ∈ Text.decimal n.toNat := by simpa using mem
    exact absurd (Text.isDigit_of_mem_decimal digit) (by decide)

/-- A pointer in front of a tight declarator is tight. -/
lemma tight_joinPointer {star inner : List Char} (h : Tight star) (nonempty : star ≠ [])
    (hinner : Tight inner) : Tight (joinPointer star inner) := by
  unfold joinPointer
  split
  case h_1 => exact h
  case h_2 => exact h.append hinner
  case h_3 empty pointer =>
    refine h.space hinner nonempty empty fun head => ?_
    obtain ⟨rest, rfl⟩ := List.head?_eq_some_iff.1 head
    exact pointer rest rfl

/-- A specifier that may follow a space may do so with a tight declarator behind it. -/
lemma opens_attach {specifier inner : List Char} (h : Opens specifier) (hinner : Tight inner) :
    Opens (attach specifier inner) := by
  unfold attach
  split
  case h_1 => exact h
  case h_2 | h_3 => exact h.append hinner
  case h_4 empty pointer _ =>
    refine h.space ⟨hinner, empty, fun head => ?_⟩
    obtain ⟨rest, rfl⟩ := List.head?_eq_some_iff.1 head
    exact pointer rest rfl

/-- A name that comes closer to the stars in front of it leaves a tight text. -/
lemma tight_hugName {inner : List Char} (h : Tight inner) : Tight (hugName inner) := by
  unfold hugName
  simp only
  split
  case h_2 => exact h
  case h_1 rest behind =>
    split
    · exact h
    · have stars : ' ' ∉ inner.takeWhile (· == '*') := fun mem =>
        absurd (List.all_eq_true.1 List.all_takeWhile _ mem) (by decide)
      rw [← List.takeWhile_append_dropWhile (p := (· == '*')) (l := inner), behind] at h
      exact (tight_of_notMem stars).append h.behind

/-- A group of a tight declarator is tight. -/
lemma tight_group (qs : List Qualifier) {inner : List Char} (h : Tight inner) :
    Tight (group qs inner) := by
  have opening : Tight ['('] := tight_of_notMem (by decide)
  have closing : Tight [')'] := tight_of_notMem (by decide)
  have pointer : Tight (if qs.isEmpty then '*' :: qualifiersAfter qs ++ hugName inner
      else joinPointer ('*' :: qualifiersAfter qs) inner) := by
    split
    · exact (tight_star qs).append (tight_hugName h)
    · exact tight_joinPointer (tight_star qs) (List.cons_ne_nil _ _) h
  exact (opening.append pointer).append closing

end Declarator

open Declarator

/-! ## Declarations -/

/-- A name without stars, whose spaces stand alone between other characters. -/
structure IsTightName (name : String) : Prop where
  nonempty : name ≠ ""
  noStar : '*' ∉ name.toList
  spaced : Spaced name.toList

/-- A tight name may follow a space. -/
lemma IsTightName.opens {name : String} (h : IsTightName name) : Opens name.toList where
  toSpaced := h.spaced
  close mem := h.noStar (mem.subset (by simp))
  nonempty empty := h.nonempty (String.toList_eq_nil_iff.1 empty)
  noStar head := h.noStar (List.mem_of_mem_head? head)

/-- The names in a specifier, if there are any, are tight. -/
def Specifier.HasTightNames : Specifier → Prop
  | void => True
  | base name => IsTightName name
  | named type => ∀ name ∈ type.name, IsTightName name

/-- The names in a signature, as far as there are any, are tight. -/
structure Signature.HasTightNames (sig : Signature) : Prop where
  name : IsTightName sig.name
  returnType : sig.returnType.specifier.HasTightNames
  parameterName : ∀ p ∈ sig.parameters, ∀ name ∈ p.name, IsTightName name
  parameterType : ∀ p ∈ sig.parameters, p.type.specifier.HasTightNames

/-- What is written for a named type may follow a space if the name is tight. -/
lemma opens_spelling {type : NamedType} (h : ∀ name ∈ type.name, IsTightName name) :
    Opens type.spelling.toList := by
  have name : Opens (type.name.getD "<anonymous>").toList := by
    cases named : type.name with
    | none => exact ⟨tight_of_notMem (by decide), by decide, by decide⟩
    | some name => exact (h name named).opens
  have tagged {keyword : String} (word : Opens keyword.toList) :
      Opens (keyword ++ " " ++ type.name.getD "<anonymous>").toList := by
    rw [String.toList_append, String.toList_append, List.append_assoc]
    exact word.space name
  unfold NamedType.spelling
  cases type.kind with
  | typedef => exact name
  | struct | union | enum =>
    exact tagged ⟨tight_of_notMem (by decide), by decide, by decide⟩

/-- What is written for a specifier may follow a space if its names are tight. -/
lemma Specifier.HasTightNames.opens {spec : Specifier} (h : spec.HasTightNames) :
    Opens spec.spelling.toList := by
  cases spec with
  | void => exact ⟨tight_of_notMem (by decide), by decide, by decide⟩
  | base name => exact IsTightName.opens h
  | named type => exact opens_spelling h

/-- Every layer of a type makes a tight text of a tight declarator. -/
lemma opens_declare {t : CType} (h : t.specifier.HasTightNames) {inner : List Char}
    (hinner : Tight inner) : Opens (t.declare inner) := by
  induction t generalizing inner with
  | leaf qs spec => exact opens_attach (opens_qualifiersBefore h.opens qs) hinner
  | pointer qs pointee ih =>
    rw [CType.declare]
    split
    · exact ih h (tight_group qs hinner)
    · exact ih h (tight_joinPointer (tight_star qs) (List.cons_ne_nil _ _) hinner)
  | array qs length element ih => exact ih h (hinner.append (tight_bounds length))

/-- Texts that may follow a space may do so with commas between them. -/
lemma opens_commaSeparated {texts : List (List Char)} (h : ∀ text ∈ texts, Opens text)
    (nonempty : texts ≠ []) : Opens (commaSeparated texts) := by
  have comma : Tight [','] := tight_of_notMem (by decide)
  induction texts using commaSeparated.induct with
  | case1 => exact absurd rfl nonempty
  | case2 text => exact h text List.mem_cons_self
  | case3 text rest more ih =>
    have first := h text List.mem_cons_self
    have others := ih (fun text mem => h text (List.mem_cons_of_mem _ mem)) (fun e => more e)
    have joined := (first.append comma).space others
    rw [commaSeparated]
    · rwa [List.append_assoc] at joined ⊢
    · exact more

namespace Signature

/-- The text of each parameter may follow a space if all names are tight. -/
lemma opens_parameterTexts {sig : Signature} (h : sig.HasTightNames) :
    ∀ text ∈ sig.parameterTexts, Opens text := by
  intro text mem
  rcases List.mem_append.1 mem with mem | mem
  · obtain ⟨p, hp, rfl⟩ := List.mem_map.1 mem
    refine opens_declare (h.parameterType p hp) ?_
    cases named : p.name with
    | none => exact tight_of_notMem (by decide)
    | some name => exact (h.parameterName p hp name named).opens.toTight
  · split at mem
    · obtain rfl := List.mem_singleton.1 mem
      exact ⟨tight_of_notMem (by decide), by decide, by decide⟩
    · cases mem

/-- A list of parameters may follow a space if all names are tight. -/
lemma opens_parameterList {sig : Signature} (h : sig.HasTightNames) : Opens sig.parameterList := by
  have texts := opens_parameterTexts h
  unfold parameterList
  split
  case h_1 => exact ⟨tight_of_notMem (by decide), by decide, by decide⟩
  case h_2 nonempty => exact opens_commaSeparated texts nonempty

/-- The declarator of a function is tight if all names are tight. -/
lemma tight_declare {sig : Signature} (h : sig.HasTightNames) : Tight sig.declare := by
  have opening : Tight ['('] := tight_of_notMem (by decide)
  have closing : Tight [')'] := tight_of_notMem (by decide)
  have semicolon : Tight [';'] := tight_of_notMem (by decide)
  have storage : Tight "static inline".toList :=
    (tight_of_notMem (s := "static".toList) (by decide)).space
      (tight_of_notMem (s := "inline".toList) (by decide)) (by decide) (by decide) (by decide)
  have inner : Tight (sig.name.toList ++ '(' :: sig.parameterList ++ [')']) :=
    (h.name.opens.toTight.append (opening.append (opens_parameterList h).toTight)).append closing
  have declared := opens_declare h.returnType inner
  unfold declare
  refine Tight.append ?_ semicolon
  split
  · exact storage.space declared.toTight (by decide) declared.nonempty declared.noStar
  · exact declared.toTight

end Signature

/-- Types, declarations and prototypes of tight names are written tightly, so closing up the stars
changes nothing about them. -/
theorem declarations_tight {t : CType} (ht : t.specifier.HasTightNames) {name : String}
    (hname : name = "" ∨ IsTightName name) {sig : Signature} (hsig : sig.HasTightNames) :
    ∀ text ∈ [t.text, t.declaration name, sig.text],
      Tight text.toList ∧ closeStars text.toList = text.toList := by
  have empty : Tight "".toList := tight_of_notMem (by decide)
  have inner : Tight name.toList := by
    rcases hname with rfl | hname
    · exact empty
    · exact hname.opens.toTight
  have tight : ∀ text ∈ [t.text, t.declaration name, sig.text], Tight text.toList := by
    simp only [List.forall_mem_cons, CType.text, CType.declaration, Signature.text,
      String.toList_ofList]
    exact ⟨(opens_declare ht empty).toTight, (opens_declare ht inner).toTight,
      Signature.tight_declare hsig, fun _ none => absurd none List.not_mem_nil⟩
  exact fun text mem => ⟨tight text mem, (tight text mem).closeStars_eq⟩

/-- A pointer to a constant pointer to rows of three characters. -/
def pointerToRows : CType :=
  .pointer [] (.pointer [.const] (.array [] (some 3) (.leaf [.const] (.base "unsigned char"))))

/-- A function from such a pointer and further arguments to `int`, declared inline. -/
def sumOfRows : Signature where
  entry := ⟨0x30⟩
  name := "sum"
  returnType := .leaf [] (.base "int")
  parameters := [⟨some "rows", pointerToRows⟩]
  isInline := true
  isVariadic := true
  isDeclaration := false
  isExternal := false
  inlineState := some .declaredInlined
  location := none

/-- Qualifiers, a group and a parameter list leave no space in front of a star. -/
theorem declarations_tight_rows :
    IsTightName "unsigned char" ∧ IsTightName "rows" ∧ sumOfRows.HasTightNames ∧
      sumOfRows.text = "static inline int sum(const unsigned char (* const* rows)[3], ...);" ∧
      ∀ text ∈ [pointerToRows.text, pointerToRows.declaration "rows", sumOfRows.text],
        Tight text.toList ∧ closeStars text.toList = text.toList := by
  have char : IsTightName "unsigned char" :=
    ⟨by decide, by decide, (tight_iff.2 (by decide)).toSpaced⟩
  have rows : IsTightName "rows" := ⟨by decide, by decide, (tight_iff.2 (by decide)).toSpaced⟩
  have named : sumOfRows.HasTightNames := {
    name := ⟨by decide, by decide, (tight_iff.2 (by decide)).toSpaced⟩
    returnType := ⟨by decide, by decide, (tight_iff.2 (by decide)).toSpaced⟩
    parameterName := by
      intro p mem name known
      cases List.mem_singleton.1 mem
      cases known
      exact rows
    parameterType := by
      intro p mem
      cases List.mem_singleton.1 mem
      exact char }
  exact ⟨char, rows, named, by decide,
    declarations_tight (t := pointerToRows) char (.inr rows) named⟩

end Prototyper
