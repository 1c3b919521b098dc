import Prototyper.Proofs.Declaration.Token

/-!
# How C reads a declaration

`Reads` states the rules of C for a declaration as a grammar over tokens: qualifiers and a type
name, and then a declarator, in which array suffixes bind tighter than the stars in front,
parentheses group, and qualifiers behind a star belong to that star. The layers of a declarator
are listed outermost first, that is from the declared name outwards.

`read` is a reader that decides every step by the next token. It finds each reading that the
grammar admits (`Reads.read_eq`), so a text has at most one reading (`Reads.unique`).
-/

namespace Prototyper.Declarator

/-- The qualifier that a word stands for. -/
def qualifierOf? (w : List Char) : Option Qualifier :=
  if w = "const".toList then some .const
  else if w = "volatile".toList then some .volatile
  else if w = "restrict".toList then some .restrict
  else none

/-- The kind of types whose names a word announces. -/
def kindOf? (w : List Char) : Option NamedKind :=
  if w = "struct".toList then some .struct
  else if w = "union".toList then some .union
  else if w = "enum".toList then some .enum
  else none

/-- Whether characters make a word of C, which no digit begins. -/
def isWord : List Char → Bool
  | [] => false
  | c :: s => isNameChar c && !c.isDigit && s.all isNameChar

/-- The type keywords of a dialect of C. They are words apart from the keywords that qualify types
or announce names, and `void` is one of them. -/
structure Vocabulary where
  isKeyword : List Char → Bool
  isWord_of_isKeyword : ∀ w, isKeyword w = true → isWord w = true
  qualifierOf?_of_isKeyword : ∀ w, isKeyword w = true → qualifierOf? w = none
  kindOf?_of_isKeyword : ∀ w, isKeyword w = true → kindOf? w = none
  void_isKeyword : isKeyword "void".toList = true

/-- Whether a word can be a name: it is no keyword of any kind. -/
def Vocabulary.isName (K : Vocabulary) (w : List Char) : Bool :=
  isWord w && !K.isKeyword w && (qualifierOf? w).isNone && (kindOf? w).isNone

/-- A word, if it is a type keyword. -/
def Vocabulary.keyword? (K : Vocabulary) (w : List Char) : Option (List Char) :=
  if K.isKeyword w then some w else none

/-- A layer of a type. The rules of C give an array no qualifiers of its own. -/
inductive Layer where
  | pointer (qualifiers : List Qualifier)
  | array (qualifiers : List Qualifier) (length : Option Nat)
  deriving DecidableEq, Repr

/-- The type that the layers of a declarator end in, as it is written. -/
inductive TypeName where
  | basic (keywords : List Char)
  | named (kind : NamedKind) (name : Option (List Char))
  deriving DecidableEq, Repr

/-- What a declaration says: the declared name, which may be empty, its layers from the outermost
inwards, and the qualifiers and the name of the type below them. -/
structure Reading where
  name : List Char
  layers : List Layer
  qualifiers : List Qualifier
  typeName : TypeName
  deriving DecidableEq, Repr

/-! ## The grammar -/

/-- Whether a declarator is a name with suffixes or has a star in front. -/
inductive Form where
  | direct
  | pointed

/-- The declarators of C, with the declared name and its layers. Only a direct declarator takes a
suffix, and so a star in front of it comes after all of its suffixes. -/
inductive Declares (K : Vocabulary) : Form → List Token → List Char → List Layer → Prop where
  | absent :
    Declares K .direct [] [] []
  | name {w} :
    K.isName w = true →
    Declares K .direct [.word w] w []
  | group {f ts w ls} :
    Declares K f ts w ls →
    Declares K .direct (.mark '(' :: ts ++ [.mark ')']) w ls
  | array {ts w ls} (length : Option Nat) :
    Declares K .direct ts w ls →
    Declares K .direct (ts ++ boundsTokens length) w (ls ++ [.array [] length])
  | pointer {f ts w ls} (qs : List Qualifier) :
    Declares K f ts w ls →
    Declares K .pointed (.mark '*' :: qualifierTokens qs ++ ts) w (ls ++ [.pointer qs])

/-- The name behind `struct`, `union` or `enum`, or a type name of its own; a type without a name
is written `<anonymous>`. -/
inductive Names (K : Vocabulary) : List Token → Option (List Char) → Prop where
  | name {w} :
    K.isName w = true →
    Names K [.word w] (some w)
  | anonymous :
    Names K [.mark '<', .word "anonymous".toList, .mark '>'] none

/-- The type names of C without qualifiers. -/
inductive Specifies (K : Vocabulary) : List Token → TypeName → Prop where
  | basic {ws : List (List Char)} :
    ws ≠ [] →
    (∀ w ∈ ws, K.isKeyword w = true) →
    Specifies K (ws.map .word) (.basic ([' '].intercalate ws))
  | tagged {k w ts n} :
    kindOf? w = some k →
    Names K ts n →
    Specifies K (.word w :: ts) (.named k n)
  | typedef {ts n} :
    Names K ts n →
    Specifies K ts (.named .typedef n)

/-- The readings of a declaration. -/
inductive Reads (K : Vocabulary) (text : List Char) : Reading → Prop where
  | intro {qs spec t f ts w ls} :
    tokens text = qualifierTokens qs ++ spec ++ ts →
    Specifies K spec t →
    Declares K f ts w ls →
    Reads K text ⟨w, ls, qs, t⟩

/-! ## The reader -/

/-- The words at the front to which `f` gives a value, with the tokens after them. -/
def takeWords {α : Type} (f : List Char → Option α) : List Token → List α × List Token
  | .word w :: ts =>
    match f w with
    | some a => (a :: (takeWords f ts).1, (takeWords f ts).2)
    | none => ([], .word w :: ts)
  | ts => ([], ts)

/-- The number that a word writes in decimal digits. -/
def numeral? (w : List Char) : Option Nat :=
  if Text.decimal (Nat.ofDigitChars 10 w 0) = w then some (Nat.ofDigitChars 10 w 0) else none

/-- The array suffixes at the front, with the tokens after them. -/
def suffixes : List Token → List Layer × List Token
  | .mark '[' :: .mark ']' :: ts => (.array [] none :: (suffixes ts).1, (suffixes ts).2)
  | .mark '[' :: .word w :: .mark ']' :: ts =>
    match numeral? w with
    | some n => (.array [] (some n) :: (suffixes ts).1, (suffixes ts).2)
    | none => ([], .mark '[' :: .word w :: .mark ']' :: ts)
  | ts => ([], ts)

/-- Taking words leaves no more tokens than there were. -/
lemma length_takeWords_le {α : Type} (f : List Char → Option α) (ts : List Token) :
    (takeWords f ts).2.length ≤ ts.length := by
  induction ts with
  | nil => simp [takeWords]
  | cons t ts ih =>
    cases t with
    | mark c => simp [takeWords]
    | word w =>
      simp only [takeWords]
      split
      · exact Nat.le_succ_of_le ih
      · exact Nat.le_refl _

/-- The declarator at the front: its name, its layers and the tokens after it. -/
def declarator (K : Vocabulary) (ts : List Token) :
    Option (List Char × List Layer × List Token) :=
  match ts with
  | .mark '*' :: ts =>
    (declarator K (takeWords qualifierOf? ts).2).map fun d =>
      (d.1, d.2.1 ++ [.pointer (takeWords qualifierOf? ts).1], d.2.2)
  | .mark '(' :: ts =>
    match declarator K ts with
    | some (w, ls, .mark ')' :: ts) => some (w, ls ++ (suffixes ts).1, (suffixes ts).2)
    | _ => none
  | .word w :: ts => if K.isName w then some (w, suffixes ts) else none
  | ts => some ([], suffixes ts)
  termination_by ts.length
  decreasing_by
    · exact Nat.lt_succ_of_le (length_takeWords_le _ _)
    · exact Nat.lt_succ_self _

/-- The name of a named type at the front, with the tokens after it. -/
def typeName (K : Vocabulary) : List Token → Option (Option (List Char) × List Token)
  | .word w :: ts => if K.isName w then some (some w, ts) else none
  | .mark '<' :: .word w :: .mark '>' :: ts =>
    if w = "anonymous".toList then some (none, ts) else none
  | _ => none

/-- The type name at the front, with the tokens after it. -/
def specifier (K : Vocabulary) (ts : List Token) : Option (TypeName × List Token) :=
  match takeWords K.keyword? ts with
  | (w :: ws, ts) => some (.basic ([' '].intercalate (w :: ws)), ts)
  | ([], _) =>
    match takeWords kindOf? ts with
    | ([k], ts) => (typeName K ts).map fun n => (.named k n.1, n.2)
    | _ => (typeName K ts).map fun n => (.named .typedef n.1, n.2)

/-- What a declaration says, if it is one. -/
def read (K : Vocabulary) (text : List Char) : Option Reading :=
  match specifier K (takeWords qualifierOf? (tokens text)).2 with
  | none => none
  | some (t, ts) =>
    match declarator K ts with
    | some (w, ls, []) => some ⟨w, ls, (takeWords qualifierOf? (tokens text)).1, t⟩
    | _ => none

/-! ## The reader finds every reading -/

/-- A name announces no named type, qualifies nothing and is no type keyword. -/
lemma Vocabulary.isName_iff {K : Vocabulary} {w : List Char} :
    K.isName w = true ↔
      isWord w = true ∧ K.isKeyword w = false ∧ qualifierOf? w = none ∧ kindOf? w = none := by
  simp [isName, and_assoc]

/-- Nothing is taken where the front is no word to which `f` gives a value. -/
lemma takeWords_of_head {α : Type} {f : List Char → Option α} {ts : List Token}
    (stop : ∀ w, ts.head? = some (.word w) → f w = none) : takeWords f ts = ([], ts) := by
  cases ts with
  | nil => rfl
  | cons t ts =>
    cases t with
    | mark c => rfl
    | word w => simp [takeWords, stop w rfl]

/-- The words to which `f` gives values are taken up to the first token that is none of them. -/
lemma takeWords_append {α : Type} {f : List Char → Option α} {ws : List (List Char)}
    {as : List α} {ts : List Token}
    (values : ws.map f = as.map some)
    (stop : ∀ w, ts.head? = some (.word w) → f w = none) :
    takeWords f (ws.map .word ++ ts) = (as, ts) := by
  induction ws generalizing as with
  | nil =>
    cases as with
    | cons a as => simp at values
    | nil => exact takeWords_of_head stop
  | cons w ws ih =>
    cases as with
    | nil => simp at values
    | cons a as =>
      simp only [List.map_cons, List.cons.injEq] at values
      obtain ⟨hw, hws⟩ := values
      simp only [List.map_cons, List.cons_append, takeWords, hw, ih hws]

/-- A word leads back to its qualifier. -/
lemma qualifierOf?_word (q : Qualifier) : qualifierOf? q.word.toList = some q := by
  cases q <;> decide

/-- The qualifiers at the front are taken as they were written. -/
lemma takeWords_qualifiers (qs : List Qualifier) {ts : List Token}
    (stop : ∀ w, ts.head? = some (.word w) → qualifierOf? w = none) :
    takeWords qualifierOf? (qualifierTokens qs ++ ts) = (qs, ts) := by
  have e : qualifierTokens qs = (qs.map fun q => q.word.toList).map Token.word := by
    simp [qualifierTokens]
  rw [e]
  apply takeWords_append _ stop
  rw [List.map_map]
  exact List.map_congr_left fun q _ => qualifierOf?_word q

/-- A suffix at the front is read as it was written. -/
lemma suffixes_bounds (length : Option Nat) (ts : List Token) :
    suffixes (boundsTokens length ++ ts) = (.array [] length :: (suffixes ts).1, (suffixes ts).2) := by
  cases length with
  | none => rfl
  | some n =>
    have numeral : numeral? (Text.decimal n) = some n := by
      simp [numeral?, Text.ofDigitChars_decimal]
    simp only [boundsTokens, List.cons_append, List.nil_append, suffixes, numeral]

/-- What may follow a declarator: the end, a closing parenthesis or, if it is direct, a suffix. -/
inductive Ends : Form → List Token → Prop where
  | nil {f} : Ends f []
  | close {f} (ts : List Token) : Ends f (.mark ')' :: ts)
  | bounds (length : Option Nat) (ts : List Token) : Ends .direct (boundsTokens length ++ ts)

/-- What may follow a declarator with a star in front may follow each declarator. -/
lemma Ends.of_pointed {ts : List Token} (f : Form) (h : Ends .pointed ts) :
    Ends f ts ∧ suffixes ts = ([], ts) := by
  cases h with
  | nil => exact ⟨.nil, rfl⟩
  | close ts => exact ⟨.close ts, rfl⟩

/-- Nothing that follows a declarator begins with a word. -/
lemma Ends.head?_ne_word {f : Form} {ts : List Token} (h : Ends f ts) (w : List Char) :
    ts.head? ≠ some (.word w) := by
  cases h with
  | nil => simp
  | close => simp
  | bounds length => cases length <;> simp [boundsTokens]

/-- A declarator that begins with a word begins with a name. -/
lemma Declares.isName_of_head {K : Vocabulary} {f ts w ls v}
    (d : Declares K f ts w ls) (rest : List Token) (ends : Ends f rest)
    (h : (ts ++ rest).head? = some (.word v)) : K.isName v = true := by
  induction d generalizing rest with
  | absent => exact absurd h (ends.head?_ne_word v)
  | name hw =>
    cases h
    exact hw
  | group => simp at h
  | array length _ ih =>
    rw [List.append_assoc] at h
    exact ih _ (.bounds length rest) h
  | pointer => simp at h

/-- The reader reads a declarator of the grammar as the grammar does, with the suffixes that
follow it. -/
lemma Declares.declarator_eq {K : Vocabulary} {f ts w ls}
    (d : Declares K f ts w ls) (rest : List Token) (ends : Ends f rest) :
    declarator K (ts ++ rest) = some (w, ls ++ (suffixes rest).1, (suffixes rest).2) := by
  induction d generalizing rest with
  | absent =>
    rw [List.nil_append, List.nil_append]
    cases ends with
    | nil => rw [declarator] <;> simp
    | close => rw [declarator] <;> simp
    | bounds length => cases length <;> rw [boundsTokens] <;> rw [List.cons_append, declarator] <;> simp
  | name hw => simp [declarator, hw]
  | @group f ts w ls _ ih =>
    have inner := ih _ (.close rest)
    have stop : suffixes (.mark ')' :: rest) = ([], .mark ')' :: rest) := rfl
    have e : .mark '(' :: ts ++ [.mark ')'] ++ rest
        = .mark '(' :: (ts ++ .mark ')' :: rest) := by simp
    rw [e, declarator, inner, stop]
    simp
  | array length _ ih =>
    -- the suffix counts as following the declarator in front of it
    rw [List.append_assoc, ih _ (.bounds length rest), suffixes_bounds]
    simp
  | @pointer f ts w ls qs d ih =>
    obtain ⟨inside, stop⟩ := ends.of_pointed f
    have plain : ∀ v, (ts ++ rest).head? = some (.word v) → qualifierOf? v = none := fun v hv =>
      (K.isName_iff.1 (d.isName_of_head rest inside hv)).2.2.1
    have e : .mark '*' :: qualifierTokens qs ++ ts ++ rest
        = .mark '*' :: (qualifierTokens qs ++ (ts ++ rest)) := by simp
    rw [e, declarator, takeWords_qualifiers qs plain, ih rest inside, stop]
    simp

/-- The reader takes a type name of the grammar off the front. -/
lemma Names.typeName_eq {K : Vocabulary} {ts n} (h : Names K ts n) (rest : List Token) :
    typeName K (ts ++ rest) = some (n, rest) := by
  cases h with
  | name hw => simp [typeName, hw]
  | anonymous => simp [typeName]

/-- A named type begins with a name or with a mark. -/
lemma Names.isName_of_head {K : Vocabulary} {ts n v} (h : Names K ts n) (rest : List Token)
    (head : (ts ++ rest).head? = some (.word v)) : K.isName v = true := by
  cases h with
  | name hw =>
    cases head
    exact hw
  | anonymous => simp at head

/-- Three words announce named types. -/
lemma eq_of_kindOf? {w : List Char} {k : NamedKind} (h : kindOf? w = some k) :
    w = "struct".toList ∨ w = "union".toList ∨ w = "enum".toList := by
  by_contra other
  obtain ⟨noStruct, noUnion, noEnum⟩ := not_or.1 other |>.imp id not_or.1
  rw [kindOf?, if_neg noStruct, if_neg noUnion, if_neg noEnum] at h
  cases h

/-- The word that announces a named type is neither a type keyword nor a qualifier. -/
lemma Vocabulary.plain_of_kindOf? (K : Vocabulary) {w k} (h : kindOf? w = some k) :
    K.isKeyword w = false ∧ qualifierOf? w = none := by
  constructor
  · by_contra keyword
    have none := K.kindOf?_of_isKeyword w (by simpa using keyword)
    rw [h] at none
    exact absurd none (by simp)
  · obtain rfl | rfl | rfl := eq_of_kindOf? h <;> decide

/-- The first word of a type name qualifies nothing. -/
lemma Specifies.qualifierOf?_of_head {K : Vocabulary} {ts t v} (h : Specifies K ts t)
    (rest : List Token) (head : (ts ++ rest).head? = some (.word v)) : qualifierOf? v = none := by
  cases h with
  | @basic ws ne keywords =>
    cases ws with
    | nil => exact absurd rfl ne
    | cons w ws =>
      cases head
      exact K.qualifierOf?_of_isKeyword v (keywords v List.mem_cons_self)
  | tagged announced _ =>
    cases head
    exact (K.plain_of_kindOf? announced).2
  | typedef names => exact (K.isName_iff.1 (names.isName_of_head rest head)).2.2.1

/-- The reader takes a type of the grammar off the front of a declarator. -/
lemma Specifies.specifier_eq {K : Vocabulary} {ts t} (h : Specifies K ts t) (rest : List Token)
    (stop : ∀ v, rest.head? = some (.word v) → K.isName v = true) :
    specifier K (ts ++ rest) = some (t, rest) := by
  cases h with
  | @basic ws ne keywords =>
    have taken : takeWords K.keyword? (ws.map .word ++ rest) = (ws, rest) := by
      apply takeWords_append
      · exact List.map_congr_left fun w hw => by simp [Vocabulary.keyword?, keywords w hw]
      · intro v hv
        simp [Vocabulary.keyword?, (K.isName_iff.1 (stop v hv)).2.1]
    cases ws with
    | nil => exact absurd rfl ne
    | cons w ws => simp only [specifier, taken]
  | @tagged k w ts n announced names =>
    have plain : takeWords K.keyword? (.word w :: (ts ++ rest)) = ([], .word w :: (ts ++ rest)) := by
      apply takeWords_of_head
      intro v hv
      cases hv
      simp [Vocabulary.keyword?, (K.plain_of_kindOf? announced).1]
    have kind : takeWords kindOf? (.word w :: (ts ++ rest)) = ([k], ts ++ rest) := by
      have stop : takeWords kindOf? (ts ++ rest) = ([], ts ++ rest) := takeWords_of_head fun v hv =>
        (K.isName_iff.1 (names.isName_of_head rest hv)).2.2.2
      simp [takeWords, announced, stop]
    simp only [List.cons_append, specifier, plain, kind, names.typeName_eq, Option.map_some]
  | typedef names =>
    have plain : takeWords K.keyword? (ts ++ rest) = ([], ts ++ rest) := takeWords_of_head fun v hv => by
      simp [Vocabulary.keyword?, (K.isName_iff.1 (names.isName_of_head rest hv)).2.1]
    have kind : takeWords kindOf? (ts ++ rest) = ([], ts ++ rest) := takeWords_of_head fun v hv =>
      (K.isName_iff.1 (names.isName_of_head rest hv)).2.2.2
    simp only [specifier, plain, kind, names.typeName_eq, Option.map_some]

/-- The reader finds each reading of a declaration. -/
lemma Reads.read_eq {K : Vocabulary} {text r} (h : Reads K text r) : read K text = some r := by
  cases h with
  | @intro qs spec t f ts w ls split spells d =>
    have front : takeWords qualifierOf? (tokens text) = (qs, spec ++ ts) := by
      rw [split, List.append_assoc]
      exact takeWords_qualifiers qs fun v hv => spells.qualifierOf?_of_head ts hv
    have behind := spells.specifier_eq ts fun v hv =>
      d.isName_of_head [] .nil (by simpa using hv)
    have inside := d.declarator_eq [] .nil
    rw [List.append_nil] at inside
    simp [read, front, behind, inside, suffixes]

/-- A declaration has at most one reading. -/
lemma Reads.unique {K : Vocabulary} {text r r'} (h : Reads K text r) (h' : Reads K text r') :
    r = r' := by
  have e := h.read_eq
  rw [h'.read_eq] at e
  exact (Option.some.inj e).symm

end Prototyper.Declarator
