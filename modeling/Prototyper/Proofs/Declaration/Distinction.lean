import Prototyper.Proofs.Declaration.Nesting

/-!
# Declarations that tell types apart

`declareTokens_eq` takes the tokens of a declaration apart into what stands in front of the declared
text and what stands behind it. `eq_of_declareTokens` is the main result: two declarations with the
same tokens declare the same name with the same type, up to the entries of named types, which are
not written, and provided that no base type is called `void`.
-/

namespace Prototyper.CType
open Declarator

/-- A type without the entries of its named types. -/
def withoutEntries : CType → CType
  | leaf qs (.named type) => leaf qs (.named { type with id := default })
  | leaf qs spec => leaf qs spec
  | pointer qs pointee => pointer qs pointee.withoutEntries
  | array qs length element => array qs length element.withoutEntries

/-- The tokens of the specifier of a type, with its qualifiers. -/
def specifierTokens (t : CType) : List Token :=
  qualifierTokens t.specifierQualifiers ++ tokens t.specifier.spelling.toList

/-- The tokens between the specifier of a type and the declared text. -/
def opening : CType → List Token
  | leaf _ _ => []
  | pointer qs pointee =>
    pointee.opening ++ (if pointee.isArray then [.mark '('] else []) ++
      .mark '*' :: qualifierTokens qs
  | array _ _ element => element.opening

/-- The tokens behind the declared text. -/
def closing : CType → List Token
  | leaf _ _ => []
  | pointer _ pointee => (if pointee.isArray then [.mark ')'] else []) ++ pointee.closing
  | array _ length element => boundsTokens (length.map UInt64.toNat) ++ element.closing

/-- The tokens of a declarator stand between the opening and the closing ones of its type. -/
lemma declareTokens_eq (t : CType) (inner : List Token) :
    t.declareTokens inner = t.specifierTokens ++ t.opening ++ inner ++ t.closing := by
  induction t generalizing inner with
  | leaf qs spec => simp [declareTokens, specifierTokens, opening, closing, specifierQualifiers, specifier]
  | pointer qs pointee ih =>
    have same : (pointer qs pointee).specifierTokens = pointee.specifierTokens := rfl
    rw [declareTokens, opening, closing, same]
    split <;> simp [ih]
  | array qs length element ih =>
    have same : (array qs length element).specifierTokens = element.specifierTokens := rfl
    rw [declareTokens, opening, closing, same, ih]
    simp

/-- A declaration does not show from which entries its type comes. -/
lemma declare_withoutEntries (t : CType) (inner : List Char) :
    t.withoutEntries.declare inner = t.declare inner := by
  have isArray : ∀ d : CType, d.withoutEntries.isArray = d.isArray := by
    intro d
    match d with
    | leaf _ .void => rfl
    | leaf _ (.base _) => rfl
    | leaf _ (.named _) => rfl
    | pointer _ _ => rfl
    | array _ _ _ => rfl
  induction t generalizing inner with
  | leaf qs spec => cases spec <;> rfl
  | pointer qs pointee ih =>
    rw [withoutEntries, declare, declare, isArray, ih, ih]
  | array qs length element ih =>
    rw [withoutEntries, declare, declare, ih]

end Prototyper.CType

namespace Prototyper.Declarator

/-- Whether a word is an identifier of a prototype: it is no keyword of any kind. -/
def Vocabulary.isIdentifier (K : Vocabulary) (w : List Char) : Bool :=
  K.isName w && w ≠ "static".toList && w ≠ "inline".toList

/-- Whether a specifier is written in a vocabulary in one way only: a base type in type keywords
other than `void`, a named type with an identifier, if it has a name. -/
def Vocabulary.Writes (K : Vocabulary) : Specifier → Prop
  | .void => True
  | .base name => name ≠ "void" ∧ K.Spells (.base name)
  | .named type => ∀ name, type.name = some name → K.isIdentifier name.toList = true

variable {K : Vocabulary}

/-- An identifier is a name other than the keywords of storage. -/
lemma Vocabulary.isIdentifier_iff {w : List Char} : K.isIdentifier w = true ↔
    K.isName w = true ∧ w ≠ "static".toList ∧ w ≠ "inline".toList := by
  simp only [isIdentifier, Bool.and_eq_true, decide_eq_true_eq, and_assoc]

/-- What is written in one way is spelled. -/
lemma Vocabulary.Writes.spells {spec : Specifier} (h : K.Writes spec) : K.Spells spec := by
  cases spec with
  | void => trivial
  | base name => exact h.2
  | named type => exact fun name named => (K.isIdentifier_iff.1 (h name named)).1

/-! ## Tokens of a declaration -/

/-- The only marks in a type name are the brackets around `anonymous`. -/
lemma Specifies.mark_mem {ts : List Token} {n : TypeName} (h : Specifies K ts n) {c : Char}
    (mem : .mark c ∈ ts) : c = '<' ∨ c = '>' := by
  have names : ∀ {ts n}, Names K ts n → .mark c ∈ ts → c = '<' ∨ c = '>' := by
    intro ts n h mem
    cases h with
    | name => simp at mem
    | anonymous => simpa using mem
  cases h with
  | basic => simp at mem
  | tagged _ h => exact names h (by simpa using mem)
  | typedef h => exact names h mem

/-- The marks that `declareTokens` puts around the declared text. -/
def declaratorMarks : List Char :=
  ['*', '(', ')', '[', ']', '<', '>']

/-- A declaration has no marks but those of declarators and of what it declares. -/
lemma mark_mem_declareTokens {t : CType} (h : K.Spells t.specifier) {inner : List Token} {c : Char}
    (mem : .mark c ∈ t.declareTokens inner) : c ∈ declaratorMarks ∨ .mark c ∈ inner := by
  induction t generalizing inner with
  | leaf qs spec =>
    rw [CType.declareTokens, List.mem_append, List.mem_append] at mem
    obtain (qualifier | name) | mem := mem
    · simp [qualifierTokens] at qualifier
    · obtain rfl | rfl := (specifies_spelling h).mark_mem name <;> exact .inl (by decide)
    · exact .inr mem
  | pointer qs pointee ih =>
    have star : ∀ {ts : List Token}, .mark c ∈ .mark '*' :: qualifierTokens qs ++ ts →
        c ∈ declaratorMarks ∨ .mark c ∈ ts := by
      intro ts mem
      simp only [qualifierTokens, List.cons_append, List.mem_cons, Token.mark.injEq, List.mem_append,
        List.mem_map, reduceCtorEq, and_false, exists_false, false_or] at mem
      obtain rfl | mem := mem
      · exact .inl (by decide)
      · exact .inr mem
    rw [CType.declareTokens] at mem
    split at mem
    case isTrue =>
      obtain marks | mem := ih h mem
      · exact .inl marks
      · rw [List.cons_append, List.mem_cons, List.mem_append, List.mem_singleton] at mem
        obtain ⟨⟨⟩⟩ | mem | ⟨⟨⟩⟩ := mem
        · exact .inl (by decide)
        · exact star mem
        · exact .inl (by decide)
    case isFalse =>
      obtain marks | mem := ih h mem
      · exact .inl marks
      · exact star mem
  | array qs length element ih =>
    obtain marks | mem := ih h mem
    · exact .inl marks
    · obtain mem | bound := List.mem_append.1 mem
      · exact .inr mem
      · left
        cases length with
        | none =>
          simp only [boundsTokens, Option.map_none, List.mem_cons, Token.mark.injEq,
            List.not_mem_nil, or_false] at bound
          obtain rfl | rfl := bound <;> decide
        | some n =>
          simp only [boundsTokens, Option.map_some, List.mem_cons, Token.mark.injEq, reduceCtorEq,
            List.not_mem_nil, or_false, false_or] at bound
          obtain rfl | rfl := bound <;> decide

/-- The tokens of a specifier have no marks but the brackets of a missing name. -/
lemma mark_notMem_specifierTokens {t : CType} (h : K.Spells t.specifier) {c : Char}
    (hc : c ≠ '<' ∧ c ≠ '>') : .mark c ∉ t.specifierTokens := by
  intro mem
  obtain mem | mem := List.mem_append.1 mem
  · simp [qualifierTokens] at mem
  · obtain rfl | rfl := (specifies_spelling h).mark_mem mem
    · exact hc.1 rfl
    · exact hc.2 rfl

/-- The parentheses that a type puts in front of the declared text are those of groups. -/
lemma grouped_opening (t : CType) : Grouped t.opening := by
  induction t with
  | leaf => exact grouped_of_notMem (by simp [CType.opening])
  | pointer qs pointee ih =>
    have qualifiers : Grouped (qualifierTokens qs) := grouped_of_notMem (by simp [qualifierTokens])
    rw [CType.opening, List.append_assoc]
    refine ih.append ?_
    split
    case isTrue => exact qualifiers.group
    case isFalse => exact grouped_of_notMem (by simp [qualifierTokens])
  | array _ _ _ ih => exact ih

/-- Parentheses match in a declaration if they do in what it declares. -/
lemma balanced_declareTokens {t : CType} (h : K.Spells t.specifier) {inner : List Token}
    (hinner : Balanced inner) : Balanced (t.declareTokens inner) := by
  induction t generalizing inner with
  | leaf qs spec =>
    have front : Balanced (CType.leaf qs spec).specifierTokens :=
      balanced_of_notMem (mark_notMem_specifierTokens h (by decide))
        (mark_notMem_specifierTokens h (by decide))
    exact front.append hinner
  | pointer qs pointee ih =>
    have star : Balanced (.mark '*' :: qualifierTokens qs) :=
      balanced_of_notMem (by simp [qualifierTokens]) (by simp [qualifierTokens])
    have starred := star.append hinner
    rw [CType.declareTokens]
    split
    case isTrue => exact ih h starred.group
    case isFalse => exact ih h starred
  | array qs length element ih =>
    have bounds : Balanced (boundsTokens (length.map UInt64.toNat)) := by
      cases length <;> exact balanced_of_notMem (by simp [boundsTokens]) (by simp [boundsTokens])
    exact ih h (hinner.append bounds)

/-! ## Types from tokens -/

/-- A type that has a spelling of its own, up to the entries of named types. -/
structure Vocabulary.WritesType (K : Vocabulary) (t : CType) : Prop where
  arrays : t.ArraysUnqualified
  specifier : K.Writes t.specifier

/-- A text with the tokens of a declaration is read as the declaration. -/
lemma reads_of_tokens {t : CType} {name : String} {text : List Char} (h : K.WritesType t)
    (hname : name = "" ∨ K.isName name.toList = true)
    (e : tokens text = t.declareTokens (tokens name.toList)) : Reads K text (readingOf t name) := by
  obtain ⟨f, ts, split, declares⟩ := declares_layers h.arrays (declares_name hname) fun _ => rfl
  exact .intro (e.trans split) (specifies_spelling h.specifier.spells) declares

/-- A specifier that is written in one way only is known from what is written. -/
lemma Vocabulary.Writes.eq_of_typeNameOf {spec spec' : Specifier} (h : K.Writes spec)
    (h' : K.Writes spec') (same : typeNameOf spec = typeNameOf spec') (qs : List Qualifier) :
    (CType.leaf qs spec).withoutEntries = (CType.leaf qs spec').withoutEntries := by
  cases spec with
  | void =>
    cases spec' with
    | void => rfl
    | base name =>
      have void : "void".toList = name.toList := TypeName.basic.inj same
      exact absurd (String.toList_inj.1 void).symm h'.1
    | named => cases same
  | base name =>
    cases spec' with
    | void =>
      have void : name.toList = "void".toList := TypeName.basic.inj same
      exact absurd (String.toList_inj.1 void) h.1
    | base name' =>
      have names : name.toList = name'.toList := TypeName.basic.inj same
      rw [String.toList_inj.1 names]
    | named => cases same
  | named type =>
    cases spec' with
    | void => cases same
    | base => cases same
    | named type' =>
      obtain ⟨kinds, names⟩ := TypeName.named.inj same
      have names' : type.name = type'.name :=
        Option.map_injective (fun _ _ => String.toList_inj.1) names
      simp only [CType.withoutEntries, kinds, names']

/-- Types with the same reading are the same but for the entries they come from. -/
lemma eq_of_layers {t t' : CType} (h : K.Writes t.specifier) (h' : K.Writes t'.specifier)
    (layers : t.layers = t'.layers) (qualifiers : t.specifierQualifiers = t'.specifierQualifiers)
    (same : typeNameOf t.specifier = typeNameOf t'.specifier) :
    t.withoutEntries = t'.withoutEntries := by
  induction t generalizing t' with
  | leaf qs spec =>
    cases t' with
    | leaf qs' spec' =>
      cases qualifiers
      exact h.eq_of_typeNameOf h' same qs
    | pointer => cases layers
    | array => cases layers
  | pointer qs pointee ih =>
    cases t' with
    | leaf => cases layers
    | pointer qs' pointee' =>
      obtain ⟨⟨⟩, rest⟩ := List.cons.inj layers
      have pointees : pointee.withoutEntries = pointee'.withoutEntries :=
        ih h h' rest qualifiers same
      rw [CType.withoutEntries, CType.withoutEntries, pointees]
    | array => cases (List.cons.inj layers).1
  | array qs length element ih =>
    cases t' with
    | leaf => cases layers
    | pointer => cases (List.cons.inj layers).1
    | array qs' length' element' =>
      obtain ⟨first, rest⟩ := List.cons.inj layers
      obtain ⟨rfl, lengths⟩ := Layer.array.inj first
      have lengths' : length = length' :=
        Option.map_injective (fun _ _ => UInt64.toNat_inj.1) lengths
      have elements : element.withoutEntries = element'.withoutEntries :=
        ih h h' rest qualifiers same
      rw [CType.withoutEntries, CType.withoutEntries, lengths', elements]

/-- A declaration has the tokens of no other name and no other type. -/
lemma eq_of_declareTokens {t t' : CType} {name name' : String} (h : K.WritesType t)
    (h' : K.WritesType t') (hname : name = "" ∨ K.isName name.toList = true)
    (hname' : name' = "" ∨ K.isName name'.toList = true)
    (e : t.declareTokens (tokens name.toList) = t'.declareTokens (tokens name'.toList)) :
    name = name' ∧ t.withoutEntries = t'.withoutEntries := by
  have text : tokens (t.declare name.toList) = t.declareTokens (tokens name.toList) :=
    CType.tokens_declare t name.toList
  have same := (reads_of_tokens h hname text).unique (reads_of_tokens h' hname' (text.trans e))
  obtain ⟨names, layers, qualifiers, typeNames⟩ := Reading.mk.inj same
  exact ⟨String.toList_inj.1 names,
    eq_of_layers h.specifier h'.specifier layers qualifiers typeNames⟩

/-! ## The first token -/

/-- A specifier begins with a keyword or a type name, or with a bracket. -/
lemma Specifies.head {ts : List Token} {n : TypeName} (h : Specifies K ts n) :
    ∃ first rest, ts = first :: rest ∧ (first = .mark '<' ∨ ∃ w, first = .word w ∧
      (K.isKeyword w = true ∨ (∃ k, kindOf? w = some k) ∨ n = .named .typedef (some w))) := by
  cases h with
  | @basic ws ne keywords =>
    cases ws with
    | nil => exact absurd rfl ne
    | cons w ws => exact ⟨_, _, rfl, .inr ⟨w, rfl, .inl (keywords w List.mem_cons_self)⟩⟩
  | @tagged k w ts n announced names =>
    exact ⟨_, _, rfl, .inr ⟨w, rfl, .inr (.inl ⟨k, announced⟩)⟩⟩
  | typedef names =>
    cases names with
    | @name w hw => exact ⟨_, _, rfl, .inr ⟨w, rfl, .inr (.inr rfl)⟩⟩
    | anonymous => exact ⟨_, _, rfl, .inl rfl⟩

/-- No type has the name of a keyword of storage. -/
lemma Vocabulary.Writes.ne_static {spec : Specifier} {kind : NamedKind} {w : List Char}
    (h : K.Writes spec) (named : typeNameOf spec = .named kind (some w)) : w ≠ "static".toList := by
  cases spec with
  | void => cases named
  | base => cases named
  | named type =>
    obtain ⟨name, hname, rfl⟩ := Option.map_eq_some_iff.1 (TypeName.named.inj named).2
    exact (K.isIdentifier_iff.1 (h name hname)).2.1

/-- A declaration begins neither with a star nor with a keyword of storage. -/
lemma head_specifierTokens (storage : K.isKeyword "static".toList = false) {t : CType}
    (h : K.WritesType t) : ∃ first rest, t.specifierTokens = first :: rest ∧
      first ≠ .mark '*' ∧ first ≠ .mark '.' ∧ first ≠ .word "static".toList := by
  rw [CType.specifierTokens]
  cases t.specifierQualifiers with
  | cons q qs =>
    refine ⟨_, _, rfl, nofun, nofun, ?_⟩
    cases q <;> decide
  | nil =>
    obtain ⟨first, rest, e, start⟩ := (specifies_spelling h.specifier.spells).head
    refine ⟨first, rest, e, ?_⟩
    obtain rfl | ⟨w, rfl, word⟩ := start
    · decide
    · refine ⟨nofun, nofun, ?_⟩
      rintro ⟨⟩
      obtain keyword | ⟨k, kind⟩ | typedef := word
      · exact absurd keyword (by rw [storage]; decide)
      · exact absurd kind (by cases k <;> decide)
      · exact absurd rfl (h.specifier.ne_static typedef)

end Prototyper.Declarator
