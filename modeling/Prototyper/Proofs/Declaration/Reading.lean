import Prototyper.Proofs.Declaration.Grammar

/-!
# A declaration means its type

`declare` wraps the text of a declarator from the inside out. `declares_layers` follows it through
the layers: a pointer puts a star in front of any declarator, an array asks for a direct one, and
the parentheses around a pointer to an array make it direct again. So the text of a declaration is
read back as the type it was written for (`reads_declaration_iff`).
-/

namespace Prototyper.CType
open Declarator

/-- The layers of a type above its specifier, outermost first. -/
def layers : CType → List Layer
  | leaf _ _ => []
  | pointer qs pointee => .pointer qs :: pointee.layers
  | array qs length element => .array qs (length.map UInt64.toNat) :: element.layers

/-- The qualifiers of the specifier in which the layers end. -/
def specifierQualifiers : CType → List Qualifier
  | leaf qs _ => qs
  | pointer _ pointee => pointee.specifierQualifiers
  | array _ _ element => element.specifierQualifiers

/-- Whether no array has qualifiers of its own, which C cannot write. -/
def ArraysUnqualified : CType → Prop
  | leaf _ _ => True
  | pointer _ pointee => pointee.ArraysUnqualified
  | array qs _ element => qs = [] ∧ element.ArraysUnqualified

end Prototyper.CType

namespace Prototyper.Declarator

/-- A specifier as it is written: the entry of a named type does not show, nor does whether `void`
is the name of a base type. -/
def typeNameOf : Specifier → TypeName
  | .void => .basic "void".toList
  | .base name => .basic name.toList
  | .named type => .named type.kind (type.name.map String.toList)

/-- Whether a specifier is written in a vocabulary: a base type in type keywords with single spaces
between them, a named type with a name that is no keyword. -/
def Vocabulary.Spells (K : Vocabulary) : Specifier → Prop
  | .void => True
  | .base name => ∃ ws : List (List Char),
      ws ≠ [] ∧ (∀ w ∈ ws, K.isKeyword w = true) ∧ name.toList = [' '].intercalate ws
  | .named type => ∀ name, type.name = some name → K.isName name.toList = true

/-- What a declaration of a name with a type says. -/
def readingOf (t : CType) (name : String) : Reading where
  name := name.toList
  layers := t.layers
  qualifiers := t.specifierQualifiers
  typeName := typeNameOf t.specifier

/-- A word is not empty and made of the characters of words. -/
lemma isWord_iff {w : List Char} (h : isWord w = true) :
    w ≠ [] ∧ ∀ c ∈ w, isNameChar c = true := by
  cases w with
  | nil => exact absurd h (by simp [isWord])
  | cons c s =>
    simp only [isWord, Bool.and_eq_true] at h
    obtain ⟨⟨hc, -⟩, hs⟩ := h
    refine ⟨by simp, fun d hd => ?_⟩
    cases hd with
    | head => exact hc
    | tail _ hd => exact List.all_eq_true.1 hs d hd

/-- A word is one token. -/
lemma tokens_of_isWord {w : List Char} (h : isWord w = true) : tokens w = [.word w] :=
  tokens_word (isWord_iff h).1 (isWord_iff h).2

/-- Words with blanks between them are one token each. -/
lemma tokens_intercalate {ws : List (List Char)} (h : ∀ w ∈ ws, isWord w = true) :
    tokens ([' '].intercalate ws) = ws.map .word := by
  induction ws with
  | nil => rfl
  | cons w ws ih =>
    have word := tokens_of_isWord (h w (by simp))
    have ih := ih fun v hv => h v (List.mem_cons_of_mem w hv)
    cases ws with
    | nil => simpa using word
    | cons v ws =>
      have apart : Apart w (' ' :: [' '].intercalate (v :: ws)) := apart_cons (by decide) _ _
      rw [List.intercalate_cons_cons, List.append_assoc, List.singleton_append,
        tokens_append apart, tokens_blank, word, ih]
      rfl

/-- The name of a named type is written as a name of the grammar. -/
lemma names_spelling {K : Vocabulary} {name : Option String}
    (h : ∀ n, name = some n → K.isName n.toList = true) :
    Names K (tokens (name.getD "<anonymous>").toList) (name.map String.toList) := by
  cases name with
  | none =>
    have e : tokens ((none : Option String).getD "<anonymous>").toList
        = [.mark '<', .word "anonymous".toList, .mark '>'] := by decide
    rw [e]
    exact .anonymous
  | some n =>
    have hn := h n rfl
    rw [Option.getD_some, tokens_of_isWord (K.isName_iff.1 hn).1]
    exact .name hn

/-- A named type is spelled with its keyword in front of its name. -/
lemma toList_spelling {type : NamedType} {keyword : String}
    (h : type.kind.keyword? = some keyword) :
    type.spelling.toList = keyword.toList ++ ' ' :: (type.name.getD "<anonymous>").toList := by
  simp [NamedType.spelling, h, String.toList_append, toString]

/-- A specifier is written as a type name of the grammar. -/
lemma specifies_spelling {K : Vocabulary} {spec : Specifier} (h : K.Spells spec) :
    Specifies K (tokens spec.spelling.toList) (typeNameOf spec) := by
  cases spec with
  | void =>
    have e : tokens Specifier.void.spelling.toList = ["void".toList].map .word := by decide
    rw [e]
    exact .basic (by simp) (by simpa using K.void_isKeyword)
  | base name =>
    obtain ⟨ws, ne, keywords, e⟩ := h
    have words : ∀ w ∈ ws, isWord w = true := fun w hw => K.isWord_of_isKeyword w (keywords w hw)
    rw [Specifier.spelling, typeNameOf, e, tokens_intercalate words]
    exact .basic ne keywords
  | named type =>
    have names := names_spelling h
    cases announced : type.kind.keyword? with
    | none =>
      have typedef : type.kind = .typedef := by
        cases k : type.kind <;> rw [k] at announced <;> simp [NamedKind.keyword?] at announced
      have e : (Specifier.named type).spelling = type.name.getD "<anonymous>" := by
        simp [Specifier.spelling, NamedType.spelling, announced]
      rw [e, typeNameOf, typedef]
      exact .typedef names
    | some keyword =>
      have kind : kindOf? keyword.toList = some type.kind ∧ isWord keyword.toList = true := by
        cases k : type.kind <;> rw [k] at announced <;> cases announced <;> decide
      rw [Specifier.spelling, toList_spelling announced,
        tokens_append (apart_cons (by decide) _ _), tokens_blank, tokens_of_isWord kind.2]
      exact .tagged kind.1 names

/-- What `declare` writes around a declarator of the grammar, from the layers of the type on. An
array needs a direct declarator, and is given one: its suffixes follow the name or a group. -/
lemma declares_layers {K : Vocabulary} {t : CType} (h : t.ArraysUnqualified) {f ts w ls}
    (d : Declares K f ts w ls) (direct : t.isArray = true → f = .direct) :
    ∃ f' ts', t.declareTokens ts
        = qualifierTokens t.specifierQualifiers ++ tokens t.specifier.spelling.toList ++ ts' ∧
      Declares K f' ts' w (ls ++ t.layers) := by
  induction t generalizing f ts ls with
  | leaf qs spec =>
    rw [CType.layers, List.append_nil]
    exact ⟨f, ts, rfl, d⟩
  | pointer qs pointee ih =>
    have starred := Declares.pointer qs d
    have e : ls ++ (CType.pointer qs pointee).layers = ls ++ [.pointer qs] ++ pointee.layers := by
      simp [CType.layers]
    rw [e, CType.declareTokens]
    split
    case isTrue => exact ih h starred.group fun _ => rfl
    case isFalse notArray => exact ih h starred fun array => absurd array notArray
  | array qs length element ih =>
    obtain ⟨rfl, h⟩ := h
    cases direct rfl
    have e : ls ++ (CType.array [] length element).layers
        = ls ++ [.array [] (length.map UInt64.toNat)] ++ element.layers := by
      simp [CType.layers]
    rw [e, CType.declareTokens]
    exact ih h (d.array _) fun _ => rfl

/-- A declared name, which may be missing, is a direct declarator without layers. -/
lemma declares_name {K : Vocabulary} {name : String}
    (h : name = "" ∨ K.isName name.toList = true) :
    Declares K .direct (tokens name.toList) name.toList [] := by
  obtain rfl | h := h
  · exact .absent
  · rw [tokens_of_isWord (K.isName_iff.1 h).1]
    exact .name h

/-- The declaration of a name with a type is read as declaring that name with that type, and in no
other way. -/
theorem reads_declaration_iff (K : Vocabulary) {t : CType} {name : String}
    (arrays : t.ArraysUnqualified) (spells : K.Spells t.specifier)
    (hname : name = "" ∨ K.isName name.toList = true) (r : Reading) :
    Reads K (t.declaration name).toList r ↔ r = readingOf t name := by
  have reads : Reads K (t.declaration name).toList (readingOf t name) := by
    obtain ⟨f, ts, e, d⟩ := declares_layers arrays (declares_name hname) fun _ => rfl
    refine .intro ?_ (specifies_spelling spells) d
    rw [CType.declaration, String.toList_ofList, CType.tokens_declare, e]
  constructor
  · exact fun h => h.unique reads
  · rintro rfl
    exact reads

/-- The words that name the basic types of C. -/
def standardKeywords : List (List Char) :=
  ["void".toList, "char".toList, "short".toList, "int".toList, "long".toList, "float".toList,
   "double".toList, "signed".toList, "unsigned".toList, "_Bool".toList, "_Complex".toList]

/-- The words that name basic types are words, and no keywords of another kind. -/
lemma standardKeywords_plain : ∀ w ∈ standardKeywords,
    isWord w = true ∧ qualifierOf? w = none ∧ kindOf? w = none := by
  decide

/-- The type keywords of standard C. -/
def standard : Vocabulary where
  isKeyword w := w ∈ standardKeywords
  isWord_of_isKeyword w h := (standardKeywords_plain w (by simpa using h)).1
  qualifierOf?_of_isKeyword w h := (standardKeywords_plain w (by simpa using h)).2.1
  kindOf?_of_isKeyword w h := (standardKeywords_plain w (by simpa using h)).2.2
  void_isKeyword := by decide

/-- A pointer to a pointer to an array of pointers to arrays, with qualifiers in three places. -/
def cells : CType :=
  .pointer [] (.pointer [.const] (.array [] (some 10)
    (.pointer [.restrict, .volatile] (.array [] none (.leaf [.const] (.base "unsigned int"))))))

example : cells.declaration "cells"
    = "const unsigned int (* restrict volatile (* const* cells)[10])[]" := by decide

/-- The declaration of `cells` in standard C has one reading, which is its type. -/
theorem reads_declaration_cells :
    cells.ArraysUnqualified ∧ standard.Spells cells.specifier ∧
    standard.isName "cells".toList = true ∧
    ∀ r, Reads standard (cells.declaration "cells").toList r ↔ r = readingOf cells "cells" := by
  have arrays : cells.ArraysUnqualified := ⟨rfl, rfl, trivial⟩
  have spells : standard.Spells cells.specifier :=
    ⟨["unsigned".toList, "int".toList], by decide, by decide, by decide⟩
  have name : standard.isName "cells".toList = true := by decide
  exact ⟨arrays, spells, name, reads_declaration_iff standard arrays spells (.inr name)⟩

end Prototyper.Declarator
