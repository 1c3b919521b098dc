import Prototyper.Proofs.Declaration.Distinction
import Prototyper.Signature.Prototype

/-!
# A prototype means its signature

A function is declared like any other name, with the parameter list as part of the declared text. The
parentheses of the list are found in the text again, and the commas cut it into its parts. Each part,
and what is left around the list, is a declaration of its own. So two prototypes are the same text
only if their signatures agree in all that is written (`text_eq_iff`).
-/

namespace Prototyper

/-- A parameter without the entries of its named types. -/
def Parameter.withoutEntries (p : Parameter) : Parameter :=
  { p with type := p.type.withoutEntries }

/-- Two signatures agree in all that a prototype shows. -/
structure Signature.Agrees (sig sig' : Signature) : Prop where
  isInline : sig.isInline = sig'.isInline
  name : sig.name = sig'.name
  isVariadic : sig.isVariadic = sig'.isVariadic
  returnType : sig.returnType.withoutEntries = sig'.returnType.withoutEntries
  parameters : sig.parameters.map Parameter.withoutEntries =
    sig'.parameters.map Parameter.withoutEntries

namespace Declarator

/-- A parameter is written in a vocabulary, with or without a name. -/
structure Vocabulary.WritesParameter (K : Vocabulary) (p : Parameter) : Prop where
  type : K.WritesType p.type
  name : ∀ name, p.name = some name → K.isIdentifier name.toList = true

/-- A signature is written in a vocabulary. No parameter is just `void`, which stands for an empty
list. -/
structure Vocabulary.WritesSignature (K : Vocabulary) (sig : Signature) : Prop where
  name : K.isIdentifier sig.name.toList = true
  returnType : K.WritesType sig.returnType
  parameters : ∀ p ∈ sig.parameters, K.WritesParameter p
  notVoid : ∀ p ∈ sig.parameters, p ≠ ⟨none, .void⟩

variable {K : Vocabulary}

/-! ## Tokens of a prototype -/

/-- The tokens of the dots that make a function variadic. -/
def dots : List Token :=
  [.mark '.', .mark '.', .mark '.']

/-- The tokens of a parameter. -/
def parameterTokens (p : Parameter) : List Token :=
  p.type.declareTokens (tokens (p.name.getD "").toList)

/-- The tokens of the parts of a parameter list. -/
def partTokens (sig : Signature) : List (List Token) :=
  sig.parameters.map parameterTokens ++ if sig.isVariadic then [dots] else []

/-- The tokens of what stands between the commas of a parameter list. -/
def listTokens (sig : Signature) : List (List Token) :=
  match partTokens sig with
  | [] => [[.word "void".toList]]
  | parts => parts

/-- The tokens in front of the declaration of a function that is declared `inline`. -/
def storageTokens (sig : Signature) : List Token :=
  if sig.isInline then [.word "static".toList, .word "inline".toList] else []

/-- The parts of a list of parameters are the parameters and the dots. -/
lemma mem_partTokens_iff {sig : Signature} {ts : List Token} : ts ∈ partTokens sig ↔
    (∃ p ∈ sig.parameters, parameterTokens p = ts) ∨ (sig.isVariadic = true ∧ ts = dots) := by
  rw [partTokens, List.mem_append, List.mem_map]
  cases sig.isVariadic <;> simp

/-- Commas separate the tokens of texts. -/
lemma tokens_commaSeparated (texts : List (List Char)) :
    tokens (commaSeparated texts) = [.mark ','].intercalate (texts.map tokens) := by
  induction texts with
  | nil => rfl
  | cons text rest ih =>
    cases rest with
    | nil => simp [commaSeparated]
    | cons text' rest =>
      have apart : Apart text (',' :: ' ' :: commaSeparated (text' :: rest)) :=
        apart_cons (by decide) _ _
      have e : commaSeparated (text :: text' :: rest) =
          text ++ ',' :: ' ' :: commaSeparated (text' :: rest) := by
        simp [commaSeparated]
      rw [e, tokens_append apart, tokens_mark (by decide) (by decide), tokens_blank, ih]
      simp [List.intercalate_cons_cons]

/-- The texts of parameters have the tokens of the parts. -/
lemma map_tokens_parameterTexts (sig : Signature) :
    sig.parameterTexts.map tokens = partTokens sig := by
  have parameter : ∀ p : Parameter, tokens p.declare = parameterTokens p := fun p =>
    CType.tokens_declare p.type _
  have three : tokens ['.', '.', '.'] = dots := by decide
  unfold Signature.parameterTexts partTokens
  rw [List.map_append, List.map_map]
  congr 1
  · exact List.map_congr_left fun p _ => parameter p
  · split
    · rw [List.map_singleton, three]
    · rfl

/-- A list of parameters has the tokens of its parts, with commas between them. -/
lemma tokens_parameterList (sig : Signature) :
    tokens sig.parameterList = [.mark ','].intercalate (listTokens sig) := by
  have parts := map_tokens_parameterTexts sig
  unfold Signature.parameterList listTokens
  cases texts : sig.parameterTexts with
  | nil =>
    rw [texts] at parts
    rw [← parts]
    decide
  | cons text rest =>
    rw [texts] at parts
    rw [← parts]
    exact tokens_commaSeparated (text :: rest)

/-- A prototype declares its name with the parameter list behind it. -/
lemma tokens_prototype {sig : Signature} (hname : K.isName sig.name.toList = true) :
    tokens sig.declare = storageTokens sig ++
      sig.returnType.declareTokens (.word sig.name.toList :: .mark '(' ::
        [.mark ','].intercalate (listTokens sig) ++ [.mark ')']) ++ [.mark ';'] := by
  have inner : tokens (sig.name.toList ++ '(' :: sig.parameterList ++ [')']) =
      .word sig.name.toList :: .mark '(' ::
        [.mark ','].intercalate (listTokens sig) ++ [.mark ')'] := by
    rw [tokens_append (apart_cons (by decide) _ _), tokens_append (apart_cons (by decide) _ _),
      tokens_of_isWord (K.isName_iff.1 hname).1, tokens_mark (by decide) (by decide),
      tokens_parameterList]
    rfl
  have front : ∀ text, tokens ((if sig.isInline then "static inline ".toList else []) ++ text) =
      storageTokens sig ++ tokens text := by
    intro text
    unfold storageTokens
    split
    · have e : "static inline ".toList ++ text =
          "static".toList ++ ' ' :: ("inline".toList ++ ' ' :: text) := rfl
      rw [e, tokens_append (apart_cons (by decide) _ _), tokens_blank,
        tokens_append (apart_cons (by decide) _ _), tokens_blank]
      rfl
    · rfl
  unfold Signature.declare
  rw [tokens_append (apart_cons (by decide) _ _), front, CType.tokens_declare, inner]
  rfl

/-! ## Parts of the list -/

/-- A parameter that can be written has a name of C for a name, or no name. -/
lemma Vocabulary.WritesParameter.isName {p : Parameter} (h : K.WritesParameter p) :
    p.name.getD "" = "" ∨ K.isName (p.name.getD "").toList = true := by
  cases named : p.name with
  | none => exact .inl rfl
  | some name => exact .inr (K.isIdentifier_iff.1 (h.name name named)).1

/-- Parameters are told apart by their tokens. -/
lemma eq_of_parameterTokens {p p' : Parameter} (h : K.WritesParameter p)
    (h' : K.WritesParameter p') (e : parameterTokens p = parameterTokens p') :
    p.withoutEntries = p'.withoutEntries := by
  have nonempty : ∀ {p : Parameter}, K.WritesParameter p → p.name ≠ some "" := by
    intro p h empty
    have word := (K.isIdentifier_iff.1 (h.name "" empty)).1
    exact absurd (K.isName_iff.1 word).1 (by decide)
  obtain ⟨names, types⟩ := eq_of_declareTokens h.type h'.type h.isName h'.isName e
  have same : p.name = p'.name := by
    cases name : p.name with
    | none =>
      cases name' : p'.name with
      | none => rfl
      | some n' =>
        rw [name, name'] at names
        exact absurd (name'.trans (congrArg some names.symm)) (nonempty h')
    | some n =>
      cases name' : p'.name with
      | none =>
        rw [name, name'] at names
        exact absurd (name.trans (congrArg some names)) (nonempty h)
      | some n' =>
        rw [name, name'] at names
        exact congrArg some names
  rw [Parameter.withoutEntries, Parameter.withoutEntries, same, types]

/-- Only a parameter that is just `void` is written so. -/
lemma parameterTokens_ne_void {p : Parameter} (h : K.WritesParameter p) (notVoid : p ≠ ⟨none, .void⟩) :
    parameterTokens p ≠ [.word "void".toList] := by
  intro e
  have void : K.WritesParameter ⟨none, .void⟩ := ⟨⟨trivial, trivial⟩, nofun⟩
  have same := eq_of_parameterTokens h void e
  obtain ⟨name, type⟩ := p
  obtain ⟨rfl, types⟩ := Parameter.mk.inj same
  refine notVoid (congrArg (Parameter.mk none) ?_)
  match type with
  | .leaf _ .void => exact types
  | .leaf _ (.base _) => cases types
  | .leaf _ (.named _) => cases types
  | .pointer _ _ => cases types
  | .array _ _ _ => cases types

/-- Tokens that may stand between the commas of a parameter list. -/
structure IsPart (ts : List Token) : Prop where
  balanced : Balanced ts
  noComma : .mark ',' ∉ ts
  head : ∃ first rest, ts = first :: rest ∧ first ≠ .mark '*'

/-- A parameter is a part of its own, and is not the dots. -/
lemma isPart_parameterTokens (storage : K.isKeyword "static".toList = false) {p : Parameter}
    (h : K.WritesParameter p) : IsPart (parameterTokens p) ∧ parameterTokens p ≠ dots := by
  have spells := h.type.specifier.spells
  have word : ∀ c, .mark c ∉ tokens (p.name.getD "").toList := by
    intro c mem
    obtain empty | name := h.isName
    · rw [empty] at mem
      cases mem
    · rw [tokens_of_isWord (K.isName_iff.1 name).1] at mem
      simp at mem
  obtain ⟨first, rest, start, noStar, noDot, -⟩ := head_specifierTokens storage h.type
  have split : parameterTokens p = first :: (rest ++ p.type.opening ++
      tokens (p.name.getD "").toList ++ p.type.closing) := by
    rw [parameterTokens, CType.declareTokens_eq, start]
    rfl
  refine ⟨⟨?_, fun comma => ?_, first, _, split, noStar⟩, fun e => ?_⟩
  · exact balanced_declareTokens spells (balanced_of_notMem (word '(') (word ')'))
  · obtain marks | inner := mark_mem_declareTokens spells comma
    · exact absurd marks (by decide)
    · exact word ',' inner
  · rw [split] at e
    exact noDot (List.cons.inj e).1

/-- Lists with the same images under one function have them under each that it determines. -/
lemma map_eq_of_mem {α β γ : Type} {f : α → β} {g : α → γ} {as as' : List α}
    (h : ∀ a ∈ as, ∀ a' ∈ as', f a = f a' → g a = g a') (e : as.map f = as'.map f) :
    as.map g = as'.map g := by
  induction as generalizing as' with
  | nil =>
    cases as' with
    | nil => rfl
    | cons => cases e
  | cons a as ih =>
    cases as' with
    | nil => cases e
    | cons a' as' =>
      obtain ⟨first, rest⟩ := List.cons.inj e
      have same := h a List.mem_cons_self a' List.mem_cons_self first
      rw [List.map_cons, List.map_cons, same, ih (fun b hb b' hb' =>
        h b (List.mem_cons_of_mem a hb) b' (List.mem_cons_of_mem a' hb')) rest]

variable {sig sig' : Signature}

/-- What stands in a list of parameters may stand between commas. -/
lemma isPart_of_mem_listTokens (storage : K.isKeyword "static".toList = false)
    (h : K.WritesSignature sig) {ts : List Token} (mem : ts ∈ listTokens sig) : IsPart ts := by
  have plain : ∀ {t : Token} {ts : List Token}, .mark '(' ∉ t :: ts → .mark ')' ∉ t :: ts →
      .mark ',' ∉ t :: ts → t ≠ .mark '*' → IsPart (t :: ts) :=
    fun opening closing comma star => ⟨balanced_of_notMem opening closing, comma, _, _, rfl, star⟩
  have part : ∀ ts ∈ partTokens sig, IsPart ts := by
    intro ts mem
    obtain ⟨p, hp, rfl⟩ | ⟨-, rfl⟩ := mem_partTokens_iff.1 mem
    · exact (isPart_parameterTokens storage (h.parameters p hp)).1
    · exact plain (by decide) (by decide) (by decide) (by decide)
  unfold listTokens at mem
  split at mem
  · obtain rfl := List.mem_singleton.1 mem
    exact plain (by decide) (by decide) (by decide) (by decide)
  · exact part ts mem

/-- Something stands in each list of parameters. -/
lemma listTokens_ne_nil (sig : Signature) : listTokens sig ≠ [] := by
  unfold listTokens
  split
  case h_1 => exact List.cons_ne_nil _ _
  case h_2 some => exact some

/-- The parts of a list can be told from what stands in it. -/
lemma partTokens_eq_of_listTokens (h : K.WritesSignature sig) (h' : K.WritesSignature sig')
    (e : listTokens sig = listTokens sig') : partTokens sig = partTokens sig' := by
  have noVoid : ∀ {sig : Signature}, K.WritesSignature sig →
      partTokens sig ≠ [[.word "void".toList]] := by
    intro sig h e
    have mem : [.word "void".toList] ∈ partTokens sig := e ▸ List.mem_singleton_self _
    obtain ⟨p, hp, same⟩ | ⟨-, same⟩ := mem_partTokens_iff.1 mem
    · exact parameterTokens_ne_void (h.parameters p hp) (h.notVoid p hp) same
    · exact absurd same (by decide)
  unfold listTokens at e
  split at e
  case h_1 none =>
    split at e
    case h_1 none' => rw [none, none']
    case h_2 => exact absurd e.symm (noVoid h')
  case h_2 =>
    split at e
    case h_1 => exact absurd e (noVoid h)
    case h_2 => exact e

/-- Parameter lists are told apart by their parts. -/
lemma eq_of_partTokens (storage : K.isKeyword "static".toList = false) (h : K.WritesSignature sig)
    (h' : K.WritesSignature sig') (e : partTokens sig = partTokens sig') :
    sig.isVariadic = sig'.isVariadic ∧ sig.parameters.map Parameter.withoutEntries =
      sig'.parameters.map Parameter.withoutEntries := by
  have variadic : ∀ {sig : Signature}, K.WritesSignature sig →
      (dots ∈ partTokens sig ↔ sig.isVariadic = true) := by
    intro sig h
    rw [mem_partTokens_iff, or_iff_right, and_iff_left rfl]
    rintro ⟨p, hp, same⟩
    exact (isPart_parameterTokens storage (h.parameters p hp)).2 same
  have same : sig.isVariadic = sig'.isVariadic := by
    rw [Bool.eq_iff_iff, ← variadic h, ← variadic h', e]
  refine ⟨same, ?_⟩
  unfold partTokens at e
  rw [same, List.append_cancel_right_eq] at e
  exact map_eq_of_mem (fun p hp p' hp' =>
    eq_of_parameterTokens (h.parameters p hp) (h'.parameters p' hp')) e

/-! ## The list in its prototype -/

/-- Parts with commas between them are balanced, and begin as the first one does. -/
lemma intercalate_parts {parts : List (List Token)} (ne : parts ≠ [])
    (h : ∀ ts ∈ parts, IsPart ts) : Balanced ([.mark ','].intercalate parts) ∧
      ∃ first rest, [.mark ','].intercalate parts = first :: rest ∧ first ≠ .mark '*' := by
  induction parts with
  | nil => exact absurd rfl ne
  | cons ts parts ih =>
    have part := h ts List.mem_cons_self
    cases parts with
    | nil =>
      rw [List.intercalate_singleton]
      exact ⟨part.balanced, part.head⟩
    | cons ts' parts =>
      obtain ⟨balanced, -⟩ := ih (List.cons_ne_nil _ _) fun v hv => h v (List.mem_cons_of_mem ts hv)
      have comma : Balanced [.mark ','] := balanced_of_notMem (by decide) (by decide)
      obtain ⟨first, rest, rfl, noStar⟩ := part.head
      rw [List.intercalate_cons_cons]
      exact ⟨(part.balanced.append comma).append balanced, first, _, rfl, noStar⟩

/-- The parameter list can be cut out of the tokens of a declaration: what is left in front of it and
behind it is the declaration of the name. -/
lemma eq_of_declaredList {t t' : CType} {name name' : String} {list list' : List Token}
    (h : K.WritesType t) (h' : K.WritesType t') (balanced : Balanced list)
    (balanced' : Balanced list') (start : ∃ first rest, list = first :: rest ∧ first ≠ .mark '*')
    (start' : ∃ first rest, list' = first :: rest ∧ first ≠ .mark '*')
    (e : t.declareTokens (.word name.toList :: .mark '(' :: list ++ [.mark ')']) =
      t'.declareTokens (.word name'.toList :: .mark '(' :: list' ++ [.mark ')'])) :
    list = list' ∧
      t.declareTokens [.word name.toList] = t'.declareTokens [.word name'.toList] := by
  have cut : ∀ (t : CType) (name : String) (list : List Token),
      t.declareTokens (.word name.toList :: .mark '(' :: list ++ [.mark ')']) =
        (t.specifierTokens ++ t.opening ++ [.word name.toList]) ++
          .mark '(' :: (list ++ .mark ')' :: t.closing) := by
    intro t name list
    rw [CType.declareTokens_eq]
    simp
  have grouped : ∀ {t : CType} {name : String}, K.WritesType t →
      Grouped (t.specifierTokens ++ t.opening ++ [.word name.toList]) := by
    intro t name h
    have specifier : Grouped t.specifierTokens :=
      grouped_of_notMem (mark_notMem_specifierTokens h.specifier.spells (by decide))
    exact (specifier.append (grouped_opening t)).append (grouped_of_notMem (by simp))
  rw [cut, cut] at e
  obtain ⟨first, rest, rfl, noStar⟩ := start
  obtain ⟨first', rest', rfl, noStar'⟩ := start'
  obtain ⟨front, behind⟩ := (grouped h).unique (grouped h') (by simpa using noStar)
    (by simpa using noStar') e
  obtain ⟨lists, closing⟩ := balanced.unique balanced' behind
  refine ⟨lists, ?_⟩
  rw [CType.declareTokens_eq, CType.declareTokens_eq, front, closing]

/-- Whether a function is declared `inline` shows in the first token. -/
lemma storage_of_tokens (storage : K.isKeyword "static".toList = false) {t t' : CType}
    {inner inner' : List Token} (h : K.WritesType t) (h' : K.WritesType t')
    (e : storageTokens sig ++ t.declareTokens inner =
      storageTokens sig' ++ t'.declareTokens inner') :
    sig.isInline = sig'.isInline ∧ t.declareTokens inner = t'.declareTokens inner' := by
  have noStatic : ∀ {t : CType} {inner rest : List Token}, K.WritesType t →
      t.declareTokens inner ≠ .word "static".toList :: rest := by
    intro t inner rest h e
    obtain ⟨first, rest', start, -, -, noStatic⟩ := head_specifierTokens storage h
    rw [CType.declareTokens_eq, start] at e
    exact noStatic (List.cons.inj e).1
  unfold storageTokens at e
  cases inline : sig.isInline with
  | true =>
    cases inline' : sig'.isInline with
    | true =>
      rw [inline, inline'] at e
      exact ⟨rfl, List.append_cancel_left e⟩
    | false =>
      rw [inline, inline'] at e
      exact absurd e.symm (noStatic h')
  | false =>
    cases inline' : sig'.isInline with
    | true =>
      rw [inline, inline'] at e
      exact absurd e (noStatic h)
    | false =>
      rw [inline, inline'] at e
      exact ⟨rfl, e⟩

/-- Signatures with the same tokens agree. -/
lemma agrees_of_tokens (storage : K.isKeyword "static".toList = false) (h : K.WritesSignature sig)
    (h' : K.WritesSignature sig') (e : tokens sig.declare = tokens sig'.declare) :
    sig.Agrees sig' := by
  have name := (K.isIdentifier_iff.1 h.name).1
  have name' := (K.isIdentifier_iff.1 h'.name).1
  rw [tokens_prototype name, tokens_prototype name', List.append_cancel_right_eq] at e
  obtain ⟨inline, declared⟩ := storage_of_tokens storage h.returnType h'.returnType e
  have parts : ∀ ts ∈ listTokens sig, IsPart ts := fun _ => isPart_of_mem_listTokens storage h
  have parts' : ∀ ts ∈ listTokens sig', IsPart ts := fun _ => isPart_of_mem_listTokens storage h'
  obtain ⟨balanced, start⟩ := intercalate_parts (listTokens_ne_nil sig) parts
  obtain ⟨balanced', start'⟩ := intercalate_parts (listTokens_ne_nil sig') parts'
  obtain ⟨lists, functions⟩ :=
    eq_of_declaredList h.returnType h'.returnType balanced balanced' start start' declared
  rw [← tokens_of_isWord (K.isName_iff.1 name).1, ← tokens_of_isWord (K.isName_iff.1 name').1]
    at functions
  obtain ⟨names, types⟩ :=
    eq_of_declareTokens h.returnType h'.returnType (.inr name) (.inr name') functions
  -- the list falls into its parts at the commas
  have pieces : listTokens sig = listTokens sig' := by
    have split := congrArg (List.splitOn (.mark ',')) lists
    rwa [List.splitOn_intercalate _ (fun ts mem => (parts ts mem).noComma) (listTokens_ne_nil sig),
      List.splitOn_intercalate _ (fun ts mem => (parts' ts mem).noComma) (listTokens_ne_nil sig')]
      at split
  obtain ⟨variadic, parameters⟩ :=
    eq_of_partTokens storage h h' (partTokens_eq_of_listTokens h h' pieces)
  exact ⟨inline, names, variadic, types, parameters⟩

/-- Signatures that agree are declared in the same way, since entries are not written. -/
lemma declare_of_agrees (h : sig.Agrees sig') : sig.declare = sig'.declare := by
  have types : ∀ {t t' : CType}, t.withoutEntries = t'.withoutEntries → t.declare = t'.declare :=
    fun {t t'} same => funext fun inner => by
      rw [← t.declare_withoutEntries, ← t'.declare_withoutEntries, same]
  have parameters : sig.parameters.map Parameter.declare = sig'.parameters.map Parameter.declare := by
    refine map_eq_of_mem (fun p _ p' _ same => ?_) h.parameters
    obtain ⟨names, same'⟩ := Parameter.mk.inj same
    rw [Parameter.declare, Parameter.declare, names, types same']
  have lists : sig.parameterList = sig'.parameterList := by
    unfold Signature.parameterList Signature.parameterTexts
    rw [parameters, h.isVariadic]
  rw [Signature.declare, Signature.declare, h.isInline, h.name, lists, types h.returnType]

/-- Two prototypes are the same text exactly if their signatures agree in all that a prototype shows:
in being declared `inline`, in the name, in the type that is returned, and in the parameter list. -/
theorem text_eq_iff (K : Vocabulary) (storage : K.isKeyword "static".toList = false)
    {sig sig' : Signature} (h : K.WritesSignature sig) (h' : K.WritesSignature sig') :
    sig.text = sig'.text ↔ sig.Agrees sig' := by
  constructor
  · intro same
    have texts : sig.declare = sig'.declare := String.ofList_injective same
    exact agrees_of_tokens storage h h' (congrArg tokens texts)
  · exact fun agrees => congrArg String.ofList (declare_of_agrees agrees)

/-- A function `static inline int (*rows(const struct grid*, size_t n, ...))[3]`. -/
def rowsSignature (grid : EntryId) : Signature where
  entry := ⟨0x10⟩
  name := "rows"
  returnType := .pointer [] (.array [] (some 3) (.leaf [] (.base "int")))
  parameters :=
    [⟨none, .pointer [] (.leaf [.const] (.named ⟨.struct, grid, some "grid"⟩))⟩,
     ⟨some "n", .leaf [] (.named ⟨.typedef, ⟨0x30⟩, some "size_t"⟩)⟩]
  isInline := true
  isVariadic := true
  isDeclaration := false
  isExternal := false
  inlineState := none
  location := none

example : (rowsSignature ⟨0x20⟩).text =
    "static inline int (*rows(const struct grid*, size_t n, ...))[3];" := by decide

/-- The prototype of `rows` does not tell which entry `grid` is. -/
theorem text_eq_iff_rows :
    standard.isKeyword "static".toList = false ∧
    standard.WritesSignature (rowsSignature ⟨0x20⟩) ∧
    standard.WritesSignature (rowsSignature ⟨0x28⟩) ∧
    (rowsSignature ⟨0x20⟩).text = (rowsSignature ⟨0x28⟩).text ∧
    (rowsSignature ⟨0x20⟩).Agrees (rowsSignature ⟨0x28⟩) := by
  have storage : standard.isKeyword "static".toList = false := by decide
  have int : standard.Writes (.base "int") :=
    ⟨by decide, ["int".toList], by decide, by decide, by decide⟩
  have identifiers : standard.isIdentifier "rows".toList = true ∧
      standard.isIdentifier "grid".toList = true ∧ standard.isIdentifier "n".toList = true ∧
      standard.isIdentifier "size_t".toList = true := by
    decide
  obtain ⟨rows, grid, n, size⟩ := identifiers
  have written : ∀ id, standard.WritesSignature (rowsSignature id) := by
    intro id
    have first : standard.WritesParameter
        ⟨none, .pointer [] (.leaf [.const] (.named ⟨.struct, id, some "grid"⟩))⟩ := by
      refine ⟨⟨trivial, ?_⟩, nofun⟩
      rintro _ ⟨⟩
      exact grid
    have second : standard.WritesParameter
        ⟨some "n", .leaf [] (.named ⟨.typedef, ⟨0x30⟩, some "size_t"⟩)⟩ := by
      refine ⟨⟨trivial, ?_⟩, ?_⟩
      · rintro _ ⟨⟩
        exact size
      · rintro _ ⟨⟩
        exact n
    refine ⟨rows, ⟨⟨rfl, trivial⟩, int⟩, ?_, ?_⟩
    · exact List.forall_mem_cons.2 ⟨first, List.forall_mem_singleton.2 second⟩
    · exact List.forall_mem_cons.2 ⟨nofun, List.forall_mem_singleton.2 nofun⟩
  have same : (rowsSignature ⟨0x20⟩).text = (rowsSignature ⟨0x28⟩).text := by decide
  exact ⟨storage, written _, written _, same,
    (text_eq_iff standard storage (written _) (written _)).1 same⟩

end Declarator

end Prototyper
