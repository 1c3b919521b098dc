import Mathlib.Data.List.Nodup
import Prototyper.Proofs.Report.Printed
import Prototyper.Report.Json

/-!
# Nothing of a report is lost in its JSON form

Each part of a report is known from its JSON value. Choices have labels that differ, fields stand in
a fixed order, and `null` stands for what is absent only where nothing that is present is `null`.
Together with the printed form, of which there is one for each value, this makes reports with the
same text the same (`jsonText_eq_iff`).
-/

namespace Prototyper

open Function (Injective)

namespace Json

/-- Strings differ where their texts do. -/
lemma string_injective : Injective string := fun _ _ h => Json.string.inj h

/-- An absent value is not confused with one that is present. -/
lemma ofOption_injective {α : Type} {toJson : α → Json} (h : Injective toJson)
    (present : ∀ a, toJson a ≠ null) : Injective (ofOption toJson) := by
  intro a a' same
  cases a with
  | none =>
    cases a' with
    | none => rfl
    | some a' => exact absurd same.symm (present a')
  | some a =>
    cases a' with
    | none => exact absurd same (present a)
    | some a' => exact congrArg some (h same)

/-- Lists differ where their members do. -/
lemma list_map_injective {α : Type} {toJson : α → Json} (h : Injective toJson) :
    Injective fun as : List α => list (as.map toJson) :=
  fun _ _ same => List.map_injective_iff.2 h (Json.list.inj same)

/-- A string is not the missing value. -/
lemma string_ne_null (s : String) : string s ≠ null := by
  intro h
  cases h

/-- Variants are the same where their labels and contents are. -/
lemma variant_inj {label label' : String} {content content' : Json} :
    variant label content = variant label' content' ↔ label = label' ∧ content = content' := by
  simp [variant]

/-- Numbers of 64 bits differ in what is written for them. -/
lemma uint64_injective : Injective fun n : UInt64 => number n.toNat :=
  fun _ _ h => UInt64.toNat_inj.1 (Json.number.inj h)

end Json

open Json

/-! ## Labels -/

/-- Labels that differ on a list of all choices tell choices apart. -/
lemma injective_of_labels {α : Type} {label : α → String} (all : List α) (mem : ∀ a, a ∈ all)
    (distinct : (all.map label).Nodup) : Injective label :=
  fun a b same => List.inj_on_of_nodup_map distinct (mem a) (mem b) same

/-- Attributes have different labels. -/
lemma Attr.label_injective : Injective Attr.label :=
  injective_of_labels Attr.all Attr.mem_all (by decide)

/-- Constructs have different labels. -/
lemma Construct.label_injective : Injective Construct.label :=
  injective_of_labels [.multiDimensionalArray, .arrayOfArrays, .functionPointer]
    (fun c => by cases c <;> decide) (by decide)

/-- Qualifiers have different labels. -/
lemma Qualifier.label_injective : Injective Qualifier.label :=
  injective_of_labels [.const, .volatile, .restrict] (fun q => by cases q <;> decide) (by decide)

/-- Kinds of named types have different labels. -/
lemma NamedKind.label_injective : Injective NamedKind.label :=
  injective_of_labels [.struct, .union, .enum, .typedef] (fun k => by cases k <;> decide)
    (by decide)

/-- Inline states have different labels. -/
lemma InlineState.label_injective : Injective InlineState.label :=
  injective_of_labels [.notInlined, .inlined, .declaredNotInlined, .declaredInlined]
    (fun st => by cases st <;> decide) (by decide)

/-! ## Parts of a report -/

/-- What is written for an identifier tells its offset. -/
lemma EntryId.toJson_injective : Injective EntryId.toJson := by
  rintro ⟨n⟩ ⟨n'⟩ h
  exact congrArg EntryId.mk (uint64_injective h)

/-- The tags that have a name of their own. -/
def Tag.named : List Tag :=
  Tag.codes.map Prod.snd

/-- A tag has a name of its own or is given by its code. -/
lemma Tag.mem_named_or_other (tag : Tag) : tag ∈ named ∨ ∃ code, tag = .other code := by
  cases tag with
  | other code => exact .inr ⟨code, rfl⟩
  | _ => exact .inl (by decide)

/-- A tag with a name is written as its name. -/
lemma Tag.toJson_of_mem_named {tag : Tag} (h : tag ∈ named) : tag.toJson = .string tag.label := by
  cases tag with
  | other code => exact absurd h (by simp [named, codes])
  | _ => rfl

/-- A tag with a name of its own is a string, and any other one an object. -/
lemma Tag.toJson_injective : Injective Tag.toJson := by
  intro tag tag' h
  rcases tag.mem_named_or_other with mem | ⟨code, rfl⟩ <;>
    rcases tag'.mem_named_or_other with mem' | ⟨code', rfl⟩
  · rw [toJson_of_mem_named mem, toJson_of_mem_named mem'] at h
    have distinct : (named.map label).Nodup := by decide
    exact List.inj_on_of_nodup_map distinct mem mem' (Json.string.inj h)
  · rw [toJson_of_mem_named mem] at h
    cases h
  · rw [toJson_of_mem_named mem'] at h
    cases h
  · simp only [toJson, variant, Json.object.injEq, List.cons.injEq, Prod.mk.injEq,
      Json.number.injEq, true_and, and_true] at h
    rw [UInt16.toNat_inj.1 h]

/-- What is written for a defect tells its kind and all that it names. -/
lemma Defect.toJson_injective : Injective Defect.toJson := by
  intro d d' h
  obtain ⟨labels, content⟩ := variant_inj.1 h
  simp only [Json.object.injEq, List.cons.injEq, Prod.mk.injEq, true_and] at content
  obtain ⟨ids, details⟩ := content
  have same := EntryId.toJson_injective ids
  -- no case is left for defects with different names
  cases d <;> cases d' <;> simp only [label, String.reduceEq] at labels <;>
    simp only [entry] at same <;> subst same <;>
    simp only [Defect.details, List.cons.injEq, Prod.mk.injEq, true_and, and_true,
      Json.string.injEq] at details
  case unexpectedTag.unexpectedTag => rw [Tag.toJson_injective details]
  case unresolvedReference.unresolvedReference =>
    rw [Attr.label_injective details.1, details.2]
  case unsupported.unsupported => rw [Construct.label_injective details]
  all_goals rfl

/-- What is written for a named type tells its kind, its entry and its name. -/
lemma named_toJson_injective : Injective fun t : NamedType => (Specifier.named t).toJson := by
  rintro ⟨kind, id, name⟩ ⟨kind', id', name'⟩ h
  have content := (variant_inj.1 h).2
  simp only [Json.object.injEq, List.cons.injEq, Prod.mk.injEq, Json.string.injEq, true_and,
    and_true] at content
  obtain ⟨kinds, ids, names⟩ := content
  cases NamedKind.label_injective kinds
  cases EntryId.toJson_injective ids
  cases ofOption_injective string_injective string_ne_null names
  rfl

/-- What is written for a specifier tells the specifier. -/
lemma Specifier.toJson_injective : Injective Specifier.toJson := by
  intro spec spec' h
  cases spec <;> cases spec'
  case void.void => rfl
  case base.base => rw [Json.string.inj (variant_inj.1 h).2]
  case named.named => rw [named_toJson_injective h]
  case base.named | named.base => exact absurd (variant_inj.1 h).1 (by decide)
  -- the absent type is a string, the others are objects
  all_goals cases h

namespace CType

/-- What is written for a layer tells its qualifiers and what it is a layer of. -/
lemma layerJson_inj {qs qs' : List Qualifier} {kind kind' : Json}
    (h : layerJson qs kind = layerJson qs' kind') : qs = qs' ∧ kind = kind' := by
  simp only [layerJson, Json.object.injEq, List.cons.injEq, Prod.mk.injEq, true_and, and_true] at h
  exact ⟨list_map_injective (string_injective.comp Qualifier.label_injective) h.1, h.2⟩

/-- A specifier is not confused with a pointer or an array. -/
lemma toJson_ne_layer (spec : Specifier) {label : String} (layer : label ∈ ["Pointer", "Array"])
    (content : Json) : spec.toJson ≠ .variant label content := by
  simp only [List.mem_cons, List.not_mem_nil, or_false] at layer
  rcases layer with rfl | rfl <;> cases spec <;> simp [Specifier.toJson, variant]

/-- What is written for a type tells each of its layers. -/
lemma toJson_injective : Injective toJson := by
  intro t t' h
  induction t generalizing t' with
  | leaf qs spec =>
    cases t' with
    | leaf qs' spec' =>
      obtain ⟨rfl, kinds⟩ := layerJson_inj h
      rw [Specifier.toJson_injective kinds]
    | pointer | array => exact absurd (layerJson_inj h).2 (toJson_ne_layer spec (by simp) _)
  | pointer qs pointee ih =>
    cases t' with
    | leaf qs' spec' =>
      exact absurd (layerJson_inj h).2.symm (toJson_ne_layer spec' (by simp) _)
    | pointer qs' pointee' =>
      obtain ⟨rfl, kinds⟩ := layerJson_inj h
      rw [ih (variant_inj.1 kinds).2]
    | array => exact absurd (variant_inj.1 (layerJson_inj h).2).1 (by decide)
  | array qs length element ih =>
    cases t' with
    | leaf qs' spec' =>
      exact absurd (layerJson_inj h).2.symm (toJson_ne_layer spec' (by simp) _)
    | pointer => exact absurd (variant_inj.1 (layerJson_inj h).2).1 (by decide)
    | array qs' length' element' =>
      obtain ⟨rfl, kinds⟩ := layerJson_inj h
      have content := (variant_inj.1 kinds).2
      simp only [Json.object.injEq, List.cons.injEq, Prod.mk.injEq, true_and, and_true] at content
      rw [ih content.1, ofOption_injective uint64_injective (by simp) content.2]

end CType

/-- What is written for a parameter tells its name and its type. -/
lemma Parameter.toJson_injective : Injective Parameter.toJson := by
  rintro ⟨name, type⟩ ⟨name', type'⟩ h
  simp only [toJson, Json.object.injEq, List.cons.injEq, Prod.mk.injEq, true_and, and_true] at h
  rw [ofOption_injective string_injective string_ne_null h.1, CType.toJson_injective h.2]

/-- What is written for a location tells its file and its line. -/
lemma Location.toJson_injective : Injective Location.toJson := by
  rintro ⟨file, line⟩ ⟨file', line'⟩ h
  simp only [toJson, Json.object.injEq, List.cons.injEq, Prod.mk.injEq, true_and, and_true] at h
  rw [ofOption_injective uint64_injective (by simp) h.1,
    ofOption_injective uint64_injective (by simp) h.2]

/-- What is written for a signature tells each of its fields. -/
lemma Signature.toJson_injective : Injective Signature.toJson := by
  rintro ⟨⟩ ⟨⟩ h
  simp only [toJson, Json.object.injEq, List.cons.injEq, Prod.mk.injEq, true_and, and_true,
    Json.string.injEq, Json.bool.injEq] at h
  obtain ⟨entry, name, returnType, parameters, inl, variadic, declaration, external, state,
    location⟩ := h
  have states := string_injective.comp InlineState.label_injective
  simp only [Signature.mk.injEq]
  exact ⟨EntryId.toJson_injective entry, name, CType.toJson_injective returnType,
    list_map_injective Parameter.toJson_injective parameters, inl, variadic, declaration, external,
    ofOption_injective states (fun st => string_ne_null _) state,
    ofOption_injective Location.toJson_injective (by simp [Location.toJson]) location⟩

/-- What is written for a prototype tells each of its fields. -/
lemma Prototype.toJson_injective : Injective Prototype.toJson := by
  rintro ⟨⟩ ⟨⟩ h
  simp only [toJson, Json.object.injEq, List.cons.injEq, Prod.mk.injEq, true_and, and_true,
    Json.string.injEq] at h
  simp only [Prototype.mk.injEq]
  exact ⟨h.1, h.2.1, h.2.2.1, Signature.toJson_injective h.2.2.2⟩

/-- What is written for a failure tells each of its fields. -/
lemma Failure.toJson_injective : Injective Failure.toJson := by
  rintro ⟨⟩ ⟨⟩ h
  simp only [toJson, Json.object.injEq, List.cons.injEq, Prod.mk.injEq, true_and, and_true,
    Json.string.injEq] at h
  simp only [Failure.mk.injEq]
  exact ⟨h.1, EntryId.toJson_injective h.2.1,
    ofOption_injective string_injective string_ne_null h.2.2.1, Defect.toJson_injective h.2.2.2⟩

namespace Report

/-- What is written for a report tells its prototypes and its failures. -/
lemma toJson_injective : Injective toJson := by
  rintro ⟨prototypes, failures⟩ ⟨prototypes', failures'⟩ h
  simp only [toJson, Json.object.injEq, List.cons.injEq, Prod.mk.injEq, true_and, and_true] at h
  rw [list_map_injective Prototype.toJson_injective h.1,
    list_map_injective Failure.toJson_injective h.2]

/-- Reports have the same JSON text exactly if they are the same: the same prototypes and the same
failures in the same order, each with all that is known of it. -/
theorem jsonText_eq_iff (r r' : Report) : r.jsonText = r'.jsonText ↔ r = r' :=
  ⟨fun h => toJson_injective (pretty_injective h), fun h => congrArg jsonText h⟩

end Report

end Prototyper
