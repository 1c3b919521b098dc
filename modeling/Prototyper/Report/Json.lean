import Prototyper.Json.Pretty
import Prototyper.Report.Basic

/-!
# Reports as JSON

Every part of a report as a JSON value. A choice without content is a string, a choice with content
an object with one field, and what is absent is `null`.
-/

namespace Prototyper

/-- An identifier as its number. -/
def EntryId.toJson (id : EntryId) : Json :=
  .number id.offset.toNat

/-- The name of a tag in reports. -/
def Tag.label : Tag → String
  | compileUnit => "CompileUnit"
  | subprogram => "Subprogram"
  | formalParameter => "FormalParameter"
  | unspecifiedParameters => "UnspecifiedParameters"
  | pointerType => "PointerType"
  | constType => "ConstType"
  | volatileType => "VolatileType"
  | restrictType => "RestrictType"
  | baseType => "BaseType"
  | structureType => "StructureType"
  | unionType => "UnionType"
  | enumerationType => "EnumerationType"
  | arrayType => "ArrayType"
  | typedef => "Typedef"
  | subrangeType => "SubrangeType"
  | subroutineType => "SubroutineType"
  | inlinedSubroutine => "InlinedSubroutine"
  | dataVariable => "Variable"
  | member => "Member"
  | lexicalBlock => "LexicalBlock"
  | other _ => "Other"

/-- A tag by its name; a tag without a role by its code. -/
def Tag.toJson : Tag → Json
  | other code => .variant "Other" (.number code.toNat)
  | tag => .string tag.label

/-- The name of an attribute in reports. -/
def Attr.label : Attr → String
  | name => "Name"
  | type => "Type"
  | inline => "Inline"
  | upperBound => "UpperBound"
  | count => "Count"
  | declaration => "Declaration"
  | external => "External"
  | abstractOrigin => "AbstractOrigin"
  | specification => "Specification"
  | prototyped => "Prototyped"
  | declFile => "DeclFile"
  | declLine => "DeclLine"
  | byteSize => "ByteSize"
  | encoding => "Encoding"

/-- The name of a construct in reports. -/
def Construct.label : Construct → String
  | multiDimensionalArray => "MultiDimensionalArray"
  | arrayOfArrays => "ArrayOfArrays"
  | functionPointer => "FunctionPointer"

namespace Defect

/-- The name of a category in reports. -/
def Category.label : Category → String
  | decodeInconsistency => "DecodeInconsistency"
  | unsupportedConstruct => "UnsupportedConstruct"

/-- The name of a defect in reports. -/
def label : Defect → String
  | unknownEntry _ => "UnknownEntry"
  | unexpectedTag _ _ => "UnexpectedTag"
  | missingType _ => "MissingType"
  | unresolvedReference _ _ _ => "UnresolvedReference"
  | missingName _ => "MissingName"
  | malformedVariadic _ => "MalformedVariadic"
  | misplacedRestrict _ => "MisplacedRestrict"
  | referenceCycle _ => "ReferenceCycle"
  | unsupported _ _ => "UnsupportedConstruct"

/-- What a defect holds besides the entry at fault. -/
def details : Defect → List (String × Json)
  | unexpectedTag _ tag => [("tag", tag.toJson)]
  | unresolvedReference _ attr form => [("attr", .string attr.label), ("form", .string form)]
  | unsupported _ construct => [("construct", .string construct.label)]
  | _ => []

/-- A defect by its name, with the entry at fault and the details. -/
def toJson (d : Defect) : Json :=
  .variant d.label (.object (("id", d.entry.toJson) :: d.details))

end Defect

/-- The name of a qualifier in reports. -/
def Qualifier.label : Qualifier → String
  | const => "Const"
  | volatile => "Volatile"
  | restrict => "Restrict"

/-- The name of a kind of named types in reports. -/
def NamedKind.label : NamedKind → String
  | struct => "Struct"
  | union => "Union"
  | enum => "Enum"
  | typedef => "Typedef"

/-- A specifier as the innermost layer of a type. -/
def Specifier.toJson : Specifier → Json
  | void => .string "Void"
  | base name => .variant "Base" (.string name)
  | named type =>
    .variant "Named" (.object [
      ("kind", .string type.kind.label),
      ("id", type.id.toJson),
      ("name", .ofOption .string type.name)])

namespace CType

/-- One layer: its qualifiers and its content. -/
def layerJson (qs : List Qualifier) (kind : Json) : Json :=
  .object [("qualifiers", .list (qs.map fun q => .string q.label)), ("kind", kind)]

/-- A type, layer in layer. -/
def toJson : CType → Json
  | leaf qs spec => layerJson qs spec.toJson
  | pointer qs pointee => layerJson qs (.variant "Pointer" pointee.toJson)
  | array qs length element =>
    layerJson qs (.variant "Array" (.object [
      ("element", element.toJson),
      ("len", .ofOption (fun n => .number n.toNat) length)]))

end CType

/-- A parameter as JSON. -/
def Parameter.toJson (p : Parameter) : Json :=
  .object [("name", .ofOption .string p.name), ("ty", p.type.toJson)]

/-- The name of an inline state in reports. -/
def InlineState.label : InlineState → String
  | notInlined => "NotInlined"
  | inlined => "Inlined"
  | declaredNotInlined => "DeclaredNotInlined"
  | declaredInlined => "DeclaredInlined"

/-- A location as JSON. -/
def Location.toJson (l : Location) : Json :=
  .object [
    ("file", .ofOption (fun n => .number n.toNat) l.file),
    ("line", .ofOption (fun n => .number n.toNat) l.line)]

/-- A signature as JSON. -/
def Signature.toJson (sig : Signature) : Json :=
  .object [
    ("entry", sig.entry.toJson),
    ("name", .string sig.name),
    ("return_type", sig.returnType.toJson),
    ("parameters", .list (sig.parameters.map Parameter.toJson)),
    ("is_inline", .bool sig.isInline),
    ("is_variadic", .bool sig.isVariadic),
    ("is_declaration", .bool sig.isDeclaration),
    ("is_external", .bool sig.isExternal),
    ("inline_state", .ofOption (fun st => .string st.label) sig.inlineState),
    ("location", .ofOption Location.toJson sig.location)]

/-- A prototype as JSON. -/
def Prototype.toJson (p : Prototype) : Json :=
  .object [
    ("unit", .string p.unit),
    ("name", .string p.name),
    ("declaration", .string p.declaration),
    ("signature", p.signature.toJson)]

/-- A failure as JSON. -/
def Failure.toJson (f : Failure) : Json :=
  .object [
    ("unit", .string f.unit),
    ("entry", f.entry.toJson),
    ("name", .ofOption .string f.name),
    ("error", f.defect.toJson)]

namespace Report

/-- A report as JSON. -/
def toJson (r : Report) : Json :=
  .object [
    ("prototypes", .list (r.prototypes.map Prototype.toJson)),
    ("failures", .list (r.failures.map Failure.toJson))]

/-- The report as printed JSON. -/
def jsonText (r : Report) : String :=
  r.toJson.pretty

end Report

end Prototyper
