import Prototyper.CType.Resolution
import Prototyper.Signature.Basic
import Prototyper.Signature.Origin

/-!
# Reconstruction of signatures

`Store.signature` puts the signature of a function together from its entry, the entries of its
parameters, the types they refer to and what they inherit from their origins.
-/

namespace Prototyper

namespace Store

/-- The type of an entry, own or inherited. -/
def inheritedType (s : Store) (e : Entry) : Except Defect (Option CType) := do
  match ← s.carrier .type e with
  | none => return none
  | some c =>
    match ← c.reference .type with
    | none => return none
    | some target => return some (← s.resolve target)

/-- The parameter that an entry describes. -/
def parameter (s : Store) (e : Entry) : Except Defect Parameter := do
  match ← s.inheritedType e with
  | none => throw (.missingType e.id)
  | some type =>
    let name ← s.inherited .name e
    return ⟨name.bind Value.string?, type⟩

/-- The parameters among a list of children, and whether the variadic marker is there, after which
no parameter and no second marker may follow. Children of other kinds are passed over. -/
def parametersOf (s : Store) (variadic : Bool) :
    List EntryId → Except Defect (List Parameter × Bool)
  | [] => return ([], variadic)
  | id :: ids => do
    let child ← s.lookup id
    match child.tag with
    | .formalParameter =>
      if variadic then
        throw (.malformedVariadic child.id)
      let p ← s.parameter child
      let (ps, dots) ← s.parametersOf variadic ids
      return (p :: ps, dots)
    | .unspecifiedParameters =>
      if variadic then
        throw (.malformedVariadic child.id)
      s.parametersOf true ids
    | _ => s.parametersOf variadic ids

/-- The signature of the function that an entry describes. -/
def signature (s : Store) (e : Entry) : Except Defect Signature := do
  if e.tag ≠ .subprogram then
    throw (.unexpectedTag e.id e.tag)
  match (← s.inherited .name e).bind Value.string? with
  | none => throw (.missingName e.id)
  | some name =>
    let returnType ← s.inheritedType e
    let (parameters, isVariadic) ← s.parametersOf false e.children
    let inlineCode ← s.inherited .inline e
    let external ← s.inherited .external e
    let file ← s.inherited .declFile e
    let line ← s.inherited .declLine e
    let inlineState := (inlineCode.bind Value.unsigned?).bind InlineState.ofCode?
    return {
      entry := e.id
      name
      returnType := returnType.getD .void
      parameters
      isInline := inlineState.any InlineState.isDeclared
      isVariadic
      isDeclaration := e.flag .declaration
      isExternal := (external.bind Value.flag?).getD false
      inlineState
      location := Location.of? (file.bind Value.unsigned?) (line.bind Value.unsigned?) }

/-- The signature of the function with an identifier. -/
def signatureAt (s : Store) (id : EntryId) : Except Defect Signature := do
  s.signature (← s.lookup id)

end Store

end Prototyper
