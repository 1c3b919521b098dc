/-!
# Places in a text

A place in a text is the number of bytes before it, in the encoding as UTF-8. A text can only be cut
at a place where a character begins, or at its end.
-/

namespace Prototyper.Text

/-- The number of bytes of a text. -/
def byteSize : List Char → Nat
  | [] => 0
  | c :: s => c.utf8Size + byteSize s

/-- A text from a place on. -/
def fromPlace? : Nat → List Char → Option (List Char)
  | 0, s => some s
  | _ + 1, [] => none
  | place + 1, c :: s =>
    if c.utf8Size ≤ place + 1 then fromPlace? (place + 1 - c.utf8Size) s else none

/-- A text up to a place. -/
def upToPlace? : Nat → List Char → Option (List Char)
  | 0, _ => some []
  | _ + 1, [] => none
  | place + 1, c :: s =>
    if c.utf8Size ≤ place + 1 then (upToPlace? (place + 1 - c.utf8Size) s).map (c :: ·) else none

end Prototyper.Text
