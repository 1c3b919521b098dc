/-!
# Splitting

The pieces of a text between the occurrences of a separator. A text with n separators has n + 1
pieces, of which some may be empty.
-/

namespace Prototyper.Text

/-- The pieces of a text between separators. -/
def pieces (separator : Char) : List Char → List (List Char)
  | [] => [[]]
  | c :: s =>
    if c = separator then [] :: pieces separator s
    else
      match pieces separator s with
      | [] => [[c]]
      | piece :: rest => (c :: piece) :: rest

/-- The pieces of a text between separators, without the empty ones. -/
def words (separator : Char) (s : List Char) : List (List Char) :=
  (pieces separator s).filter fun piece => !piece.isEmpty

end Prototyper.Text
