import Prototyper.Pattern.Basic
import Prototyper.Text.Blank
import Prototyper.Text.Numeral
import Prototyper.Text.Reader

/-!
# Atoms of a pattern

How the smallest parts of a pattern are written. Most characters stand for themselves; a backslash
takes the meaning from a mark, or gives one to a letter. Where a pattern is spaced, blanks and
comments, which run to the end of a line, are passed over.
-/

namespace Prototyper.Pattern

/-- The error of a text that is no pattern. -/
inductive Malformed where
  | malformed
  deriving DecidableEq, Inhabited, Repr

/-- A reader of patterns. -/
abbrev Grammar (α : Type) : Type :=
  TextReader Malformed α

/-- The failure of a text that is no pattern. -/
def fail {α : Type} : Grammar α :=
  TextReader.fail fun _ => .malformed

/-- The next character. -/
def next : Grammar Char :=
  TextReader.next fun _ => .malformed

/-- Reading a character takes it. -/
theorem consumes_next : next.Consumes :=
  TextReader.consumes_next _

/-- The given characters. -/
def expect (expected : List Char) : Grammar Unit :=
  TextReader.expect (fun _ => .malformed) expected

/-- A text without the blanks and comments in front. -/
def dropSpace : List Char → List Char
  | [] => []
  | c :: s =>
    if Text.isBlank c then dropSpace s
    else if c = '#' then
      have : (s.dropWhile (· != '\n')).length ≤ s.length := (List.dropWhile_sublist _).length_le
      dropSpace (s.dropWhile (· != '\n'))
    else c :: s
  termination_by s => s.length

/-- Dropping space makes no text longer. -/
theorem length_dropSpace_le (s : List Char) : (dropSpace s).length ≤ s.length := by
  fun_induction dropSpace s <;> simp only [List.length_cons, Nat.le_refl] <;> omega

/-- The space in front, where a pattern is spaced. -/
def space (spaced : Bool) : Grammar Unit :=
  if spaced then TextReader.skip dropSpace length_dropSpace_le else pure ()

/-- The character that has a code of so many hexadecimal digits. -/
def codedChar (spaced : Bool) (digits : Nat) : Grammar Char := do
  let code ← go digits []
  space spaced
  if code.isValidChar then return Char.ofNat code else fail
where
  go : Nat → List Char → Grammar Nat
    | 0, read => return Text.ofDigits 16 read
    | n + 1, read => do
      space spaced
      let c ← next
      if Text.isHexDigit c then go n (read ++ [c]) else fail

/-- What a character means after a backslash, unless a code follows. No letter without a meaning and
no digit can stand there, and no character outside of ASCII. -/
def Atom.ofEscape? (c : Char) : Option Atom :=
  match c with
  | 'a' => some (.literal ⟨'\x07', false⟩)
  | 'f' => some (.literal ⟨'\x0c', false⟩)
  | 'n' => some (.literal ⟨'\n', false⟩)
  | 'r' => some (.literal ⟨'\r', false⟩)
  | 't' => some (.literal ⟨'\t', false⟩)
  | 'v' => some (.literal ⟨'\x0b', false⟩)
  | 'd' => some (.shorthand .digit false)
  | 'D' => some (.shorthand .digit true)
  | 's' => some (.shorthand .space false)
  | 'S' => some (.shorthand .space true)
  | 'w' => some (.shorthand .word false)
  | 'W' => some (.shorthand .word true)
  | 'A' => some (.assertion .textStart)
  | 'z' => some (.assertion .textEnd)
  | 'b' => some (.assertion .wordBoundary)
  | 'B' => some (.assertion .noWordBoundary)
  | '<' => some (.assertion .wordStart)
  | '>' => some (.assertion .wordEnd)
  | c => if c.toNat < 128 && !c.isAlphanum then some (.literal ⟨c, false⟩) else none

/-- An atom after its backslash. -/
def escaped (spaced : Bool) : Grammar Atom := do
  match ← next with
  | 'x' => return .literal ⟨← codedChar spaced 2, true⟩
  | 'u' => return .literal ⟨← codedChar spaced 4, false⟩
  | 'U' => return .literal ⟨← codedChar spaced 8, false⟩
  | c =>
    match Atom.ofEscape? c with
    | some a => return a
    | none => fail

/-- The atom that begins with a character within brackets, where only the backslash is a mark. -/
def classAtomFrom (spaced : Bool) (first : Char) : Grammar Atom :=
  if first = '\\' then escaped spaced else pure (.literal ⟨first, false⟩)

/-- The atom that begins with a character outside of brackets. -/
def atomFrom (spaced : Bool) (first : Char) : Grammar Atom :=
  match first with
  | '.' => pure .dot
  | '^' => pure (.assertion .lineStart)
  | '$' => pure (.assertion .lineEnd)
  | _ => classAtomFrom spaced first

end Prototyper.Pattern
