/-!
# UTF-8

Decoding of bytes that should be UTF-8 but may not be: each longest stretch that begins the encoding
of a character and is not continued becomes one replacement character.
-/

namespace Prototyper.Text

/-- The character that stands for bytes without a meaning. -/
def replacement : Char :=
  '\uFFFD'

/-- Whether a byte continues the encoding of a character. -/
def isContinuation (b : UInt8) : Bool :=
  0x80 ≤ b && b ≤ 0xbf

/-- The payload of a byte that continues an encoding. -/
def payload (b : UInt8) : Nat :=
  b.toNat - 0x80

/-- Whether a byte may follow the first byte of an encoding of three bytes: neither a shorter
encoding nor a surrogate may come of it. -/
def isSecondOfThree (first second : UInt8) : Bool :=
  (if first = 0xe0 then 0xa0 else 0x80) ≤ second && second ≤ (if first = 0xed then 0x9f else 0xbf)

/-- Whether a byte may follow the first byte of an encoding of four bytes: neither a shorter
encoding nor a character past the last one may come of it. -/
def isSecondOfFour (first second : UInt8) : Bool :=
  (if first = 0xf0 then 0x90 else 0x80) ≤ second && second ≤ (if first = 0xf4 then 0x8f else 0xbf)

/-- The characters that bytes encode. -/
def decodeUtf8 : List UInt8 → List Char
  | [] => []
  | a :: rest =>
    if a < 0x80 then
      Char.ofNat a.toNat :: decodeUtf8 rest
    else if 0xc2 ≤ a && a ≤ 0xdf then
      match rest with
      | b :: rest' =>
        if isContinuation b then
          Char.ofNat ((a.toNat - 0xc0) * 64 + payload b) :: decodeUtf8 rest'
        else replacement :: decodeUtf8 (b :: rest')
      | [] => [replacement]
    else if 0xe0 ≤ a && a ≤ 0xef then
      match rest with
      | b :: c :: rest' =>
        if isSecondOfThree a b then
          if isContinuation c then
            Char.ofNat ((a.toNat - 0xe0) * 4096 + payload b * 64 + payload c) :: decodeUtf8 rest'
          else replacement :: decodeUtf8 (c :: rest')
        else replacement :: decodeUtf8 (b :: c :: rest')
      | [b] => if isSecondOfThree a b then [replacement] else replacement :: decodeUtf8 [b]
      | [] => [replacement]
    else if 0xf0 ≤ a && a ≤ 0xf4 then
      match rest with
      | b :: c :: d :: rest' =>
        if isSecondOfFour a b then
          if isContinuation c then
            if isContinuation d then
              Char.ofNat ((a.toNat - 0xf0) * 262144 + payload b * 4096 + payload c * 64 + payload d)
                :: decodeUtf8 rest'
            else replacement :: decodeUtf8 (d :: rest')
          else replacement :: decodeUtf8 (c :: d :: rest')
        else replacement :: decodeUtf8 (b :: c :: d :: rest')
      | [b, c] =>
        if isSecondOfFour a b then
          if isContinuation c then [replacement] else replacement :: decodeUtf8 [c]
        else replacement :: decodeUtf8 [b, c]
      | [b] => if isSecondOfFour a b then [replacement] else replacement :: decodeUtf8 [b]
      | [] => [replacement]
    else
      replacement :: decodeUtf8 rest
  termination_by bytes => bytes.length

end Prototyper.Text
