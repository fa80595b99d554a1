/-!
# Texts as bytes

A text is a sequence of bytes in UTF-8, but not every sequence of bytes is a text. Where bytes are
shown that are none, the longest beginning of a character among them is shown as one replacement
character, and so is a byte that begins no character.
-/

namespace CardSearch.Text

/-- The bytes of a text in UTF-8. -/
def bytes (s : String) : List UInt8 := s.toUTF8.data.toList

/-- What is shown instead of bytes that are no character. -/
def replacement : Char := '\uFFFD'

/-- A character of which some bytes are known: the digits so far, the range of the next byte, and
how many come after that one. -/
structure Begun where
  digits : Nat
  first : Nat
  last : Nat
  further : Nat
deriving DecidableEq, Repr

/-- What a byte begins that is not a character on its own. -/
def begun? (b : Nat) : Option Begun :=
  if b < 0xC2 then none
  else if b < 0xE0 then some ⟨b - 0xC0, 0x80, 0xBF, 0⟩
  else if b = 0xE0 then some ⟨0, 0xA0, 0xBF, 1⟩
  else if b = 0xED then some ⟨0xD, 0x80, 0x9F, 1⟩
  else if b < 0xF0 then some ⟨b - 0xE0, 0x80, 0xBF, 1⟩
  else if b = 0xF0 then some ⟨0, 0x90, 0xBF, 2⟩
  else if b < 0xF4 then some ⟨b - 0xF0, 0x80, 0xBF, 2⟩
  else if b = 0xF4 then some ⟨4, 0x80, 0x8F, 2⟩
  else none

/-- What a byte shows if no character has begun before it, and what has begun after it. -/
def showFirst (b : Nat) : List Char × Option Begun :=
  if b < 0x80 then ([Char.ofNat b], none)
  else match begun? b with
    | some c => ([], some c)
    | none   => ([replacement], none)

/-- What the next byte of a character shows, and what has begun after it. A byte that is not the
next one may begin another character. -/
def showNext (c : Begun) (b : Nat) : List Char × Option Begun :=
  if c.first ≤ b ∧ b ≤ c.last then
    let digits := 0x40 * c.digits + (b - 0x80)
    match c.further with
    | 0           => ([Char.ofNat digits], none)
    | further + 1 => ([], some ⟨digits, 0x80, 0xBF, further⟩)
  else (replacement :: (showFirst b).1, (showFirst b).2)

/-- The characters that bytes show where a character may have begun. -/
def charsAfter : Option Begun → List UInt8 → List Char
  | none,   []      => []
  | some _, []      => [replacement]
  | none,   b :: bs => (showFirst b.toNat).1 ++ charsAfter (showFirst b.toNat).2 bs
  | some c, b :: bs => (showNext c b.toNat).1 ++ charsAfter (showNext c b.toNat).2 bs

/-- The text that bytes show. -/
def ofBytes (bs : List UInt8) : String := String.ofList (charsAfter none bs)

end CardSearch.Text
