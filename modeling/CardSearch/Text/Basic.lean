/-!
# Texts

Sets of characters, which are kept as ranges of code points; the white space at the ends of a text;
and finding one text inside another.
-/

namespace CardSearch.Text

/-! ### Sets of characters -/

/-- Ranges of code points, both ends included. -/
abbrev Ranges := List (Nat × Nat)

/-- Whether a character lies in one of the ranges. -/
def Ranges.covers (rs : Ranges) (c : Char) : Bool :=
  rs.any fun r => decide (r.1 ≤ c.toNat) && decide (c.toNat ≤ r.2)

/-! ### White space -/

/-- The ranges of `White_Space`. -/
def blankRanges : Ranges := [
  (0x9, 0xD), (0x20, 0x20), (0x85, 0x85), (0xA0, 0xA0), (0x1680, 0x1680), (0x2000, 0x200A),
  (0x2028, 0x2029), (0x202F, 0x202F), (0x205F, 0x205F), (0x3000, 0x3000)]

/-- Whether a character is white space. -/
def isBlank (c : Char) : Bool := blankRanges.covers c

/-- Characters without the white space at their two ends. -/
def trimList (cs : List Char) : List Char :=
  ((cs.dropWhile isBlank).reverse.dropWhile isBlank).reverse

/-- A text without the white space at its two ends. -/
def trim (s : String) : String := String.ofList (trimList s.toList)

/-! ### One text inside another -/

/-- Whether `part` stands somewhere in a list, its elements side by side. -/
def occursList (part : List Char) : List Char → Bool
  | []      => part.isEmpty
  | c :: cs => part.isPrefixOf (c :: cs) || occursList part cs

/-- Whether `part` stands somewhere in `whole`. -/
def occurs (part whole : String) : Bool := occursList part.toList whole.toList

theorem occursList_iff {part whole : List Char} :
    occursList part whole = true ↔ part <:+: whole := by
  induction whole with
  | nil => cases part <;> simp [occursList]
  | cons c cs ih => simp [occursList, ih, List.infix_cons_iff]

theorem occurs_iff {part whole : String} :
    occurs part whole = true ↔ part.toList <:+: whole.toList := occursList_iff

end CardSearch.Text
