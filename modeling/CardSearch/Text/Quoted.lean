import CardSearch.Text.Printable

/-!
# Quoted texts

A text between double quotes, in which every character that would not show on its own is written
as an escape: the short forms for a quote, a backslash, a tab, the two line ends and the null
character, and the code point in hexadecimal for everything else.
-/

namespace CardSearch.Text

/-- How one character is written between double quotes. -/
def escapeChar (c : Char) : List Char :=
  if c = '"' then ['\\', '"']
  else if c = '\\' then ['\\', '\\']
  else if c = '\n' then ['\\', 'n']
  else if c = '\r' then ['\\', 'r']
  else if c = '\t' then ['\\', 't']
  else if c = '\x00' then ['\\', '0']
  else if showsAlone c then [c]
  else ['\\', 'u', '{'] ++ Nat.toDigits 16 c.toNat ++ ['}']

/-- The characters of a quoted text. -/
def quotedList (cs : List Char) : List Char := '"' :: (cs.flatMap escapeChar ++ ['"'])

/-- A text between double quotes. -/
def quoted (s : String) : String := String.ofList (quotedList s.toList)

@[simp] theorem toList_quoted (s : String) : (quoted s).toList = quotedList s.toList := by
  simp [quoted]

end CardSearch.Text
