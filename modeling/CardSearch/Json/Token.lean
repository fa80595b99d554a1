import CardSearch.Json.Numeral

/-!
# The tokens of a document

A document is cut into punctuation, texts and the values that stand for themselves. The cut is the
longest one: after a number, a text or a name only blanks and punctuation can go on.
-/

namespace CardSearch.Json

/-- A piece of a document. -/
inductive Token where
  | openArray
  | closeArray
  | openObject
  | closeObject
  | comma
  | colon
  | text (s : String)
  /-- A number, or one of the named values. -/
  | scalar (v : Json)
deriving Repr

/-- The blanks of a document. -/
def isBlank (c : Char) : Bool := c == ' ' || c == '\t' || c == '\n' || c == '\r'

/-- The token that is one character. -/
def punctuation? : Char → Option Token
  | '['    => some .openArray
  | ']'    => some .closeArray
  | '\x7b' => some .openObject
  | '\x7d' => some .closeObject
  | ','    => some .comma
  | ':'    => some .colon
  | _      => none

/-- The values that are written as names. -/
def named? (cs : List Char) : Option Json :=
  match String.ofList cs with
  | "null"  => some .null
  | "true"  => some (.bool true)
  | "false" => some (.bool false)
  | _       => none

/-- Whether a character can be part of a number. -/
def isNumeric (c : Char) : Bool :=
  c.isDigit || c == '-' || c == '+' || c == '.' || c == 'e' || c == 'E'

/-! ### Texts -/

/-- Cuts after the quote that closes a text; the first part is the text as it was written. -/
def cutText : List Char → Option (List Char × List Char)
  | []               => none
  | '"' :: rest      => some ([], rest)
  | '\\' :: c :: rest => (cutText rest).map fun (body, rest) => ('\\' :: c :: body, rest)
  | c :: rest        => (cutText rest).map fun (body, rest) => (c :: body, rest)

theorem length_cutText {cs body rest : List Char} (h : cutText cs = some (body, rest)) :
    rest.length < cs.length := by
  fun_induction cutText cs generalizing body with
  | case1 => simp at h
  | case2 cs => simp at h; simp [h]
  | case3 c cs ih =>
    obtain ⟨⟨b, r⟩, hb, he⟩ := Option.map_eq_some_iff.1 h
    simp only [Prod.mk.injEq] at he
    obtain ⟨_, rfl⟩ := he
    have := ih hb
    simp only [List.length_cons]
    omega
  | case4 c cs _ _ ih =>
    obtain ⟨⟨b, r⟩, hb, he⟩ := Option.map_eq_some_iff.1 h
    simp only [Prod.mk.injEq] at he
    obtain ⟨_, rfl⟩ := he
    have := ih hb
    simp only [List.length_cons]
    omega

/-- The value of a hexadecimal digit. -/
def hexDigit? (c : Char) : Option Nat :=
  if '0' ≤ c ∧ c ≤ '9' then some (c.toNat - '0'.toNat)
  else if 'a' ≤ c ∧ c ≤ 'f' then some (c.toNat - 'a'.toNat + 10)
  else if 'A' ≤ c ∧ c ≤ 'F' then some (c.toNat - 'A'.toNat + 10)
  else none

/-- The sixteen bits of four hexadecimal digits. -/
def hexUnit? (a b c d : Char) : Option Nat := do
  return (← hexDigit? a) * 4096 + (← hexDigit? b) * 256 + (← hexDigit? c) * 16 + (← hexDigit? d)

/-- What the character after a backslash stands for. -/
def escaped? : Char → Option Char
  | '"'  => some '"'
  | '\\' => some '\\'
  | '/'  => some '/'
  | 'b'  => some '\x08'
  | 'f'  => some '\x0c'
  | 'n'  => some '\n'
  | 'r'  => some '\r'
  | 't'  => some '\t'
  | _    => none

/-- Reads the escapes of a text. A character beyond sixteen bits is two escapes, and `high` is the
first of them while the second is awaited. -/
def unescape? (high : Option Nat) : List Char → Option (List Char)
  | [] => if high.isSome then none else some []
  | '\\' :: 'u' :: a :: b :: c :: d :: rest => do
    let u ← hexUnit? a b c d
    match high with
    | some h =>
      guard (0xDC00 ≤ u && u ≤ 0xDFFF)
      return Char.ofNat (0x10000 + (h - 0xD800) * 0x400 + (u - 0xDC00)) :: (← unescape? none rest)
    | none =>
      guard (!(0xDC00 ≤ u && u ≤ 0xDFFF))
      if 0xD800 ≤ u && u ≤ 0xDBFF then unescape? (some u) rest
      else return Char.ofNat u :: (← unescape? none rest)
  | '\\' :: c :: rest => do
    guard high.isNone
    return (← escaped? c) :: (← unescape? none rest)
  | c :: rest => do
    guard (high.isNone && 0x20 ≤ c.toNat)
    return c :: (← unescape? none rest)

/-! ### Documents -/

/-- The tokens of a document. -/
def tokens? : List Char → Option (List Token)
  | [] => some []
  | c :: cs =>
    if isBlank c then tokens? cs
    else
      match punctuation? c with
      | some t => (tokens? cs).map (t :: ·)
      | none =>
        if c = '"' then
          match _h : cutText cs with
          | none => none
          | some (body, rest) => do
            let s ← unescape? none body
            let ts ← tokens? rest
            return .text (String.ofList s) :: ts
        else if c.isAlpha then do
          let v ← named? (c :: cs.takeWhile Char.isAlpha)
          let ts ← tokens? (cs.dropWhile Char.isAlpha)
          return .scalar v :: ts
        else do
          let n ← Numeral.read? (c :: cs.takeWhile isNumeric)
          let ts ← tokens? (cs.dropWhile isNumeric)
          return .scalar (.number n) :: ts
termination_by cs => cs.length
decreasing_by
  all_goals simp only [List.length_cons]
  · omega
  · omega
  · have := length_cutText _h
    omega
  · have := (List.dropWhile_sublist (l := cs) Char.isAlpha).length_le
    omega
  · have := (List.dropWhile_sublist (l := cs) isNumeric).length_le
    omega

end CardSearch.Json
