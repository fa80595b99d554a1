import CardSearch.Text.Encoding
import Mathlib.Tactic.Common

/-!
# The bytes of texts

The bytes of a text show this text. A character is either a byte of its own or is begun by a byte
that tells how many bytes follow; these add the further digits of its code point, from the highest
one on.
-/

namespace CardSearch.Text

lemma bytes_eq_flatMap (s : String) : bytes s = s.toList.flatMap String.utf8EncodeChar := by
  rw [bytes, String.toUTF8_eq_toByteArray, ← String.utf8Encode_toList, List.utf8Encode,
    List.data_toByteArray, List.toList_toArray]

/-! ### One character -/

lemma charsAfter_ofNat {n : Nat} (hn : n < 0x100) (bs : List UInt8) :
    charsAfter none (UInt8.ofNat n :: bs) = (showFirst n).1 ++ charsAfter (showFirst n).2 bs := by
  rw [charsAfter, UInt8.toNat_ofNat_of_lt' hn]

lemma charsAfter_of_begun {n : Nat} {c : Begun} (hn : 0x80 ≤ n) (hn' : n < 0x100)
    (hc : begun? n = some c) (bs : List UInt8) :
    charsAfter none (UInt8.ofNat n :: bs) = charsAfter (some c) bs := by
  have hshow : showFirst n = ([], some c) := by
    rw [showFirst, if_neg (by omega), hc]
  rw [charsAfter_ofNat hn', hshow, List.nil_append]

section

variable {digits first last further n : Nat}

lemma charsAfter_next (hn : n < 0x40) (hfirst : first ≤ n + 0x80) (hlast : n + 0x80 ≤ last)
    (bs : List UInt8) :
    charsAfter (some ⟨digits, first, last, further + 1⟩) (UInt8.ofNat (n + 0x80) :: bs) =
      charsAfter (some ⟨0x40 * digits + n, 0x80, 0xBF, further⟩) bs := by
  have hlt : n + 0x80 < 0x100 := by omega
  rw [charsAfter, UInt8.toNat_ofNat_of_lt' hlt, showNext, if_pos ⟨hfirst, hlast⟩,
    Nat.add_sub_cancel, List.nil_append]

lemma charsAfter_last (hn : n < 0x40) (hfirst : first ≤ n + 0x80) (hlast : n + 0x80 ≤ last)
    (bs : List UInt8) :
    charsAfter (some ⟨digits, first, last, 0⟩) (UInt8.ofNat (n + 0x80) :: bs) =
      Char.ofNat (0x40 * digits + n) :: charsAfter none bs := by
  have hlt : n + 0x80 < 0x100 := by omega
  rw [charsAfter, UInt8.toNat_ofNat_of_lt' hlt, showNext, if_pos ⟨hfirst, hlast⟩,
    Nat.add_sub_cancel, List.singleton_append]

/-- A first byte begins a character, and the second byte can be one with the given digits. -/
def Begins (b digits further second : Nat) : Prop :=
  ∃ first last, begun? b = some ⟨digits, first, last, further⟩ ∧
    first ≤ second + 0x80 ∧ second + 0x80 ≤ last

variable {m : Nat}

lemma begins_two (hn : n < 0x20) (hn' : 2 ≤ n) (hm : m < 0x40) : Begins (n + 0xC0) n 0 m := by
  refine ⟨0x80, 0xBF, ?_, by omega, by omega⟩
  rw [begun?, if_neg (by omega), if_pos (by omega), Nat.add_sub_cancel]

/-- What could be written with two bytes, and what is no character, is left out. -/
lemma begins_three (hn : n < 0x10) (hm : m < 0x40) (hfirst : n = 0 → 0x20 ≤ m)
    (hlast : n = 0xD → m < 0x20) : Begins (n + 0xE0) n 1 m := by
  by_cases h0 : n = 0
  · obtain rfl := h0
    have hm' := hfirst rfl
    exact ⟨0xA0, 0xBF, rfl, by omega, by omega⟩
  by_cases hD : n = 0xD
  · obtain rfl := hD
    have hm' := hlast rfl
    exact ⟨0x80, 0x9F, rfl, by omega, by omega⟩
  refine ⟨0x80, 0xBF, ?_, by omega, by omega⟩
  rw [begun?, if_neg (by omega), if_neg (by omega), if_neg (by omega), if_neg (by omega),
    if_pos (by omega), Nat.add_sub_cancel]

lemma begins_four (hn : n < 5) (hm : m < 0x40) (hfirst : n = 0 → 0x10 ≤ m)
    (hlast : n = 4 → m < 0x10) : Begins (n + 0xF0) n 2 m := by
  by_cases h0 : n = 0
  · obtain rfl := h0
    have hm' := hfirst rfl
    exact ⟨0x90, 0xBF, rfl, by omega, by omega⟩
  by_cases h4 : n = 4
  · obtain rfl := h4
    have hm' := hlast rfl
    exact ⟨0x80, 0x8F, rfl, by omega, by omega⟩
  refine ⟨0x80, 0xBF, ?_, by omega, by omega⟩
  rw [begun?, if_neg (by omega), if_neg (by omega), if_neg (by omega), if_neg (by omega),
    if_neg (by omega), if_neg (by omega), if_pos (by omega), Nat.add_sub_cancel]

end

lemma charsAfter_utf8EncodeChar (c : Char) (bs : List UInt8) :
    charsAfter none (String.utf8EncodeChar c ++ bs) = c :: charsAfter none bs := by
  have hchar {n : Nat} (hn : n = c.val.toNat) : Char.ofNat n = c := by
    rw [hn]
    exact Char.ofNat_toNat c
  have hvalid : c.val.toNat < 0xD800 ∨ 0xDFFF < c.val.toNat ∧ c.val.toNat < 0x110000 := c.valid
  rw [String.utf8EncodeChar]
  generalize c.val.toNat = v at hchar hvalid
  split_ifs with h1 h2 h3
  · rw [List.singleton_append, charsAfter_ofNat (by omega), showFirst, if_pos (by omega), hchar rfl]
    rfl
  · obtain ⟨first, last, hbegun, hfirst, hlast⟩ :=
      begins_two (n := v / 64 % 32) (m := v % 64) (by omega) (by omega) (by omega)
    rw [List.cons_append, List.singleton_append, charsAfter_of_begun (by omega) (by omega) hbegun,
      charsAfter_last (by omega) hfirst hlast, hchar (by omega)]
  · obtain ⟨first, last, hbegun, hfirst, hlast⟩ :=
      begins_three (n := v / 4096 % 16) (m := v / 64 % 64) (by omega) (by omega) (by omega)
        (by omega)
    rw [List.cons_append, List.cons_append, List.singleton_append,
      charsAfter_of_begun (by omega) (by omega) hbegun, charsAfter_next (by omega) hfirst hlast,
      charsAfter_last (by omega) (by omega) (by omega), hchar (by omega)]
  · obtain ⟨first, last, hbegun, hfirst, hlast⟩ :=
      begins_four (n := v / 262144 % 8) (m := v / 4096 % 64) (by omega) (by omega) (by omega)
        (by omega)
    rw [List.cons_append, List.cons_append, List.cons_append, List.singleton_append,
      charsAfter_of_begun (by omega) (by omega) hbegun, charsAfter_next (by omega) hfirst hlast,
      charsAfter_next (by omega) (by omega) (by omega),
      charsAfter_last (by omega) (by omega) (by omega), hchar (by omega)]

/-! ### Texts -/

/-- The bytes of a text show this text. -/
theorem ofBytes_bytes (s : String) : ofBytes (bytes s) = s := by
  have hchars (cs : List Char) : charsAfter none (cs.flatMap String.utf8EncodeChar) = cs := by
    induction cs with
    | nil => rfl
    | cons c cs ih => rw [List.flatMap_cons, charsAfter_utf8EncodeChar, ih]
  rw [ofBytes, bytes_eq_flatMap, hchars, String.ofList_toList]

end CardSearch.Text
