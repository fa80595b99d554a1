import CardSearch.Proofs.Text.Sigma
import CardSearch.Term

/-!
# Searching for a part of a text

A bare word and the operator `:` look for the lower case form of a word in the lower case form of
a text. A part of the text is found that way unless one of its capital sigmas is written
differently there than on its own. The words that are found in every text that they are a part of
are those whose capital sigmas are settled by the word itself.
-/

namespace CardSearch

/-- A word is found in a text, where it is the value of a field and where it names a record. -/
structure FoundIn (word text : String) : Prop where
  field : compareWord (.text text) .has word = true
  name : ∀ r : Record, r.displayName = .text text → (Term.name word).holds r = .ok true

variable {word text : String}

lemma foundIn_iff :
    FoundIn word text ↔ Text.lowerList word.toList <:+: Text.lowerList text.toList := by
  rw [← Text.toList_lower, ← Text.toList_lower, ← Text.occurs_iff]
  constructor
  · intro h
    exact h.field
  · intro h
    refine ⟨h, fun r hr => ?_⟩
    rw [Term.holds, hr, Term.nameHolds, h]

/-- A part of a text is found in it if its capital sigmas have the form there that they have on
their own. A word is found in all texts that it is a part of only if its capital sigmas are
settled. -/
theorem part_foundIn (w : String) :
    (∀ u v : String, Text.KeepsSigmas u.toList w.toList v.toList → FoundIn w (u ++ w ++ v)) ∧
    (Text.SigmasSettled w.toList ↔ ∀ u v : String, FoundIn w (u ++ w ++ v)) := by
  simp only [foundIn_iff, String.toList_append]
  refine ⟨fun u v h => h.isInfix, ?_⟩
  rw [Text.sigmasSettled_iff]
  constructor
  · intro h u v
    exact h u.toList v.toList
  · intro h u v
    simpa using h (String.ofList u) (String.ofList v)

/-- A word that ends in a sigma is found between two others, though it is not found everywhere. -/
theorem part_foundIn_whole_word :
    ∃ u w v : String, Text.KeepsSigmas u.toList w.toList v.toList ∧
      ¬ Text.SigmasSettled w.toList ∧ FoundIn w (u ++ w ++ v) := by
  have hkeeps : Text.KeepsSigmas "Ο ".toList "ΣΟΦΟΣ".toList " ΗΡΩΣ".toList := by decide +kernel
  exact ⟨"Ο ", "ΣΟΦΟΣ", " ΗΡΩΣ", hkeeps, by decide +kernel,
    (part_foundIn "ΣΟΦΟΣ").1 "Ο " " ΗΡΩΣ" hkeeps⟩

/-- A sigma at the end of a word is not found where the word goes on. -/
theorem final_sigma_not_found :
    ∃ u w v : String, compareWord (.text (u ++ w ++ v)) .has w = false ∧
      ∃ r : Record, r.displayName = .text (u ++ w ++ v) ∧
        (Term.name w).holds r = .ok false := by
  refine ⟨"", "ΟΣ", "Α", by decide +kernel, .ofFields fun _ => .text ("" ++ "ΟΣ" ++ "Α"), rfl, ?_⟩
  have h : Term.nameHolds (.text ("" ++ "ΟΣ" ++ "Α")) "ΟΣ" = false := by decide +kernel
  exact congrArg Except.ok h

end CardSearch
