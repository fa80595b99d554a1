import CardSearch.CommandLine.FilterSpec
import CardSearch.Proofs.Text.Trimmed
import Mathlib.Tactic.Common

/-!
# Reading filter specifications

The specifications that can be read are those that can be written: aliases without white space at
their ends, commas and equals signs, and a field without white space at its ends. Writing one and
reading it back gives the same specification. A text is refused for nothing but a missing equals
sign, aliases that are all blank or a blank field.
-/

namespace CardSearch.CommandLine

open Text

/-! ### Pieces of a text -/

section

variable {x y : Char} {cs piece : List Char}

lemma notMem_of_mem_splitOn (h : piece ∈ cs.splitOn x) : x ∉ piece := by
  induction cs generalizing piece with
  | nil =>
    rw [List.splitOn_nil, List.mem_singleton] at h
    simp [h]
  | cons c cs ih =>
    rw [List.splitOn_cons_eq_if_modifyHead] at h
    split_ifs at h with hc
    · rcases List.mem_cons.mp h with rfl | h
      · exact List.not_mem_nil
      · exact ih h
    · obtain ⟨first, rest, hsplit⟩ := List.exists_cons_of_ne_nil (List.splitOn_ne_nil x cs)
      rw [hsplit] at h ih
      rcases List.mem_cons.mp h with rfl | h
      · rw [List.mem_cons, not_or]
        exact ⟨fun hx => hc (beq_iff_eq.mpr hx.symm), ih List.mem_cons_self⟩
      · exact ih (List.mem_cons_of_mem first h)

/-- Apart from the separator, a text has the characters of its pieces. -/
lemma mem_intercalate_iff (hy : y ≠ x) {pieces : List (List Char)} :
    y ∈ [x].intercalate pieces ↔ ∃ piece ∈ pieces, y ∈ piece := by
  induction pieces with
  | nil => simp
  | cons piece pieces ih =>
    cases pieces with
    | nil => simp
    | cons next rest => simp [List.intercalate_cons_cons, ih, hy]

lemma mem_of_mem_splitOn (h : piece ∈ cs.splitOn x) (hy : y ∈ piece) : y ∈ cs := by
  have hyx : y ≠ x := fun heq => notMem_of_mem_splitOn h (heq ▸ hy)
  have hmem := (mem_intercalate_iff hyx).mpr ⟨piece, h, hy⟩
  rwa [List.intercalate_splitOn] at hmem

end

namespace FilterSpec

variable {s : String} {before after cs : List Char} {aliases : List String} {a : String}

/-! ### Aliases -/

/-- An alias as it can stand between commas. -/
structure PlainAlias (a : String) : Prop where
  ne_empty : a ≠ ""
  trimmed : Trimmed a.toList
  comma : ',' ∉ a.toList
  equals : '=' ∉ a.toList

lemma mem_readAliases :
    a ∈ readAliases cs ↔ a ≠ "" ∧ ∃ piece ∈ cs.splitOn ',', String.ofList (trimList piece) = a := by
  rw [readAliases, List.mem_filter, List.mem_map, and_comm]
  simp

lemma readAliases_eq_nil_iff : readAliases cs = [] ↔ ∀ piece ∈ cs.splitOn ',', AllBlank piece := by
  rw [readAliases, List.filter_eq_nil_iff]
  simp [trimList_eq_nil_iff]

lemma plainAlias_of_mem_readAliases (h : a ∈ readAliases before) (hbefore : '=' ∉ before) :
    PlainAlias a := by
  obtain ⟨hempty, piece, hpiece, rfl⟩ := mem_readAliases.mp h
  refine ⟨hempty, ?_, ?_, ?_⟩ <;> rw [String.toList_ofList]
  · exact trimmed_trimList piece
  · exact fun hmem => notMem_of_mem_splitOn hpiece (mem_of_mem_trimList hmem)
  · exact fun hmem => hbefore (mem_of_mem_splitOn hpiece (mem_of_mem_trimList hmem))

lemma readAliases_intercalate (hne : aliases ≠ []) (h : ∀ a ∈ aliases, PlainAlias a) :
    readAliases (",".intercalate aliases).toList = aliases := by
  have hsplit : (",".intercalate aliases).toList.splitOn ',' = aliases.map String.toList := by
    rw [String.toList_intercalate]
    refine List.splitOn_intercalate ',' ?_ (by simpa using hne)
    rintro piece hpiece
    obtain ⟨a, ha, rfl⟩ := List.mem_map.mp hpiece
    exact (h a ha).comma
  have htrim : (aliases.map String.toList).map (fun piece => String.ofList (trimList piece)) =
      aliases := by
    rw [List.map_map]
    refine (List.map_congr_left fun a ha => ?_).trans (List.map_id aliases)
    rw [Function.comp_apply, (h a ha).trimmed.trimList_eq, String.ofList_toList]
    rfl
  rw [readAliases, hsplit, htrim, List.filter_eq_self]
  intro a ha
  simp [(h a ha).ne_empty]

lemma equals_notMem_intercalate (h : ∀ a ∈ aliases, PlainAlias a) :
    '=' ∉ (",".intercalate aliases).toList := by
  rw [String.toList_intercalate]
  intro hmem
  obtain ⟨piece, hpiece, hequals⟩ := (mem_intercalate_iff (by decide)).mp hmem
  obtain ⟨a, ha, rfl⟩ := List.mem_map.mp hpiece
  exact (h a ha).equals hequals

/-! ### Specifications -/

/-- A specification that can be written: some aliases that can stand between commas, and a field
without white space at its ends. -/
structure Valid (spec : FilterSpec) : Prop where
  ne_nil : spec.aliases ≠ []
  plain : ∀ a ∈ spec.aliases, PlainAlias a
  field_ne_empty : spec.field ≠ ""
  field_trimmed : Trimmed spec.field.toList

lemma read_of_notMem (h : '=' ∉ s.toList) : read s = .error .noEquals := by
  have hdrop : s.toList.dropWhile (· ≠ '=') = [] := by
    rw [List.dropWhile_eq_nil_iff]
    intro c hc
    simpa using fun heq : c = '=' => h (heq ▸ hc)
  rw [read, hdrop]

/-- What a text with an equals sign comes to. -/
lemma read_of_split (hs : s.toList = before ++ '=' :: after) (hbefore : '=' ∉ before) :
    read s =
      if readAliases before = [] then .error .noAlias
      else if trimList after = [] then .error .noField
      else .ok ⟨readAliases before, String.ofList (trimList after)⟩ := by
  have hne : ∀ c ∈ before, decide (c ≠ '=') = true := by
    intro c hc
    simpa using fun heq : c = '=' => hbefore (heq ▸ hc)
  have htake : s.toList.takeWhile (· ≠ '=') = before := by
    rw [hs, List.takeWhile_append_of_pos hne]
    simp
  have hdrop : s.toList.dropWhile (· ≠ '=') = '=' :: after := by
    rw [hs, List.dropWhile_append_of_pos hne]
    simp
  rw [read, hdrop, htake]
  simp

lemma valid_of_read {spec : FilterSpec} (h : read s = .ok spec) : spec.Valid := by
  by_cases hequals : '=' ∈ s.toList
  · obtain ⟨before, after, hs, hbefore⟩ := List.eq_append_cons_of_mem hequals
    rw [read_of_split hs hbefore] at h
    split_ifs at h with haliases hfield
    obtain rfl := Except.ok.inj h
    refine ⟨haliases, fun a ha => plainAlias_of_mem_readAliases ha hbefore, ?_, ?_⟩
    · rwa [ne_eq, String.ofList_eq_empty_iff]
    · rw [String.toList_ofList]
      exact trimmed_trimList after
  · rw [read_of_notMem hequals] at h
    cases h

lemma Valid.read_write {spec : FilterSpec} (h : spec.Valid) : read spec.write = .ok spec := by
  have hs : spec.write.toList =
      (",".intercalate spec.aliases).toList ++ '=' :: spec.field.toList := by
    simp [write]
  rw [read_of_split hs (equals_notMem_intercalate h.plain),
    readAliases_intercalate h.ne_nil h.plain, h.field_trimmed.trimList_eq, if_neg h.ne_nil,
    if_neg (String.toList_eq_nil_iff.not.mpr h.field_ne_empty), String.ofList_toList]

lemma exists_read_eq_error_iff :
    (∃ fault, read s = .error fault) ↔
      '=' ∉ s.toList ∨ ∃ before after, s.toList = before ++ '=' :: after ∧ '=' ∉ before ∧
        ((∀ piece ∈ before.splitOn ',', AllBlank piece) ∨ AllBlank after) := by
  constructor
  · rintro ⟨fault, h⟩
    by_cases hequals : '=' ∈ s.toList
    · obtain ⟨before, after, hs, hbefore⟩ := List.eq_append_cons_of_mem hequals
      refine .inr ⟨before, after, hs, hbefore, ?_⟩
      rw [read_of_split hs hbefore] at h
      split_ifs at h with haliases hfield
      · exact .inl (readAliases_eq_nil_iff.mp haliases)
      · exact .inr (trimList_eq_nil_iff.mp hfield)
    · exact .inl hequals
  · rintro (hequals | ⟨before, after, hs, hbefore, hblank⟩)
    · exact ⟨_, read_of_notMem hequals⟩
    · rw [read_of_split hs hbefore]
      rw [← readAliases_eq_nil_iff, ← trimList_eq_nil_iff] at hblank
      split_ifs with haliases hfield
      · exact ⟨_, rfl⟩
      · exact ⟨_, rfl⟩
      · exact absurd hblank (not_or.mpr ⟨haliases, hfield⟩)

/-- Reading gives nothing but specifications that can be written, and gives back every one of them
from the text that is written for it. What it refuses is said by the text alone. -/
theorem read_iff_valid :
    (∀ s spec, read s = .ok spec → spec.Valid) ∧
    (∀ spec : FilterSpec, spec.Valid → read spec.write = .ok spec) ∧
    ∀ s : String, (∃ fault, read s = .error fault) ↔
      '=' ∉ s.toList ∨ ∃ before after, s.toList = before ++ '=' :: after ∧ '=' ∉ before ∧
        ((∀ piece ∈ before.splitOn ',', AllBlank piece) ∨ AllBlank after) :=
  ⟨fun _ _ => valid_of_read, fun _ => Valid.read_write, fun _ => exists_read_eq_error_iff⟩

/-- White space and an empty piece are dropped, while the second equals sign belongs to the field.
Without the aliases the same text is refused. -/
theorem read_iff_valid_spaced :
    ∃ spec : FilterSpec, read " t ,, type = a=b, " = .ok spec ∧ spec.Valid ∧
      spec.write = "t,type=a=b," ∧ read "t,type=a=b," = .ok spec ∧
      ∃ fault, read " ,, = a=b, " = .error fault := by
  have hread : read " t ,, type = a=b, " = .ok ⟨["t", "type"], "a=b,"⟩ := by decide +kernel
  have hvalid := read_iff_valid.1 _ _ hread
  have hwrite : write ⟨["t", "type"], "a=b,"⟩ = "t,type=a=b," := by decide +kernel
  have hback := read_iff_valid.2.1 _ hvalid
  rw [hwrite] at hback
  have hpieces : " ,, ".toList.splitOn ',' = [[' '], [], [' ']] := by decide +kernel
  have hspace : isBlank ' ' = true := by decide +kernel
  have hblank : ∀ piece ∈ " ,, ".toList.splitOn ',', AllBlank piece := by
    rw [hpieces]
    simp [AllBlank, hspace]
  have hequals : '=' ∉ " ,, ".toList := by decide +kernel
  have hrefused := (read_iff_valid.2.2 " ,, = a=b, ").mpr
    (.inr ⟨" ,, ".toList, " a=b, ".toList, rfl, hequals, .inl hblank⟩)
  exact ⟨_, hread, hvalid, hwrite, hback, hrefused⟩

end FilterSpec

end CardSearch.CommandLine
