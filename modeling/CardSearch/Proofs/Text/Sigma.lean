import CardSearch.Text.Lower
import Mathlib.Tactic.Common

/-!
# Parts of a text in lower case

Lower case is taken one character at a time, but for the capital sigma, which looks at what stands
around it. So a part of a text has the same lower case form there as on its own if each of its
capital sigmas keeps its form. A capital sigma keeps it between any two texts if the part decides
it already; otherwise a single letter in front or behind gives it the other form.
-/

namespace CardSearch.Text

/-! ### The letters around a sigma -/

/-- Whether the nearest character that counts for case is a letter with case, if there is one. -/
def nearestCase (cs : List Char) : Option Bool :=
  (cs.dropWhile isCaseIgnorable).head?.map isCased

lemma meetsCased_eq (cs : List Char) : meetsCased cs = (nearestCase cs == some true) := by
  unfold meetsCased nearestCase
  cases cs.dropWhile isCaseIgnorable with
  | nil => rfl
  | cons c _ => cases h : isCased c <;> simp [h]

lemma nearestCase_append (cs ds : List Char) :
    nearestCase (cs ++ ds) = (nearestCase cs).or (nearestCase ds) := by
  induction cs with
  | nil => rfl
  | cons c cs ih =>
    unfold nearestCase at ih ⊢
    by_cases hc : isCaseIgnorable c = true
    · simp only [List.cons_append, List.dropWhile_cons, hc, if_true]
      exact ih
    · simp [hc]

/-- A place in a text: what stands before it, nearest character first, and what stands after it. -/
structure Site where
  before : List Char
  after : List Char

namespace Site

/-- The same place when the text stands between two others. -/
def within (s : Site) (before after : List Char) : Site := ⟨s.before ++ before, s.after ++ after⟩

/-- The small form of a capital sigma at this place. -/
def sigma (s : Site) : Char := lowerSigma s.before s.after

variable {s : Site}

lemma sigma_eq : s.sigma = if nearestCase s.before = some true ∧ nearestCase s.after ≠ some true
    then 'ς' else 'σ' := by
  simp [sigma, lowerSigma, meetsCased_eq]

lemma sigma_eq_final_iff : s.sigma = 'ς' ↔
    nearestCase s.before = some true ∧ nearestCase s.after ≠ some true := by
  rw [sigma_eq]
  split_ifs with h <;> simp [h]

lemma sigma_eq_inner_iff : s.sigma = 'σ' ↔
    nearestCase s.before ≠ some true ∨ nearestCase s.after = some true := by
  rw [sigma_eq, ← not_iff_not]
  split_ifs with h <;> simp [h]

/-- The text around this place decides the form of a sigma, whatever it stands in. -/
def Settled (s : Site) : Prop :=
  nearestCase s.before = some false ∨ nearestCase s.after = some true ∨
    nearestCase s.before = some true ∧ nearestCase s.after = some false

instance : DecidablePred Settled := fun _ => inferInstanceAs (Decidable (_ ∨ _))

lemma Settled.sigma_within (h : s.Settled) (before after : List Char) :
    (s.within before after).sigma = s.sigma := by
  rw [sigma_eq, sigma_eq]
  simp only [within, nearestCase_append]
  rcases h with h | h | ⟨h, h'⟩
  · simp [h]
  · simp [h]
  · simp [h, h']

/-- A sigma that is not settled stands behind a letter with nothing behind it that counts, or with
nothing in front that counts. -/
lemma cases_of_not_settled (h : ¬ s.Settled) :
    nearestCase s.before = some true ∧ nearestCase s.after = none ∨
      nearestCase s.before = none ∧ nearestCase s.after ≠ some true := by
  unfold Settled at h
  cases hb : nearestCase s.before with
  | none => simp_all
  | some b => cases ha : nearestCase s.after <;> cases b <;> simp_all

end Site

/-- The places of the capital sigmas of a text that follows `before`. -/
def sigmaSites (before : List Char) : List Char → List Site
  | []        => []
  | c :: rest =>
    (if c = 'Σ' then [⟨before, rest⟩] else []) ++ sigmaSites (c :: before) rest

lemma sigmaSites_sigma (before rest : List Char) :
    sigmaSites before ('Σ' :: rest) = ⟨before, rest⟩ :: sigmaSites ('Σ' :: before) rest := rfl

lemma sigmaSites_of_ne {c : Char} (hc : c ≠ 'Σ') (before rest : List Char) :
    sigmaSites before (c :: rest) = sigmaSites (c :: before) rest := by
  rw [sigmaSites, if_neg hc, List.nil_append]

/-! ### Texts between others -/

/-- The lower case form of the characters of a text between `before`, nearest character first, and
`after`. -/
def lowerBetween (before : List Char) : List Char → List Char → List Char
  | [],        _     => []
  | c :: rest, after =>
    (if c = 'Σ' then [lowerSigma before (rest ++ after)] else lowerChar c) ++
      lowerBetween (c :: before) rest after

lemma lowerAfter_append (before cs after : List Char) :
    lowerAfter before (cs ++ after) =
      lowerBetween before cs after ++ lowerAfter (cs.reverse ++ before) after := by
  induction cs generalizing before with
  | nil => rfl
  | cons c cs ih =>
    rw [List.cons_append, lowerAfter, ih, lowerBetween, List.append_assoc, List.reverse_cons,
      List.append_assoc, List.singleton_append]

lemma lowerList_eq_lowerBetween (cs : List Char) : lowerList cs = lowerBetween [] cs [] := by
  have h := lowerAfter_append [] cs []
  rw [List.append_nil, lowerAfter_nil, List.append_nil] at h
  exact h

section

variable {before cs b a b' a' : List Char} {x : Char}

/-- Where each capital sigma has one form in two surroundings, so has the text. -/
lemma lowerBetween_congr
    (h : ∀ s ∈ sigmaSites before cs, (s.within b a).sigma = (s.within b' a').sigma) :
    lowerBetween (before ++ b) cs a = lowerBetween (before ++ b') cs a' := by
  induction cs generalizing before with
  | nil => rfl
  | cons c cs ih =>
    rw [lowerBetween, lowerBetween]
    by_cases hc : c = 'Σ'
    · subst hc
      rw [sigmaSites_sigma, List.forall_mem_cons] at h
      have hhead : lowerSigma (before ++ b) (cs ++ a) = lowerSigma (before ++ b') (cs ++ a') := h.1
      rw [if_pos rfl, if_pos rfl, hhead]
      exact congrArg _ (ih h.2)
    · rw [sigmaSites_of_ne hc] at h
      rw [if_neg hc, if_neg hc]
      exact congrArg _ (ih h)

/-- How often a character stands in a text in lower case, its capital sigmas left out. -/
def countBesides (x : Char) (cs : List Char) : Nat :=
  (cs.flatMap fun c => if c = 'Σ' then [] else lowerChar c).count x

/-- Surroundings change how often a character stands in a text by its capital sigmas alone. -/
lemma count_lowerBetween (x : Char) (before cs b a : List Char) :
    (lowerBetween (before ++ b) cs a).count x =
      countBesides x cs + (sigmaSites before cs).countP fun s => (s.within b a).sigma == x := by
  induction cs generalizing before with
  | nil => rfl
  | cons c cs ih =>
    rw [lowerBetween, List.count_append, ← List.cons_append, ih, countBesides, countBesides,
      List.flatMap_cons, List.count_append]
    by_cases hc : c = 'Σ'
    · subst hc
      rw [sigmaSites_sigma, List.countP_cons, if_pos rfl, if_pos rfl, List.count_singleton]
      simp only [Site.within, Site.sigma, List.count_nil, beq_iff_eq]
      omega
    · rw [sigmaSites_of_ne hc, if_neg hc, if_neg hc]
      omega

lemma countP_lt_countP {α : Type} {p q : α → Bool} {l : List α} (h : ∀ s ∈ l, p s → q s)
    (hlt : ∃ s ∈ l, p s = false ∧ q s = true) : l.countP p < l.countP q := by
  obtain ⟨s, hs, hp, hq⟩ := hlt
  obtain ⟨l₁, l₂, rfl⟩ := List.append_of_mem hs
  have h₁ : l₁.countP p ≤ l₁.countP q :=
    List.countP_mono_left fun t ht => h t (List.mem_append_left _ ht)
  have h₂ : l₂.countP p ≤ l₂.countP q :=
    List.countP_mono_left fun t ht => h t (List.mem_append_right _ (List.mem_cons_of_mem _ ht))
  simp only [List.countP_append, List.countP_cons, hp, hq]
  simp
  omega

/-- If a capital sigma has the form `x` on its own and not between two other texts, and none has
`x` only there, then `x` is rarer there. -/
lemma count_lowerBetween_lt
    (h : ∀ s ∈ sigmaSites [] cs, (s.within b a).sigma = x → s.sigma = x)
    (hlt : ∃ s ∈ sigmaSites [] cs, (s.within b a).sigma ≠ x ∧ s.sigma = x) :
    (lowerBetween b cs a).count x < (lowerList cs).count x := by
  have hown : ∀ s : Site, s.within [] [] = s := fun s => by simp [Site.within]
  have hthere := count_lowerBetween x [] cs b a
  have halone := count_lowerBetween x [] cs [] []
  simp only [hown] at halone
  rw [List.nil_append] at hthere halone
  rw [lowerList_eq_lowerBetween, hthere, halone]
  apply Nat.add_lt_add_left
  apply countP_lt_countP
  · simpa using h
  · simpa using hlt

end

/-! ### Parts -/

/-- The capital sigmas of `w` have the same form between `u` and `v` as on their own. -/
def KeepsSigmas (u w v : List Char) : Prop :=
  ∀ s ∈ sigmaSites [] w, (s.within u.reverse v).sigma = s.sigma

instance (u w v : List Char) : Decidable (KeepsSigmas u w v) :=
  inferInstanceAs (Decidable (∀ s ∈ sigmaSites [] w, _))

/-- The capital sigmas of a text have the same form in any surroundings. -/
def SigmasSettled (w : List Char) : Prop := ∀ s ∈ sigmaSites [] w, s.Settled

instance : DecidablePred SigmasSettled :=
  fun w => inferInstanceAs (Decidable (∀ s ∈ sigmaSites [] w, _))

variable {u w v : List Char}

lemma SigmasSettled.keepsSigmas (h : SigmasSettled w) (u v : List Char) : KeepsSigmas u w v :=
  fun s hs => (h s hs).sigma_within u.reverse v

lemma lowerList_append_append (u w v : List Char) : lowerList (u ++ w ++ v) =
    lowerBetween [] u (w ++ v) ++ lowerBetween u.reverse w v ++
      lowerAfter (w.reverse ++ u.reverse) v := by
  rw [lowerList, List.append_assoc, lowerAfter_append, List.append_nil, lowerAfter_append,
    List.append_assoc]

/-- A part whose capital sigmas keep their form is found in lower case where it stands. -/
lemma KeepsSigmas.isInfix (h : KeepsSigmas u w v) : lowerList w <:+: lowerList (u ++ w ++ v) := by
  have hsame : lowerBetween u.reverse w v = lowerBetween [] w [] := by
    refine lowerBetween_congr fun s hs => (h s hs).trans ?_
    simp [Site.within]
  rw [lowerList_append_append, lowerList_eq_lowerBetween, hsame]
  exact List.infix_append _ _ _

/-- A part that holds a character more often on its own than all of a text does is not found. -/
lemma not_infix_of_rarer {x : Char}
    (hpart : (lowerBetween u.reverse w v).count x < (lowerList w).count x)
    (hfirst : (lowerBetween [] u (w ++ v)).count x = 0)
    (hlast : (lowerAfter (w.reverse ++ u.reverse) v).count x = 0) :
    ¬ lowerList w <:+: lowerList (u ++ w ++ v) := by
  intro hinfix
  have hle := hinfix.sublist.count_le x
  rw [lowerList_append_append, List.count_append, List.count_append, hfirst, hlast] at hle
  omega

lemma nearestCase_letter : nearestCase ['a'] = some true := by decide +kernel

/-- A letter behind a word turns a final sigma at its end into an inner one. -/
lemma not_infix_before_letter {s : Site} (hs : s ∈ sigmaSites [] w)
    (hbefore : nearestCase s.before = some true) (hafter : nearestCase s.after = none) :
    ¬ lowerList w <:+: lowerList ([] ++ w ++ ['a']) := by
  apply not_infix_of_rarer (x := 'ς') (count_lowerBetween_lt _ _) rfl rfl
  · intro t _
    simp only [Site.sigma_eq_final_iff, Site.within, nearestCase_append, nearestCase_letter]
    cases nearestCase t.after <;> simp [nearestCase]
  · refine ⟨s, hs, ?_⟩
    simp [Site.sigma_eq_final_iff, Site.within, nearestCase_append, nearestCase_letter, hbefore,
      hafter]

/-- A letter in front of a word turns an inner sigma at its start into a final one. -/
lemma not_infix_behind_letter {s : Site} (hs : s ∈ sigmaSites [] w)
    (hbefore : nearestCase s.before = none) (hafter : nearestCase s.after ≠ some true) :
    ¬ lowerList w <:+: lowerList (['a'] ++ w ++ []) := by
  apply not_infix_of_rarer (x := 'σ') (count_lowerBetween_lt _ _) rfl rfl
  · intro t _
    simp only [Site.sigma_eq_inner_iff, Site.within, nearestCase_append, List.reverse_singleton,
      nearestCase_letter]
    cases nearestCase t.before <;> simp [nearestCase]
  · refine ⟨s, hs, ?_⟩
    simp [Site.sigma_eq_inner_iff, Site.within, nearestCase_append, nearestCase_letter, hbefore,
      hafter]

/-- The words that are found in lower case wherever they stand are those whose capital sigmas are
settled. -/
lemma sigmasSettled_iff :
    SigmasSettled w ↔ ∀ u v, lowerList w <:+: lowerList (u ++ w ++ v) := by
  constructor
  · intro h u v
    exact (h.keepsSigmas u v).isInfix
  · intro h s hs
    by_contra hsettled
    rcases Site.cases_of_not_settled hsettled with ⟨hbefore, hafter⟩ | ⟨hbefore, hafter⟩
    · exact not_infix_before_letter hs hbefore hafter (h [] ['a'])
    · exact not_infix_behind_letter hs hbefore hafter (h ['a'] [])

end CardSearch.Text
