import CardSearch.Proofs.Query.Shape

/-!
# What is kept of a query

Some characters of a query are marks: blanks, parentheses, bars, quotes, negations, backslashes of
escapes. The others are its `content`, and they come back as the texts of the leaves of its tree,
`Term.leafText`.

What a scanner has `kept` is the text of all its terms, from the outermost group inwards, and then
of the leaf that is being typed. Where nothing is wrong, a character is added to it if it is
content and changes nothing else. So a strict scan loses no content on the way; all that it can
lose is a filter prefix that waits for its word at the end of the query.
-/

namespace CardSearch

namespace Term

mutual
/-- The texts of the leaves of a term, from left to right. -/
def leafText : Term → List Char
  | .name word          => word.toList
  | .neg t              => t.leafText
  | .filter a _ op word => a.toList ++ op.toList ++ word.toList
  | .or l r             => l.leafText ++ r.leafText
  | .group ts           => leafTextAll ts

/-- The texts of the leaves of some terms. -/
def leafTextAll : List Term → List Char
  | []      => []
  | t :: ts => t.leafText ++ leafTextAll ts
end

@[simp] lemma leafTextAll_append (ts us : List Term) :
    leafTextAll (ts ++ us) = leafTextAll ts ++ leafTextAll us := by
  induction ts with
  | nil => rfl
  | cons t ts ih => rw [List.cons_append, leafTextAll, leafTextAll, ih, List.append_assoc]

end Term

namespace Query

namespace Scanner

variable (registry : Registry) (s : Scanner) (position : Nat) (c : Char) (cs : List Char)

/-! ### Content -/

/-- Whether a character is typed for its own sake. -/
def isContent : Bool :=
  match s.quoting with
  | .escaping _ => true
  | .inside _   => !(['\\', '"'].contains c)
  | .outside    =>
    !(['(', ')', '|', ' ', '\t', '\n', '"'].contains c) &&
      !(c == '!' && s.pre.isNone && s.word.isEmpty)

/-- The content from a position on, as a lenient scan meets it. -/
def content (s : Scanner) (position : Nat) : List Char → List Char
  | []      => []
  | c :: cs =>
    (if s.isContent c then [c] else []) ++
      match s.step .lenient registry position c with
      | .error _ => []
      | .ok s    => s.content (position + 1) cs

/-- The roles of content. -/
def Role.isContent : Role → Bool
  | .escaped  => true
  | .quoted   => true
  | .operator => true
  | .letter   => true
  | _         => false

lemma isContent_eq_isContent_role : s.isContent c = (s.role c).isContent := by
  cases hq : s.quoting with
  | escaping _ => simp only [isContent, role, hq, Role.isContent]
  | inside _ =>
    simp only [isContent, role, hq]
    by_cases hb : c = '\\' <;> by_cases hd : c = '"' <;> simp [hb, hd, Role.isContent]
  | outside =>
    simp only [isContent, role, hq, plainRole]
    split
    case h_4 => by_cases hw : s.word = "" <;> cases s.pre <;> simp [hw, Role.isContent]
    all_goals simp_all [Role.isContent]

lemma content_cons :
    s.content registry position (c :: cs) =
      (if s.isContent c then [c] else []) ++
        (s.advance registry position c).content registry (position + 1) cs := by
  rw [content, step_lenient]

/-! ### What is kept -/

/-- The texts of all terms, from the outermost group inwards, and of the leaf being typed. -/
def kept : List Char :=
  s.enclosing.reverse.flatMap (fun e => Term.leafTextAll e.before.reverse) ++
    (Term.leafTextAll s.terms.reverse ++ s.typed.toList)

lemma kept_push : (s.push c).kept = s.kept ++ [c] := by
  cases hp : s.pre <;> simp [kept, typed, push, hp]

lemma kept_operator : (s.operator c).kept = s.kept ++ [c] := by
  rcases s.operator_cases c with ho | ⟨-, hp, ho⟩ | ⟨p, hw, hp, ho⟩ <;> rw [ho]
  · exact s.kept_push c
  · simp [kept, typed, hp]
  · simp [kept, typed, hp, hw]

lemma leafText_leaf : (s.leaf registry).leafText = s.typed.toList := by
  have hbare : (s.bareLeaf registry).leafText = s.typed.toList := by
    rw [bareLeaf, typed]
    cases s.pre <;> simp [Term.leafText]
  rw [leaf]
  split_ifs
  · exact hbare
  · exact hbare

lemma leafTextAll_joined (bar : Option Nat) (terms : List Term) (leaf : Term) :
    Term.leafTextAll (joined bar terms leaf).reverse =
      Term.leafTextAll terms.reverse ++ leaf.leafText := by
  rcases joined_cases bar terms leaf with hj | ⟨left, rest, rfl, hj⟩
  · rw [hj, List.reverse_cons]
    simp [Term.leafTextAll]
  · rw [hj, List.reverse_cons, List.reverse_cons]
    simp [Term.leafTextAll, Term.leafText]

lemma kept_completed : (s.completed registry).kept = s.kept := by
  by_cases hw : s.word = ""
  · rw [completed_of_word_eq_empty registry s hw]
  · rw [completed_of_word_ne_empty registry s hw]
    simp [kept, attached, leafTextAll_joined, leafText_leaf, typed]

lemma kept_openGroup : (s.openGroup position).kept = s.kept := by
  simp [kept, openGroup, typed, Term.leafTextAll]

lemma kept_closeInnermost (h : ¬ s.ClosesBadly) : s.closeInnermost.kept = s.kept := by
  simp only [ClosesBadly, not_or, not_not] at h
  obtain ⟨hw, hp, -, -, he⟩ := h
  rw [closeInnermost]
  cases hes : s.enclosing with
  | nil => exact absurd hes he
  | cons e es => simp [kept, typed, hw, hp, hes, Term.leafTextAll, Term.leafText]

/-! ### Steps and runs -/

/-- Where nothing is wrong, a character is kept if it is content and changes nothing else. -/
lemma kept_advance (h : s.stepFault? position c = none) :
    (s.advance registry position c).kept = s.kept ++ if s.isContent c then [c] else [] := by
  rw [isContent_eq_isContent_role]
  rw [advance]
  cases hr : s.role c <;>
    simp only [Role.isContent, Bool.false_eq_true, reduceIte, List.append_nil]
  case escaped => exact s.kept_push c
  case quoted => exact s.kept_push c
  case operator => exact s.kept_operator c
  case letter => exact s.kept_push c
  case openGroup => rw [kept_openGroup, kept_completed]
  case closeGroup =>
    rw [stepFault?_eq_none_iff, ← role_eq_closeGroup_iff] at h
    exact s.kept_closeInnermost (h.1 hr)
  case blank => exact s.kept_completed registry
  -- the rest is marks, which are not part of what is kept
  all_goals rfl

lemma kept_after (h : s.Faultless registry position cs) :
    (s.after registry position cs).kept = s.kept ++ s.content registry position cs := by
  induction cs generalizing s position with
  | nil => simp [content]
  | cons c cs ih =>
    rw [after_cons, ih _ _ h.2, kept_advance registry s position c h.1, content_cons,
      List.append_assoc]

lemma kept_start : start.kept = [] := by simp [kept, start, typed, Term.leafTextAll]

/-! ### The end of a query -/

variable {s} in
/-- Once the word is finished, all that can still be typed is a filter prefix. -/
lemma Shaped.typed_completed_eq_empty_iff (h : s.Shaped registry) :
    (s.completed registry).typed = "" ↔ (s.completed registry).pre = none := by
  have hw : (s.completed registry).word = "" := s.word_completed registry
  rw [typed]
  cases hp : (s.completed registry).pre with
  | none => simp [hw]
  | some p => simp [(h.completed.pre p hp).name]

variable {s} in
lemma kept_eq_of_not_leftOpen (h : ¬ s.LeftOpen) :
    s.kept = (Term.group s.rootTerms).leafText ++ s.typed.toList := by
  have he : s.enclosing = [] := by
    by_contra he
    exact h (.inl he)
  simp [kept, rootTerms, he, Term.leafText]

end Scanner

/-- The content of a query. -/
def content (registry : Registry) (query : String) : List Char :=
  Scanner.start.content registry 0 query.toList

/-- What strict mode accepts comes back as the texts of the leaves, up to a filter prefix that still
waits for a word when the last word is finished. Nothing is lost exactly if there is none. -/
theorem content_eq_leafText_append {registry : Registry} {query : String} {t : Term}
    (h : parseStrict registry query = .ok t) :
    ∃ s s', Reaches registry query.toList s ∧ s.completeWord .lenient registry = .ok s' ∧
      content registry query = t.leafText ++ s'.typed.toList ∧
      (t.leafText = content registry query ↔ s'.pre = none) := by
  obtain ⟨⟨hfaultless, hfinish⟩, rfl⟩ := (parseStrict_eq_ok_iff registry query t).mp h
  obtain ⟨-, -, hopen⟩ := (Scanner.finishFault?_eq_none_iff registry _ _).mp hfinish
  refine ⟨_, _, reaches_iff.mpr rfl, Scanner.completeWord_lenient registry _, ?_⟩
  have hkept := Scanner.kept_after registry _ _ _ hfaultless
  rw [Scanner.kept_start, List.nil_append, ← Scanner.kept_completed registry,
    Scanner.kept_eq_of_not_leftOpen hopen, ← parse_eq] at hkept
  have hshaped := (Scanner.shaped_start registry).after 0 query.toList
  refine ⟨hkept.symm, ?_⟩
  rw [← hshaped.typed_completed_eq_empty_iff, content, ← hkept, List.self_eq_append_right,
    String.toList_eq_nil_iff]

/-- In a query that ends with a finished word, every character of content is in a leaf. -/
theorem content_eq_leafText_append_finished :
    ∃ t, parseStrict Registry.builtin "(a !r:\"b \\\" c\" ) | d" = .ok t ∧
      t.leafText = ['a', 'r', ':', 'b', ' ', '"', ' ', 'c', 'd'] ∧
      ∃ s s', Reaches Registry.builtin "(a !r:\"b \\\" c\" ) | d".toList s ∧
        s.completeWord .lenient Registry.builtin = .ok s' ∧
        content Registry.builtin "(a !r:\"b \\\" c\" ) | d" = t.leafText ++ s'.typed.toList ∧
        (t.leafText = content Registry.builtin "(a !r:\"b \\\" c\" ) | d" ↔ s'.pre = none) := by
  refine ⟨.group [.or (.group [.name "a",
    .neg (.filter "r" (Registry.builtin.lookup "r") ":" "b \" c")]) (.name "d")], rfl, rfl, ?_⟩
  exact content_eq_leafText_append rfl

/-- Strict mode accepts a filter prefix that no word follows, and the tree has nothing of it. -/
theorem leafText_ne_content_of_dangling_prefix :
    parseStrict Registry.builtin "r:" = .ok (.group []) ∧
      (Term.group []).leafText ≠ content Registry.builtin "r:" := by
  refine ⟨rfl, ?_⟩
  rw [show content Registry.builtin "r:" = ['r', ':'] from rfl]
  exact List.cons_ne_nil _ _ ∘ Eq.symm

end Query

end CardSearch
