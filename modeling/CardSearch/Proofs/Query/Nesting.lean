import CardSearch.Proofs.Query.History
import Mathlib.Order.Bounds.Defs

/-!
# Parentheses that belong together

The `brackets` of a query are its parentheses outside quotes. A `)` closes a `(` if the parentheses
between them pair up, and a `(` that no `)` closes is `Unclosed`.

A scan keeps the groups that are open as a stack. As long as there are no more `)` than `(` after a
place, the groups that were open there stay open; where they are equally many, no others are. So
the outermost group that is open at the end of a scan was opened by the first parenthesis that is
not closed.
-/

namespace CardSearch.Query

/-! ### Pairs of parentheses -/

/-- Parentheses that pair up. -/
structure Balanced (bs : List Char) : Prop where
  /-- None closes what was opened before. -/
  nested : ∀ x, x <+: bs → x.count ')' ≤ x.count '('
  /-- As many are closed as are opened. -/
  paired : bs.count ')' = bs.count '('

/-- No `)` closes what was opened before some parentheses. -/
def StaysOpen (bs : List Char) : Prop := ∀ x y, bs = x ++ ')' :: y → ¬ Balanced x

lemma StaysOpen.of_append {x y : List Char} (h : StaysOpen (x ++ y)) : StaysOpen x := by
  intro u v hx
  exact h u (v ++ y) (by simp [hx])

/-- What stays open is never outnumbered: the first `)` too many would close it. -/
lemma StaysOpen.count_le {bs : List Char} (h : StaysOpen bs) :
    ∀ x, x <+: bs → x.count ')' ≤ x.count '(' := by
  induction bs using List.reverseRecOn with
  | nil => simp
  | append_singleton bs b ih =>
    have hbs := ih h.of_append
    intro x hx
    rcases List.prefix_concat_iff.mp hx with rfl | hx
    · have hle := hbs bs List.prefix_rfl
      by_cases hb : b = ')'
      · subst hb
        have hne : bs.count ')' ≠ bs.count '(' := fun heq => h bs [] rfl ⟨hbs, heq⟩
        simp only [List.count_append, List.count_singleton_self]
        have hzero : [')'].count '(' = 0 := rfl
        omega
      · have hzero : [b].count ')' = 0 := by simp [hb]
        simp only [List.count_append, hzero]
        omega
    · exact hbs x hx

namespace Scanner

variable (registry : Registry) (s : Scanner) (position : Nat) (c : Char) (cs : List Char)

/-! ### The parentheses of a query -/

/-- The parenthesis that a character is, if it stands outside quotes. -/
def bracket : List Char :=
  if s.quoting = .outside ∧ (c = '(' ∨ c = ')') then [c] else []

/-- The parentheses outside quotes from a position on, as a lenient scan meets them. -/
def brackets (s : Scanner) (position : Nat) : List Char → List Char
  | []      => []
  | c :: cs =>
    s.bracket c ++
      match s.step .lenient registry position c with
      | .error _ => []
      | .ok s    => s.brackets (position + 1) cs

lemma brackets_cons :
    s.brackets registry position (c :: cs) =
      s.bracket c ++ (s.advance registry position c).brackets registry (position + 1) cs := by
  rw [brackets, step_lenient]

lemma brackets_append (u v : List Char) :
    s.brackets registry position (u ++ v) =
      s.brackets registry position u ++
        (s.after registry position u).brackets registry (position + u.length) v := by
  induction u generalizing s position with
  | nil => rfl
  | cons c u ih =>
    rw [List.cons_append, brackets_cons, brackets_cons, ih, after_cons, List.append_assoc,
      List.length_cons, Nat.add_assoc, Nat.add_comm 1]

lemma brackets_concat :
    s.brackets registry position (cs ++ [c]) =
      s.brackets registry position cs ++ (s.after registry position cs).bracket c := by
  rw [brackets_append, brackets_cons, brackets, List.append_nil]

/-- Every parenthesis of a query is one of its characters, outside quotes. -/
lemma exists_of_brackets_eq {x y : List Char} {b : Char}
    (h : s.brackets registry position cs = x ++ b :: y) :
    ∃ u v, cs = u ++ b :: v ∧ s.brackets registry position u = x ∧
      (s.after registry position u).quoting = .outside := by
  induction cs generalizing s position x with
  | nil => simp [brackets] at h
  | cons c cs ih =>
    rw [brackets_cons] at h
    by_cases hc : s.quoting = .outside ∧ (c = '(' ∨ c = ')')
    · rw [bracket, if_pos hc, List.singleton_append] at h
      cases x with
      | nil =>
        obtain ⟨rfl, -⟩ := List.cons.inj h
        exact ⟨[], cs, rfl, rfl, hc.1⟩
      | cons d x =>
        obtain ⟨rfl, hrest⟩ := List.cons.inj h
        obtain ⟨u, v, rfl, hu, ho⟩ := ih _ _ hrest
        refine ⟨c :: u, v, rfl, ?_, ho⟩
        rw [brackets_cons, hu, bracket, if_pos hc, List.singleton_append]
    · rw [bracket, if_neg hc, List.nil_append] at h
      obtain ⟨u, v, rfl, hu, ho⟩ := ih _ _ h
      refine ⟨c :: u, v, rfl, ?_, ho⟩
      rw [brackets_cons, hu, bracket, if_neg hc, List.nil_append]

/-! ### The groups that are open -/

lemma bracket_eq :
    s.bracket c =
      if s.role c = .openGroup then ['('] else if s.role c = .closeGroup then [')'] else [] := by
  rw [bracket]
  simp only [role_eq_openGroup_iff, role_eq_closeGroup_iff]
  by_cases hq : s.quoting = .outside
  · by_cases hopen : c = '('
    · simp [hq, hopen]
    · by_cases hclose : c = ')' <;> simp [hq, hopen, hclose]
  · simp [hq]

/-- A `(` puts a group on the stack, a `)` takes one off, and nothing else touches it. -/
lemma bracket_cases :
    (s.bracket c = ['('] ∧ (s.advance registry position c).enclosing =
      ⟨position, (s.completed registry).terms⟩ :: s.enclosing) ∨
    (s.bracket c = [')'] ∧ (s.advance registry position c).enclosing = s.enclosing.tail) ∨
    (s.bracket c = [] ∧ (s.advance registry position c).enclosing = s.enclosing) := by
  rw [bracket_eq, enclosing_advance]
  cases s.role c
  case openGroup => exact .inl ⟨rfl, rfl⟩
  case closeGroup => exact .inr (.inl ⟨rfl, rfl⟩)
  all_goals exact .inr (.inr ⟨rfl, rfl⟩)

/-- As long as there are no more `)` than `(`, the groups that were open stay open. -/
lemma exists_enclosing_after (h : ∀ x, x <+: s.brackets registry position cs →
      x.count ')' ≤ x.count '(') :
    ∃ es, (s.after registry position cs).enclosing = es ++ s.enclosing ∧
      es.length + (s.brackets registry position cs).count ')' =
        (s.brackets registry position cs).count '(' := by
  induction cs using List.reverseRecOn with
  | nil => exact ⟨[], rfl, rfl⟩
  | append_singleton cs c ih =>
    rw [brackets_concat] at h ⊢
    obtain ⟨es, hes, hlength⟩ := ih fun x hx => h x (hx.trans (List.prefix_append _ _))
    rw [after_concat]
    rcases bracket_cases registry (s.after registry position cs) (position + cs.length) c with
      ⟨hb, he⟩ | ⟨hb, he⟩ | ⟨hb, he⟩
    · refine ⟨_ :: es, by rw [he, hes, List.cons_append], ?_⟩
      rw [hb, List.count_append, List.count_append, List.length_cons]
      have hopens : ['('].count '(' = 1 ∧ ['('].count ')' = 0 := by decide
      omega
    · -- the `)` is not one too many, so it closes a group that was opened after them
      have hle := h _ List.prefix_rfl
      rw [hb, List.count_append, List.count_append] at hle
      have hcloses : [')'].count '(' = 0 ∧ [')'].count ')' = 1 := by decide
      cases es with
      | nil =>
        rw [List.length_nil] at hlength
        omega
      | cons e es =>
        rw [List.length_cons] at hlength
        refine ⟨es, by rw [he, hes]; rfl, ?_⟩
        rw [hb, List.count_append, List.count_append]
        omega
    · rw [hb, List.append_nil]
      exact ⟨es, by rw [he, hes], hlength⟩

/-- The groups that are open after some characters were open before or were opened by them. -/
lemma mem_enclosing_after {e : Enclosing} (he : e ∈ (s.after registry position cs).enclosing) :
    e ∈ s.enclosing ∨ position ≤ e.opened := by
  induction cs generalizing s position with
  | nil => exact .inl he
  | cons c cs ih =>
    rcases ih _ _ he with he | he
    · rcases bracket_cases registry s position c with ⟨-, hs⟩ | ⟨-, hs⟩ | ⟨-, hs⟩ <;> rw [hs] at he
      · rcases List.mem_cons.mp he with rfl | he
        · exact .inr (Nat.le_refl _)
        · exact .inl he
      · exact .inl (List.mem_of_mem_tail he)
      · exact .inl he
    · exact .inr (Nat.le_of_succ_le he)

end Scanner

/-! ### Parentheses that are not closed -/

/-- The parentheses of a query outside quotes. -/
def brackets (registry : Registry) (cs : List Char) : List Char :=
  Scanner.start.brackets registry 0 cs

/-- A character stands outside quotes at a position of a query. -/
def Unquoted (registry : Registry) (cs : List Char) (p : Nat) (c : Char) : Prop :=
  ∃ u v s, cs = u ++ c :: v ∧ u.length = p ∧ Reaches registry u s ∧ s.quoting = .outside

/-- At a position of a query stands a `(` that no `)` closes. -/
structure Unclosed (registry : Registry) (cs : List Char) (p : Nat) : Prop where
  opens : Unquoted registry cs p '('
  /-- Among the parentheses after it, none closes it. -/
  staysOpen : ∃ later, brackets registry cs = brackets registry (cs.take (p + 1)) ++ later ∧
    StaysOpen later

open Scanner

variable {registry : Registry} {cs : List Char} {p : Nat} {c : Char}

lemma unquoted_iff :
    Unquoted registry cs p c ↔
      ∃ u v, cs = u ++ c :: v ∧ u.length = p ∧ (start.after registry 0 u).quoting = .outside := by
  constructor
  · rintro ⟨u, v, s, hcs, hp, hs, ho⟩
    obtain rfl := reaches_iff.mp hs
    exact ⟨u, v, hcs, hp, ho⟩
  · rintro ⟨u, v, hcs, hp, ho⟩
    exact ⟨u, v, _, hcs, hp, reaches_iff.mpr rfl, ho⟩

lemma after_append_cons (u : List Char) (c : Char) (v : List Char) :
    start.after registry 0 (u ++ c :: v) =
      (start.after registry 0 (u ++ [c])).after registry (u.length + 1) v := by
  rw [List.append_cons, after_append, List.length_append, Nat.zero_add]
  rfl

lemma brackets_append_cons (u : List Char) (c : Char) (v : List Char) :
    brackets registry (u ++ c :: v) =
      brackets registry ((u ++ c :: v).take (u.length + 1)) ++
        (start.after registry 0 (u ++ [c])).brackets registry (u.length + 1) v := by
  have htake : (u ++ c :: v).take (u.length + 1) = u ++ [c] := by
    rw [List.take_length_add_append, List.take_succ_cons, List.take_zero]
  rw [htake, List.append_cons, brackets, brackets_append, List.length_append, Nat.zero_add]
  rfl

lemma unclosed_iff :
    Unclosed registry cs p ↔
      ∃ u v, cs = u ++ '(' :: v ∧ u.length = p ∧ (start.after registry 0 u).quoting = .outside ∧
        StaysOpen ((start.after registry 0 (u ++ ['('])).brackets registry (u.length + 1) v) := by
  constructor
  · rintro ⟨hopens, later, heq, hstays⟩
    obtain ⟨u, v, rfl, rfl, ho⟩ := unquoted_iff.mp hopens
    rw [brackets_append_cons, List.append_cancel_left_eq] at heq
    exact ⟨u, v, rfl, rfl, ho, heq ▸ hstays⟩
  · rintro ⟨u, v, rfl, rfl, ho, hstays⟩
    exact ⟨unquoted_iff.mpr ⟨u, v, rfl, rfl, ho⟩, _, brackets_append_cons u '(' v, hstays⟩

lemma enclosing_after_open {u : List Char} (ho : (start.after registry 0 u).quoting = .outside) :
    (start.after registry 0 (u ++ ['('])).enclosing =
      ⟨u.length, ((start.after registry 0 u).completed registry).terms⟩ ::
        (start.after registry 0 u).enclosing := by
  rw [after_concat, advance_open _ _ ho, openGroup, enclosing_completed, Nat.zero_add]

/-- Where a `(` stays open, its group and those around it are open at the end. -/
lemma StaysOpen.enclosing_ne_nil {u v : List Char}
    (ho : (start.after registry 0 u).quoting = .outside)
    (h : StaysOpen ((start.after registry 0 (u ++ ['('])).brackets registry (u.length + 1) v)) :
    (start.after registry 0 (u ++ '(' :: v)).enclosing ≠ [] := by
  obtain ⟨es, hes, -⟩ := exists_enclosing_after registry _ _ v h.count_le
  rw [after_append_cons, hes, enclosing_after_open ho]
  simp

/-- Where a `(` opens the outermost group and stays open no longer than a `)`, what is open at the
end was opened later. -/
lemma lt_opened_of_not_staysOpen {u v : List Char} {e : Enclosing}
    (ho : (start.after registry 0 u).quoting = .outside)
    (hnone : (start.after registry 0 u).enclosing = [])
    (h : ¬ StaysOpen ((start.after registry 0 (u ++ ['('])).brackets registry (u.length + 1) v))
    (he : e ∈ (start.after registry 0 (u ++ '(' :: v)).enclosing) : u.length < e.opened := by
  simp only [StaysOpen, not_forall, not_not] at h
  obtain ⟨inner, rest, heq, hbalanced⟩ := h
  obtain ⟨w, v', rfl, rfl, how⟩ := exists_of_brackets_eq _ _ _ _ heq
  obtain ⟨es, hes, hlength⟩ := exists_enclosing_after registry _ _ w hbalanced.nested
  obtain rfl : es = [] := by
    rw [hbalanced.paired, Nat.add_eq_right, List.length_eq_zero_iff] at hlength
    exact hlength
  rw [enclosing_after_open ho, hnone, List.nil_append] at hes
  -- the `)` takes the only group off the stack
  rw [after_append_cons, after_append, after_cons, advance_close _ _ how] at he
  rcases mem_enclosing_after registry _ _ _ he with he | hle
  · simp [closeInnermost, hes] at he
  · omega

/-- The outermost group that is open at the end was opened by the first parenthesis that is not
closed. -/
lemma isLeast_unclosed {e : Enclosing}
    (he : (start.after registry 0 cs).enclosing.getLast? = some e) :
    IsLeast {p | Unclosed registry cs p} e.opened := by
  obtain ⟨u, v, rfl, hu, ho, hnone, -⟩ := exists_outermost_open registry cs he
  constructor
  · refine unclosed_iff.mpr ⟨u, v, rfl, hu, ho, ?_⟩
    by_contra hstays
    have hlt := lt_opened_of_not_staysOpen ho hnone hstays (List.mem_of_getLast? he)
    omega
  · intro p hp
    obtain ⟨u', v', heq, rfl, ho', hstays⟩ := unclosed_iff.mp hp
    by_contra hlt
    rcases List.append_eq_append_iff.mp heq with ⟨w, rfl, -⟩ | ⟨w, rfl, hw⟩
    · rw [List.length_append] at hlt
      omega
    · cases w with
      | nil =>
        rw [List.append_nil] at hu
        omega
      | cons d w =>
        rw [List.cons_append, List.cons.injEq] at hw
        obtain ⟨rfl, rfl⟩ := hw
        rw [brackets_append] at hstays
        exact hstays.of_append.enclosing_ne_nil ho' hnone

end CardSearch.Query
