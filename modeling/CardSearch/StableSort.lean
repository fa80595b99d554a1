/-!
# Stable sorting

Sorting puts values in order and leaves those that tie in the order in which they stand. A short
list is sorted by insertion. A longer one is cut into runs, stretches that are in order already or
are put in order one by one, and neighbouring runs are merged until one is left. In a long list the
stretches between its own runs stay as they are at first: where two of them meet they are joined,
and what has become of them in the end is divided at a pivot.

Short stretches are merged from both ends at once. The two ends meet somewhere if the comparison
is consistent. If they do not meet the comparison contradicts itself, and there is no result. Some
comparisons that contradict themselves are not noticed; then the values come in some order.
-/

namespace CardSearch.StableSort

variable {α : Type} (less : α → α → Bool)

/-- Whether two values can stay in the order in which they stand. -/
def inOrder (a b : α) : Bool := !less b a

/-! ### Insertion -/

/-- Puts a value behind those that are not greater. The list is written from its end. -/
def insertBack (x : α) : List α → List α
  | []      => [x]
  | y :: ys => if less x y then y :: insertBack x ys else x :: y :: ys

/-- Puts further values into a sorted list, one after the other. -/
def insertAll (sorted further : List α) : List α :=
  (further.foldl (fun back x => insertBack less x back) sorted.reverse).reverse

/-! ### Merging -/

/-- Merges two neighbouring sorted lists, from the front if the first one is not the longer one,
and else from the end. -/
def merge (left right : List α) : List α :=
  if left.length ≤ right.length then left.merge right (inOrder less)
  else (right.reverse.merge left.reverse (inOrder fun a b => less b a)).reverse

/-- What was taken from the fronts of two lists, and what is left of them. -/
structure Taken (α : Type) where
  values : List α
  first : List α
  second : List α

/-- Takes so many values from the fronts of two lists, from the first one if its front can stand
before that of the second one. -/
def take (inOrder : α → α → Bool) : Nat → List α → List α → Taken α
  | n + 1, a :: as, b :: bs =>
    if inOrder a b then
      let t := take inOrder n as (b :: bs)
      { t with values := a :: t.values }
    else
      let t := take inOrder n (a :: as) bs
      { t with values := b :: t.values }
  | _, as, bs => ⟨[], as, bs⟩

/-- Merges two neighbouring sorted lists of one length, or of which the second one is longer by
one, from both ends at once. There is no result if more is taken from a list than there is. -/
def mergeBothEnds (left right : List α) : Option (List α) :=
  let front := take (inOrder less) left.length left right
  let back := take (inOrder fun a b => less b a) left.length right.reverse left.reverse
  let restOfLeft := front.first.length + back.second.length
  let restOfRight := front.second.length + back.first.length
  if left.length ≤ restOfLeft ∧ right.length ≤ restOfRight then
    some (front.values ++ front.first.take (restOfLeft - left.length) ++
      front.second.take (restOfRight - right.length) ++ back.values.reverse)
  else none

/-! ### Short stretches -/

/-- Sorts two values. -/
def sortPair (a b : α) : α × α := if less b a then (b, a) else (a, b)

/-- Merges two sorted pairs. The first two comparisons tell the least value and the greatest one,
and which of the others stood before the other one. -/
def mergePairs : α × α → α × α → List α
  | (a, b), (c, d) =>
    let (least, lower, upper, greatest) := match less c a, less d b with
      | false, false => (a, b, c, d)
      | false, true  => (a, c, d, b)
      | true,  false => (c, a, b, d)
      | true,  true  => (c, a, d, b)
    if less upper lower then [least, upper, lower, greatest] else [least, lower, upper, greatest]

/-- Sorts four values. -/
def sortFour : List α → List α
  | [a, b, c, d] => mergePairs less (sortPair less a b) (sortPair less c d)
  | l            => l

/-- Sorts eight values. -/
def sortEight (l : List α) : Option (List α) :=
  mergeBothEnds less (sortFour less (l.take 4)) (sortFour less (l.drop 4))

/-- Sorts one half of so many values: some of them at once and the others by insertion. -/
def sortHalf (total : Nat) (l : List α) : Option (List α) :=
  if 16 ≤ total then (sortEight less (l.take 8)).map fun sorted => insertAll less sorted (l.drop 8)
  else if 8 ≤ total then some (insertAll less (sortFour less (l.take 4)) (l.drop 4))
  else some (insertAll less (l.take 1) (l.drop 1))

/-- The length of the stretches that are sorted by halves. -/
def shortLength : Nat := 32

/-- Sorts a short stretch. -/
def sortShort (l : List α) : Option (List α) := do
  let left ← sortHalf less l.length (l.take (l.length / 2))
  let right ← sortHalf less l.length (l.drop (l.length / 2))
  mergeBothEnds less left right

/-! ### Runs -/

/-- A stretch of a list. It need not be sorted yet. -/
structure Run (α : Type) where
  values : List α
  sorted : Bool

namespace Run

/-- The number of its values. -/
def length (r : Run α) : Nat := r.values.length

/-- Its values in order, where `finish` sorts what is not sorted yet. -/
def sort (finish : List α → Option (List α)) (r : Run α) : Option (List α) :=
  if r.sorted then some r.values else finish r.values

end Run

/-- The values that follow a value, as long as each one can follow the one before it, and the
others. -/
def chain (next : α → α → Bool) : α → List α → List α × List α
  | _, []     => ([], [])
  | a, b :: l =>
    if next a b then (b :: (chain next b l).1, (chain next b l).2) else ([], b :: l)

/-- The run that a list begins with, put in order, and the other values. It falls or never
falls. -/
def leadingRun (a : α) (l : List α) : List α × List α :=
  if l.head?.any (less · a) then
    ((a :: (chain (fun x y => less y x) a l).1).reverse, (chain (fun x y => less y x) a l).2)
  else (a :: (chain (inOrder less) a l).1, (chain (inOrder less) a l).2)

theorem length_chain_le (next : α → α → Bool) (a : α) (l : List α) :
    (chain next a l).2.length ≤ l.length := by
  induction l generalizing a with
  | nil => exact Nat.le_refl _
  | cons b l ih =>
    rw [chain]
    split
    · exact Nat.le_succ_of_le (ih b)
    · exact Nat.le_refl _

theorem length_leadingRun_le (a : α) (l : List α) : (leadingRun less a l).2.length ≤ l.length := by
  rw [leadingRun]
  split <;> exact length_chain_le _ a l

/-- Cuts a list into runs. One that is long enough is kept, and instead of a shorter one a stretch
of a given length is cut off. -/
def cut (enough stretch : Nat) : List α → List (Run α)
  | []     => []
  | a :: l =>
    if enough ≤ (leadingRun less a l).1.length then
      ⟨(leadingRun less a l).1, true⟩ :: cut enough stretch (leadingRun less a l).2
    else ⟨a :: l.take (stretch - 1), false⟩ :: cut enough stretch (l.drop (stretch - 1))
termination_by l => l.length
decreasing_by
  · exact Nat.lt_succ_of_le (length_leadingRun_le less a l)
  · exact Nat.lt_succ_of_le (l.length_drop ▸ Nat.sub_le _ _)

/-! ### Merging runs -/

section

variable (finish : List α → Option (List α))

/-- Joins two neighbouring runs. They are merged, unless neither is sorted and there is room for
both: then they become one that is not sorted either. -/
def join (room : Nat) (left right : Run α) : Option (Run α) :=
  if left.sorted || right.sorted || room < left.length + right.length then do
    let l ← left.sort finish
    let r ← right.sort finish
    return ⟨merge less l r, true⟩
  else some ⟨left.values ++ right.values, false⟩

/-- How deep the seam of two neighbouring stretches lies: how many binary digits the middles of the
stretches have in common. -/
def seamDepth (scale start seam stop : Nat) : Nat :=
  63 - ((scale * (start + seam)) ^^^ (scale * (seam + stop))).log2

/-- Joins a run with those before it whose seams lie at least so deep. Each run on the stack is
kept with the depth of the seam behind it. -/
def collapse (room depth : Nat) : List (Run α × Nat) → Run α → Option (List (Run α × Nat) × Run α)
  | [],                 last => some ([], last)
  | (left, d) :: stack, last =>
    if depth ≤ d then do collapse room depth stack (← join less finish room left last)
    else some ((left, d) :: stack, last)

/-- Joins all runs, at the deeper seams first. -/
def joinAll (room scale : Nat) :
    (start : Nat) → (stack : List (Run α × Nat)) → Run α → List (Run α) → Option (Run α)
  | _,     stack, last, []           => (collapse less finish room 0 stack last).map (·.2)
  | start, stack, last, next :: runs => do
    let seam := start + last.length
    let depth := seamDepth scale start seam (seam + next.length)
    let (stack, joined) ← collapse less finish room depth stack last
    joinAll room scale seam ((joined, depth) :: stack) next runs

/-- A number near the square root. -/
def nearRoot (n : Nat) : Nat :=
  let shift := (1 + n.log2) / 2
  ((1 <<< shift) + (n >>> shift)) / 2

/-- How long a run of a list of so many values has to be. -/
def longEnough (n : Nat) : Nat := if n ≤ 4096 then min (n - n / 2) 64 else nearRoot n

/-- How many values can be handled at once. -/
def roomFor (n : Nat) : Nat := max (n - n / 2) (min n 1000000)

/-- The runs that the sorting of a list starts with. Stretches that are not sorted are sorted at
once, as short ones, if the sort is eager, and else as late as possible. -/
def startingRuns (eager : Bool) (l : List α) : Option (List (Run α)) :=
  if eager then
    (cut less (longEnough l.length) shortLength l).mapM fun r =>
      (r.sort (sortShort less)).map fun vs => ⟨vs, true⟩
  else some (cut less (longEnough l.length) (longEnough l.length) l)

/-- Sorts a list by its runs. -/
def sortByRuns (eager : Bool) (l : List α) : Option (List α) := do
  match ← startingRuns less eager l with
  | []            => some []
  | first :: runs =>
    let scale := ((1 <<< 62) + l.length - 1) / l.length
    let all ← joinAll less finish (roomFor l.length) scale 0 [] first runs
    all.sort finish

end

/-! ### Dividing -/

/-- The middle one of three values. -/
def median (a b c : α) : α :=
  if less a b != less a c then a else if less b c == less a b then b else c

/-- A value to divide a list at. For a long list it is the median of three that stand for parts of
the list. -/
def pivot (first : α) (l : List α) : α :=
  if 8 ≤ l.length then
    let part := l.length / 8
    median less (pivot first (l.take part)) (pivot first ((l.drop (4 * part)).take part))
      (pivot first ((l.drop (7 * part)).take part))
  else l.headD first
termination_by l.length
decreasing_by all_goals grind

/-- Sorts a list by dividing it at a pivot, so many times in a row at most. Where a value is known
that none is less than, a pivot that is not greater stands for the least values. They are in order
then, as they are if none is less than the pivot. -/
def divide (limit : Nat) (bound : Option α) (l : List α) : Option (List α) :=
  if l.length ≤ shortLength then sortShort less l
  else match limit, l with
    | 0,         _          => sortByRuns less (sortShort less) true l
    | _,         []         => some []
    | limit + 1, first :: _ => do
      let p := pivot less first l
      let below := l.filter (less · p)
      if bound.any (inOrder less p) || below.isEmpty then
        let above ← divide limit none (l.filter fun x => less p x)
        return l.filter (inOrder less · p) ++ above
      else
        let lower ← divide limit bound below
        let upper ← divide limit (some p) (l.filter fun x => !less x p)
        return lower ++ upper

/-! ### Sorting -/

/-- The length of the lists that are sorted by insertion. -/
def insertionLength : Nat := 20

/-- Sorts a list. -/
def sort (l : List α) : Option (List α) :=
  if l.length ≤ insertionLength then some (insertAll less [] l)
  else if l.length ≤ 2 * shortLength then sortByRuns less (sortShort less) true l
  else sortByRuns less (fun vs => divide less (2 * vs.length.log2) none vs) false l

end CardSearch.StableSort

namespace CardSearch

/-- Sorts a list by a comparison. Only members of the list are compared. -/
def stableSort {α : Type} (compare : α → α → Ordering) (l : List α) : Option (List α) :=
  (StableSort.sort (fun a b : {a // a ∈ l} => compare a b == .lt) l.attach).map List.unattach

end CardSearch
