import CardSearch.Filter

/-!
# The registry of filters

Filters are kept in the order in which they were registered, and a table says which of them each
alias belongs to. An alias that is registered again goes to the newer filter; that is reported as
a takeover.
-/

namespace CardSearch

/-- Which filter, by its number, each alias belongs to, the newest entry first. -/
abbrev Owners := List (String × Nat)

/-- An alias that went from one filter to another. -/
structure Takeover where
  /-- The alias. -/
  name : String
  /-- The name of the filter that it belonged to. -/
  previous : String
deriving DecidableEq, Repr

/-- The filters that queries can name. -/
structure Registry where
  filters : List Filter
  owners : Owners

namespace Registry

/-- The registry without filters. -/
def empty : Registry := ⟨[], []⟩

/-- Gives aliases to the filter numbered `index`, one after the other. An alias that a filter of
the list held until then is a takeover. -/
def claim (filters : List Filter) (index : Nat) (owners : Owners) :
    List String → Owners × List Takeover
  | []        => (owners, [])
  | a :: rest =>
    let (owners', taken) := claim filters index ((a, index) :: owners) rest
    match (owners.lookup a).bind (filters[·]?) with
    | some previous => (owners', ⟨a, previous.name⟩ :: taken)
    | none          => (owners', taken)

/-- Registers a filter under each of its aliases. -/
def register (r : Registry) (f : Filter) : Registry :=
  ⟨r.filters ++ [f], (claim r.filters r.filters.length r.owners f.aliases).1⟩

/-- The takeovers that come with registering a filter. -/
def takeovers (r : Registry) (f : Filter) : List Takeover :=
  (claim r.filters r.filters.length r.owners f.aliases).2

/-- Registers filters one after the other. -/
def registerAll (r : Registry) (fs : List Filter) : Registry := fs.foldl register r

/-- The takeovers that come with registering filters one after the other. -/
def takeoversAll (r : Registry) : List Filter → List Takeover
  | []      => []
  | f :: fs => r.takeovers f ++ (r.register f).takeoversAll fs

/-- The filter that an alias belongs to. -/
def lookup (r : Registry) (a : String) : Option Filter :=
  (r.owners.lookup a).bind (r.filters[·]?)

/-- The filters that still hold at least one of their aliases. -/
def listed (r : Registry) : List Filter :=
  (r.filters.zipIdx.filter fun (f, i) => f.aliases.any fun a => r.owners.lookup a == some i).map
    Prod.fst

/-- Whether no alias is registered. -/
def isEmpty (r : Registry) : Bool := r.owners.isEmpty

/-- The registry of the filters that are always there. -/
def builtin : Registry :=
  empty.registerAll
    [⟨["n", "name"], .field "name"⟩, ⟨["s", "set"], .field "set"⟩,
      ⟨["r", "rarity"], .field "rarity"⟩]

end Registry

end CardSearch
