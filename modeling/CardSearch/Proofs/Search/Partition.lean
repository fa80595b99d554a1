import CardSearch.Proofs.Search.Rows
import Mathlib.Data.List.Induction

/-!
# Groups as a partition

Grouping takes the records one after the other. A record joins the group of its key, or opens a
group at the end if there is none; an index tells the place of the group of each key. The groups
are then those of the keys, a partition of the records that keeps their order, and grouping the
records again in the order of the groups changes nothing.
-/

namespace CardSearch

/-! ### The groups of the keys -/

/-- The groups of some records, one for each key, in the order of their first members. -/
def groupBy {α : Type} [Searchable α] (fields : List String) (rs : List α) : List (Group α) :=
  (rs.map (groupKey fields)).eraseDups.map fun k => ⟨k, rs.filter fun r => groupKey fields r == k⟩

/-- The group of what the records of a group are mapped to. -/
def Group.map {α β : Type} (f : α → β) (g : Group α) : Group β := ⟨g.key, g.records.map f⟩

section

variable {α β : Type} [Searchable α] [Searchable β] {f : α → β} {fields : List String}

lemma groupKey_map (hf : ∀ r, record (f r) = record r) (r : α) :
    groupKey fields (f r) = groupKey fields r := by
  rw [groupKey, groupKey, hf]

lemma groupBy_map (hf : ∀ r, record (f r) = record r) (rs : List α) :
    groupBy fields (rs.map f) = (groupBy fields rs).map (Group.map f) := by
  have hkeys : (rs.map f).map (groupKey fields) = rs.map (groupKey fields) := by
    rw [List.map_map]
    exact List.map_congr_left fun r _ => groupKey_map hf r
  rw [groupBy, groupBy, hkeys, List.map_map]
  refine List.map_congr_left fun k _ => ?_
  have hrecords : ((rs.map f).filter fun r => groupKey fields r == k) =
      (rs.filter fun r => groupKey fields r == k).map f := by
    rw [List.filter_map]
    simp only [Function.comp_def, groupKey_map hf]
  rw [hrecords]
  rfl

end

/-! ### Lists with one more element -/

section

variable {β : Type} {l : List β} {a b : β}

lemma getElem?_append_singleton_eq_some_iff {i : Nat} :
    (l ++ [a])[i]? = some b ↔ l[i]? = some b ∨ (i = l.length ∧ a = b) := by
  rw [List.getElem?_append]
  split_ifs with hi
  · simp [hi.ne]
  · have hlast : i - l.length = 0 ↔ i = l.length := by omega
    rw [List.getElem?_eq_none (Nat.le_of_not_lt hi), List.getElem?_singleton]
    simp [hlast]

variable [BEq β] [LawfulBEq β]

lemma eraseDups_append_singleton_of_mem (ha : a ∈ l) : (l ++ [a]).eraseDups = l.eraseDups := by
  rw [List.eraseDups_append]
  simp [List.removeAll, ha]

lemma eraseDups_append_singleton_of_notMem (ha : a ∉ l) :
    (l ++ [a]).eraseDups = l.eraseDups ++ [a] := by
  rw [List.eraseDups_append]
  simp [List.removeAll, ha, List.eraseDups_cons]

end

/-! ### One record after the other -/

namespace Group

variable {α : Type}

@[simp] lemma key_add (g : Group α) (r : α) : (g.add r).key = g.key := rfl

@[simp] lemma records_add (g : Group α) (r : α) : (g.add r).records = g.records ++ [r] := rfl

end Group

namespace Collection

variable {α : Type}

/-- The index knows the places of the keys, and nothing else. -/
def Indexed (c : Collection α) : Prop :=
  ∀ k i, c.places.lookup k = some i ↔ (c.groups.map Group.key)[i]? = some k

variable {c : Collection α} {k : List (Option String)}

lemma Indexed.exists_group (h : c.Indexed) {i : Nat} (hk : c.places.lookup k = some i)
    (f : Group α → Group α) : ∃ before g after, c.groups = before ++ g :: after ∧ g.key = k ∧
      c.groups.modify i f = before ++ f g :: after := by
  obtain ⟨hi, hkey⟩ := List.getElem?_eq_some_iff.mp ((h k i).mp hk)
  rw [List.length_map] at hi
  obtain ⟨before, g, after, hgroups, rfl, hmodify⟩ := List.exists_of_modify f hi
  refine ⟨before, g, after, hgroups, ?_, hmodify⟩
  simpa [hgroups] using hkey

lemma Indexed.key_ne (h : c.Indexed) (hk : c.places.lookup k = none) :
    ∀ g ∈ c.groups, g.key ≠ k := by
  rintro g hg rfl
  obtain ⟨i, hi⟩ := List.mem_iff_getElem?.mp (List.mem_map_of_mem (f := Group.key) hg)
  rw [(h g.key i).mpr hi] at hk
  cases hk

lemma indexed_start : (start : Collection α).Indexed := by simp [Indexed, start]

variable [Searchable α] {fields : List String}

/-- A record joins a group that has its key, or opens one at the end. -/
lemma Indexed.add_cases (h : c.Indexed) (fields : List String) (r : α) :
    (∃ before g after, c.groups = before ++ g :: after ∧ g.key = groupKey fields r ∧
      c.add fields r = ⟨before ++ g.add r :: after, c.places⟩) ∨
    ((∀ g ∈ c.groups, g.key ≠ groupKey fields r) ∧
      c.add fields r = ⟨c.groups ++ [⟨groupKey fields r, [r]⟩],
        (groupKey fields r, c.groups.length) :: c.places⟩) := by
  cases hk : c.places.lookup (groupKey fields r) with
  | none =>
    right
    refine ⟨h.key_ne hk, ?_⟩
    rw [add, hk]
  | some i =>
    left
    obtain ⟨before, g, after, hgroups, hkey, hmodify⟩ := h.exists_group hk _
    refine ⟨before, g, after, hgroups, hkey, ?_⟩
    rw [add, hk]
    exact congrArg (Collection.mk · c.places) hmodify

/-- The place of a new key is the end of the groups, and the places of the other keys stay. -/
lemma Indexed.add (h : c.Indexed) (r : α) : (c.add fields r).Indexed := by
  intro k i
  rcases h.add_cases fields r with ⟨before, g, after, hgroups, hkey, hadd⟩ | ⟨hnew, hadd⟩
  · rw [hadd, h, hgroups]
    simp
  · rw [hadd, List.lookup_cons, List.map_append, List.map_singleton,
      getElem?_append_singleton_eq_some_iff, List.length_map]
    by_cases hk : k = groupKey fields r
    · have hnone : (c.groups.map Group.key)[i]? ≠ some k := by
        intro hi
        obtain ⟨g, hg, rfl⟩ := List.mem_map.mp (List.mem_of_getElem? hi)
        exact hnew g hg hk
      rw [or_iff_right hnone, hk, beq_self_eq_true, Option.some.injEq, eq_comm]
      simp
    · simp [beq_false_of_ne hk, h k i, Ne.symm hk]

lemma collect_append_singleton (rs : List α) (r : α) :
    collect fields (rs ++ [r]) = (collect fields rs).add fields r := by
  rw [collect, List.foldl_append]
  rfl

end Collection

/-! ### The partition -/

section

variable {α : Type} [Searchable α] {fields : List String} {rs : List α} {gs : List (Group α)}

/-- Groups that hold every record of a list once, each with the records of its key in their order,
and in the order of their first members. -/
structure Partition (fields : List String) (rs : List α) (gs : List (Group α)) : Prop where
  nonempty : ∀ g ∈ gs, g.records ≠ []
  distinct : (gs.map Group.key).Nodup
  keys : gs.map Group.key = (rs.map (groupKey fields)).eraseDups
  members : ∀ g ∈ gs, g.records = rs.filter fun r => groupKey fields r == g.key
  once : (gs.flatMap Group.records).Perm rs
  first : (gs.filterMap fun g => g.records.head?).Sublist rs

namespace Partition

variable {before after : List (Group α)} {g : Group α} {r : α} {k : List (Option String)}

lemma nil : Partition fields ([] : List α) [] := by constructor <;> simp

lemma mem_keys_iff (h : Partition fields rs gs) :
    k ∈ gs.map Group.key ↔ k ∈ rs.map (groupKey fields) := by
  rw [h.keys, List.mem_eraseDups]

lemma key_ne (h : Partition fields rs (before ++ g :: after)) :
    ∀ q ∈ before ++ after, q.key ≠ g.key := by
  have hdistinct := h.distinct
  rw [List.map_append, List.map_cons, List.nodup_middle, List.nodup_cons,
    ← List.map_append] at hdistinct
  intro q hq hkey
  rw [← hkey] at hdistinct
  exact hdistinct.1 (List.mem_map_of_mem hq)

lemma filter_append_singleton_of_ne (hk : groupKey fields r ≠ k) :
    ((rs ++ [r]).filter fun q => groupKey fields q == k) =
      rs.filter fun q => groupKey fields q == k := by simp [hk]

/-- A record that joins the group of its key. -/
lemma join (h : Partition fields rs (before ++ g :: after)) (hkey : g.key = groupKey fields r) :
    Partition fields (rs ++ [r]) (before ++ g.add r :: after) := by
  have hg : g ∈ before ++ g :: after := by simp
  have hsubset : before ++ after ⊆ before ++ g :: after := by simp
  have hkeys : (before ++ g.add r :: after).map Group.key =
      (before ++ g :: after).map Group.key := by simp
  have hknown : groupKey fields r ∈ rs.map (groupKey fields) := by
    rw [← h.mem_keys_iff, ← hkey]
    exact List.mem_map_of_mem hg
  -- the other groups have other keys, so they hold what they held before
  have hothers : ∀ q ∈ before ++ after,
      q.records = (rs ++ [r]).filter fun p => groupKey fields p == q.key := by
    intro q hq
    have hne : groupKey fields r ≠ q.key := by
      rw [← hkey]
      exact (h.key_ne q hq).symm
    rw [filter_append_singleton_of_ne hne]
    exact h.members q (hsubset hq)
  obtain ⟨hbefore, hafter⟩ := List.forall_mem_append.mp hothers
  constructor
  · simpa [or_imp, forall_and] using fun q (hq : q ∈ before ++ after) => h.nonempty q (hsubset hq)
  · rw [hkeys]
    exact h.distinct
  · rw [hkeys, h.keys, List.map_append, List.map_singleton,
      eraseDups_append_singleton_of_mem hknown]
  · refine List.forall_mem_append.mpr ⟨hbefore, List.forall_mem_cons.mpr ⟨?_, hafter⟩⟩
    simp [h.members g hg, hkey]
  · refine List.Perm.trans ?_ (h.once.append_right [r])
    simp only [List.flatMap_append, List.flatMap_cons, Group.records_add, List.append_assoc]
    exact (List.perm_append_comm.append_left _).append_left _
  · refine List.Sublist.trans ?_ (List.sublist_append_left rs [r])
    have hhead : (g.records ++ [r]).head? = g.records.head? :=
      List.head?_append_of_ne_nil g.records (h.nonempty g hg)
    simpa [List.filterMap_append, List.filterMap_cons, hhead] using h.first

/-- A record that opens a group at the end. -/
lemma open_group (h : Partition fields rs gs) (hnew : ∀ g ∈ gs, g.key ≠ groupKey fields r) :
    Partition fields (rs ++ [r]) (gs ++ [⟨groupKey fields r, [r]⟩]) := by
  have hnotMem : groupKey fields r ∉ gs.map Group.key := by simpa using hnew
  have hunknown : groupKey fields r ∉ rs.map (groupKey fields) := by
    rwa [← h.mem_keys_iff]
  constructor
  · simpa [or_imp, forall_and] using h.nonempty
  · rw [List.map_append, List.nodup_append_comm]
    exact List.nodup_cons.mpr ⟨hnotMem, h.distinct⟩
  · rw [List.map_append, List.map_append, h.keys]
    exact (eraseDups_append_singleton_of_notMem hunknown).symm
  · refine List.forall_mem_append.mpr ⟨fun g hg => ?_, ?_⟩
    · rw [filter_append_singleton_of_ne (hnew g hg).symm]
      exact h.members g hg
    · have hnone : (rs.filter fun q => groupKey fields q == groupKey fields r) = [] := by
        simpa using hunknown
      simp [hnone]
  · simpa using h.once.append_right [r]
  · simpa using h.first.append_right [r]

lemma key_eq (h : Partition fields rs gs) (hg : g ∈ gs) (hr : r ∈ g.records) :
    groupKey fields r = g.key := by
  rw [h.members g hg, List.mem_filter, beq_iff_eq] at hr
  exact hr.2

/-- There is only one partition. -/
lemma groupBy_eq (h : Partition fields rs gs) : groupBy fields rs = gs := by
  rw [groupBy, ← h.keys, List.map_map]
  conv_rhs => rw [← List.map_id gs]
  refine List.map_congr_left fun g hg => ?_
  simp [← h.members g hg]

/-- The record that stands first opens the group and the others join it. -/
lemma append_group (h : Partition fields rs gs) {members : List α} (hne : members ≠ [])
    (hkey : ∀ r ∈ members, groupKey fields r = k) (hnew : ∀ g ∈ gs, g.key ≠ k) :
    Partition fields (rs ++ members) (gs ++ [⟨k, members⟩]) := by
  induction members using List.reverseRecOn with
  | nil => exact absurd rfl hne
  | append_singleton members r ih =>
    obtain ⟨hmembers, rfl⟩ : (∀ r ∈ members, groupKey fields r = k) ∧ groupKey fields r = k := by
      simpa [or_imp, forall_and] using hkey
    rw [← List.append_assoc]
    by_cases hempty : members = []
    · subst hempty
      simpa using h.open_group hnew
    · exact (ih hempty hmembers).join rfl

/-- Groups partition their own records, taken in the order of the groups. -/
lemma of_groups (hne : ∀ g ∈ gs, g.records ≠ []) (hdistinct : (gs.map Group.key).Nodup)
    (hkey : ∀ g ∈ gs, ∀ r ∈ g.records, groupKey fields r = g.key) :
    Partition fields (gs.flatMap Group.records) gs := by
  induction gs using List.reverseRecOn with
  | nil => exact nil
  | append_singleton gs g ih =>
    obtain ⟨hnes, hne⟩ : (∀ g ∈ gs, g.records ≠ []) ∧ g.records ≠ [] := by
      simpa [or_imp, forall_and] using hne
    obtain ⟨hkeys, hkey⟩ : (∀ g ∈ gs, ∀ r ∈ g.records, groupKey fields r = g.key) ∧
        ∀ r ∈ g.records, groupKey fields r = g.key := by
      simpa [or_imp, forall_and] using hkey
    rw [List.map_append, List.nodup_append_comm] at hdistinct
    obtain ⟨hnew, hdistinct⟩ := List.nodup_cons.mp hdistinct
    rw [List.flatMap_append, List.flatMap_singleton]
    exact (ih hnes hdistinct hkeys).append_group hne hkey (by simpa using hnew)

end Partition

/-- After any records the index is right and the groups are the partition of these records. -/
lemma Collection.indexed_and_partition_collect (fields : List String) (rs : List α) :
    (collect fields rs).Indexed ∧ Partition fields rs (collect fields rs).groups := by
  induction rs using List.reverseRecOn with
  | nil => exact ⟨indexed_start, Partition.nil⟩
  | append_singleton rs r ih =>
    obtain ⟨hindexed, hpartition⟩ := ih
    rw [collect_append_singleton]
    refine ⟨hindexed.add r, ?_⟩
    rcases hindexed.add_cases fields r with
      ⟨before, g, after, hgroups, hkey, hadd⟩ | ⟨hnew, hadd⟩
    · rw [hadd]
      rw [hgroups] at hpartition
      exact hpartition.join hkey
    · rw [hadd]
      exact hpartition.open_group hnew

/-- What is collected with the index are the groups of the keys. -/
lemma groupBy_eq_collect : groupBy fields rs = (Collection.collect fields rs).groups :=
  (Collection.indexed_and_partition_collect fields rs).2.groupBy_eq

lemma Environment.group_eq_groupBy (env : Environment) (rs : List α) :
    env.group rs = groupBy env.grouping rs :=
  groupBy_eq_collect.symm

lemma Environment.partition_group (env : Environment) (rs : List α) :
    Partition env.grouping rs (env.group rs) :=
  (Collection.indexed_and_partition_collect env.grouping rs).2

lemma Partition.existsUnique_group (h : Partition fields rs gs) {r : α} (hr : r ∈ rs) :
    ∃! g, g ∈ gs ∧ r ∈ g.records := by
  rw [← h.once.mem_iff, List.mem_flatMap] at hr
  obtain ⟨g, hg, hrg⟩ := hr
  refine ⟨g, ⟨hg, hrg⟩, ?_⟩
  rintro q ⟨hq, hrq⟩
  apply List.inj_on_of_nodup_map h.distinct hq hg
  exact (h.key_eq hq hrq).symm.trans (h.key_eq hg hrg)

/-- Grouping partitions the rows: each stands in one group, with all others of its key, in the order
of the list, and the groups are in the order of their first rows. To group the records again as the
groups show them changes nothing. -/
theorem Environment.group_partition (env : Environment) (rs : List α) :
    (∃ parts : List (Group (Row rs)), env.group rs = parts.map (Group.map Row.get) ∧
      Partition env.grouping (Row.all rs) parts) ∧
    (∀ g ∈ env.group rs, ∀ r ∈ g.records, groupKey env.grouping r = g.key) ∧
    (∀ r ∈ rs, ∃! g, g ∈ env.group rs ∧ r ∈ g.records) ∧
    env.group ((env.group rs).flatMap Group.records) = env.group rs := by
  have h := env.partition_group rs
  refine ⟨⟨env.group (Row.all rs), ?_, env.partition_group (Row.all rs)⟩,
    fun g hg r hr => h.key_eq hg hr, fun r hr => h.existsUnique_group hr, ?_⟩
  · rw [env.group_eq_groupBy, env.group_eq_groupBy, ← groupBy_map (f := Row.get) (fun _ => rfl),
      Row.map_get_all]
  · rw [env.group_eq_groupBy]
    exact (Partition.of_groups h.nonempty h.distinct fun g hg r => h.key_eq hg).groupBy_eq

end

end CardSearch
