import Mathlib.Data.List.Induction
import Mathlib.Data.List.Nodup
import TableOptions.Registry

/-!
# Groups of a registry

The groups are collected while the definitions are gone through, and a definition counts only if its
group is new. What is collected from a part of the definitions is `GroupsOf` that part, and one more
definition keeps it so (`GroupsOf.concat`). The groups of a registry are therefore those of its
definitions, each once, in the order in which the first definitions of each were registered
(`groupsOf_groups`).

A definition belongs to one group only, and so the groups divide the definitions up: their lists
together hold each of them once (`flatMap_inGroup_perm`).
-/

namespace TableOptions.Registry

/-- The position of the first definition of a group. -/
def firstIn (definitions : List Definition) (group : String) : Nat :=
  definitions.findIdx (·.group == group)

/-- The names are the groups of the definitions, in the order of the first definition of each. -/
structure GroupsOf (definitions : List Definition) (names : List String) : Prop where
  mem_iff : ∀ group, group ∈ names ↔ ∃ d ∈ definitions, d.group = group
  ascending : names.Pairwise fun earlier later =>
    firstIn definitions earlier < firstIn definitions later

variable {definitions : List Definition} {names : List String} {group : String} {d : Definition}

/-! ### Positions -/

/-- A group has a first definition exactly when it has any. -/
theorem firstIn_lt_length_iff :
    firstIn definitions group < definitions.length ↔ ∃ d ∈ definitions, d.group = group := by
  rw [firstIn, List.findIdx_lt_length]
  simp only [beq_iff_eq]

/-- A definition at the end is not the first of a group that was there. -/
theorem firstIn_concat_of_lt (h : firstIn definitions group < definitions.length) :
    firstIn (definitions ++ [d]) group = firstIn definitions group := by
  unfold firstIn at h ⊢
  rw [List.findIdx_append, if_pos h]

/-- A definition at the end is the first of a group that was not there. -/
theorem firstIn_concat_of_new (h : ¬ ∃ other ∈ definitions, other.group = d.group) :
    firstIn (definitions ++ [d]) d.group = definitions.length := by
  rw [← firstIn_lt_length_iff] at h
  unfold firstIn at h ⊢
  rw [List.findIdx_append, if_neg h, List.findIdx_singleton, beq_self_eq_true, if_pos rfl,
    Nat.zero_add]

/-! ### Collecting -/

/-- A name is there after it was added, and so are those that were there before. -/
theorem mem_addNew {name : String} : group ∈ addNew names name ↔ group ∈ names ∨ group = name := by
  unfold addNew
  split
  · rename_i hcontains
    constructor
    · exact Or.inl
    · rintro (hmem | rfl)
      · exact hmem
      · exact List.contains_iff_mem.1 hcontains
  · rw [List.mem_append, List.mem_singleton]

namespace GroupsOf

/-- Each of the names has a first definition. -/
theorem firstIn_lt_length (h : GroupsOf definitions names) (hmem : group ∈ names) :
    firstIn definitions group < definitions.length :=
  firstIn_lt_length_iff.2 ((h.mem_iff group).1 hmem)

/-- One more definition changes nothing about the order of the names that were there. -/
theorem ascending_concat (h : GroupsOf definitions names) (d : Definition) :
    names.Pairwise fun earlier later =>
      firstIn (definitions ++ [d]) earlier < firstIn (definitions ++ [d]) later := by
  refine h.ascending.imp_of_mem fun {earlier later} hearlier hlater hlt => ?_
  rw [firstIn_concat_of_lt (h.firstIn_lt_length hearlier),
    firstIn_concat_of_lt (h.firstIn_lt_length hlater)]
  exact hlt

/-- **One more definition adds its group**, at the end and only if it is new. -/
theorem concat (h : GroupsOf definitions names) (d : Definition) :
    GroupsOf (definitions ++ [d]) (addNew names d.group) where
  mem_iff := by
    intro group
    rw [mem_addNew, h.mem_iff]
    constructor
    · rintro (⟨other, hmem, hgroup⟩ | rfl)
      · exact ⟨other, List.mem_append_left _ hmem, hgroup⟩
      · exact ⟨d, List.mem_append_right _ (List.mem_singleton_self d), rfl⟩
    · rintro ⟨other, hmem, hgroup⟩
      rcases List.mem_append.1 hmem with hearlier | hlast
      · exact Or.inl ⟨other, hearlier, hgroup⟩
      · obtain rfl := List.mem_singleton.1 hlast
        exact Or.inr hgroup.symm
  ascending := by
    unfold addNew
    split
    · exact h.ascending_concat d
    · rename_i hnew
      have hnone : ¬ ∃ other ∈ definitions, other.group = d.group := by
        rw [← h.mem_iff, ← List.contains_iff_mem]
        exact hnew
      refine List.pairwise_append.2 ⟨h.ascending_concat d, List.pairwise_singleton _ _, ?_⟩
      intro earlier hearlier later hlater
      obtain rfl := List.mem_singleton.1 hlater
      have hlt := h.firstIn_lt_length hearlier
      rw [firstIn_concat_of_lt hlt, firstIn_concat_of_new hnone]
      exact hlt

/-- No group is named twice, since no two names have the same first definition. -/
theorem nodup (h : GroupsOf definitions names) : names.Nodup := by
  refine h.ascending.imp fun hlt heq => ?_
  rw [heq] at hlt
  exact Nat.lt_irrefl _ hlt

end GroupsOf

variable (r : Registry)

/-- **The groups of a registry are those of its definitions**, in order of their first ones. -/
theorem groupsOf_groups : GroupsOf r.definitions r.groups := by
  unfold groups
  generalize r.definitions = definitions
  induction definitions using List.reverseRecOn with
  | nil => exact ⟨by simp, List.Pairwise.nil⟩
  | append_singleton definitions d ih =>
    rw [List.foldl_append]
    exact ih.concat d

/-- **The groups of a registry are those of its definitions.** -/
theorem mem_groups_iff {r : Registry} : group ∈ r.groups ↔ ∃ d ∈ r.definitions, d.group = group :=
  r.groupsOf_groups.mem_iff group

/-- A registry lists no group twice. -/
theorem nodup_groups : r.groups.Nodup := r.groupsOf_groups.nodup

/-! ### The division into groups -/

/-- A registry holds no definition twice. -/
theorem nodup_definitions : r.definitions.Nodup := List.Nodup.of_map _ r.keys_nodup

/-- The definitions of a group are those that name it. -/
theorem mem_inGroup_iff {r : Registry} :
    d ∈ r.inGroup group ↔ d ∈ r.definitions ∧ d.group = group := by
  rw [inGroup, List.mem_filter, beq_iff_eq]

/-- A definition is in the list of its own group and in no other. -/
theorem existsUnique_inGroup {r : Registry} (h : d ∈ r.definitions) :
    ∃! group, group ∈ r.groups ∧ d ∈ r.inGroup group := by
  refine ⟨d.group, ⟨mem_groups_iff.2 ⟨d, h, rfl⟩, mem_inGroup_iff.2 ⟨h, rfl⟩⟩, ?_⟩
  rintro group ⟨_, hmem⟩
  exact (mem_inGroup_iff.1 hmem).2.symm

/-- **The lists of the groups hold every definition once.** -/
theorem flatMap_inGroup_perm : (r.groups.flatMap r.inGroup).Perm r.definitions := by
  have hnodup : (r.groups.flatMap r.inGroup).Nodup := by
    refine List.nodup_flatMap.2 ⟨fun group _ => r.nodup_definitions.filter _, ?_⟩
    refine r.nodup_groups.imp fun hne d hd hd' => hne ?_
    rw [← (mem_inGroup_iff.1 hd).2, ← (mem_inGroup_iff.1 hd').2]
  refine (List.perm_ext_iff_of_nodup hnodup r.nodup_definitions).2 fun d => ?_
  rw [List.mem_flatMap]
  constructor
  · rintro ⟨group, _, hmem⟩
    exact (mem_inGroup_iff.1 hmem).1
  · intro hmem
    obtain ⟨group, hgroup, _⟩ := existsUnique_inGroup hmem
    exact ⟨group, hgroup⟩

end TableOptions.Registry
