import Mathlib.Data.List.Perm.Basic
import TableOptions.Listing
import TableOptions.Proofs.Registry.Groups

/-!
# What a listing shows

A selection drops options in up to three passes: the required ones, the ones that are not, and those of
other groups. Together the passes keep exactly what meets the filter (`selected_eq_filter`), in order of
registration, so the order of the passes does not matter. A selection is refused only for a group that
no registered option has (`select_eq_error_iff`).

Asking for required and for optional options divides what is shown otherwise into two parts without a
common option; asking for both leaves nothing. `listing_filters_partition` adds to this that the groups
divide the registry.
-/

namespace TableOptions

/-- What every given filter asks of an option. -/
structure Filter.Meets (f : Filter) (d : Definition) : Prop where
  group : ∀ group ∈ f.group, d.group = group
  required : f.required = true → d.isRequired = true
  optional : f.optional = true → d.isRequired = false

/-- A definition meets a filter when it meets each of its three parts. -/
theorem Filter.meets_iff {f : Filter} {d : Definition} :
    f.Meets d ↔ (∀ group ∈ f.group, d.group = group) ∧ (f.required = true → d.isRequired = true) ∧
      (f.optional = true → d.isRequired = false) :=
  ⟨fun h => ⟨h.group, h.required, h.optional⟩, fun h => ⟨h.1, h.2.1, h.2.2⟩⟩

instance (f : Filter) (d : Definition) : Decidable (f.Meets d) :=
  decidable_of_iff _ Filter.meets_iff.symm

namespace Registry

variable {r : Registry} {f : Filter}

/-! ### The passes -/

/-- A pass that is not asked for keeps everything. -/
theorem ite_filter {α : Type} (asked : Bool) (keep : α → Bool) (list : List α) :
    (if asked then list.filter keep else list) = list.filter fun a => !asked || keep a := by
  cases asked with
  | true => simp
  | false => simp

/-- The options of a filter are what its three passes leave, one after another. -/
theorem selected_eq_passes (r : Registry) (f : Filter) :
    r.selected f = ((r.definitions.filter fun d => !f.optional || !d.isRequired).filter fun d =>
      !f.required || d.isRequired).filter fun d => f.group.all (d.group == ·) := by
  unfold selected Registry.optional
  dsimp only
  rw [ite_filter, ite_filter]
  cases f.group with
  | none => simp
  | some group => rfl

/-- **The passes keep what meets the filter**, in order of registration. -/
theorem selected_eq_filter (r : Registry) (f : Filter) :
    r.selected f = r.definitions.filter fun d => f.Meets d := by
  rw [selected_eq_passes, List.filter_filter, List.filter_filter]
  refine List.filter_congr fun d _ => ?_
  rw [Bool.eq_iff_iff, decide_eq_true_iff, Filter.meets_iff]
  cases f.group <;> cases f.required <;> cases f.optional <;> simp

/-! ### Answers -/

/-- **A filter is answered exactly when its group is there**, with the options that it leaves. -/
theorem select_eq_ok_iff {options : List Definition} :
    r.select f = .ok options ↔ (∀ group ∈ f.group, group ∈ r.groups) ∧ options = r.selected f := by
  unfold select
  cases f.group with
  | none => simp [eq_comm]
  | some group => by_cases hmem : group ∈ r.groups <;> simp [hmem, eq_comm]

/-- **A selection is refused for an unknown group** and for nothing else. -/
theorem select_eq_error_iff {e : ListingError} :
    r.select f = .error e ↔
      ∃ group, f.group = some group ∧ group ∉ r.groups ∧ e = .unknownGroup group r.groups := by
  unfold select
  cases f.group with
  | none => simp
  | some group => by_cases hmem : group ∈ r.groups <;> simp [hmem, eq_comm]

/-! ### Required and optional options -/

/-- What is asked of the need for an option only drops options from what is shown otherwise. -/
theorem selected_eq_filter_selected (r : Registry) (group : Option String)
    (required optional : Bool) :
    r.selected ⟨group, required, optional⟩ =
      (r.selected ⟨group, false, false⟩).filter fun d =>
        (!required || d.isRequired) && (!optional || !d.isRequired) := by
  rw [selected_eq_filter, selected_eq_filter, List.filter_filter]
  refine List.filter_congr fun d _ => ?_
  rw [Bool.eq_iff_iff, decide_eq_true_iff, Filter.meets_iff]
  cases required <;> cases optional <;> simp [Filter.meets_iff, and_comm]

/-- **Required and optional options divide a selection.** -/
theorem exists_select_parts {group : Option String} (h : ∀ name ∈ group, name ∈ r.groups) :
    ∃ all required optional,
      r.select ⟨group, false, false⟩ = .ok all ∧ r.select ⟨group, true, false⟩ = .ok required ∧
      r.select ⟨group, false, true⟩ = .ok optional ∧ r.select ⟨group, true, true⟩ = .ok [] ∧
      required.Disjoint optional ∧ (required ++ optional).Perm all ∧
      ∀ d ∈ all, (required ++ optional).count d = 1 := by
  have hselect : ∀ required optional,
      r.select ⟨group, required, optional⟩ = .ok (r.selected ⟨group, required, optional⟩) :=
    fun required optional => select_eq_ok_iff.2 ⟨h, rfl⟩
  have hboth : r.selected ⟨group, true, true⟩ = [] := by
    rw [selected_eq_filter_selected]
    simp
  have hrequired : r.selected ⟨group, true, false⟩ =
      (r.selected ⟨group, false, false⟩).filter Definition.isRequired := by
    rw [selected_eq_filter_selected]
    simp
  have hoptional : r.selected ⟨group, false, true⟩ =
      (r.selected ⟨group, false, false⟩).filter fun d => !d.isRequired := by
    rw [selected_eq_filter_selected]
    simp
  refine ⟨_, _, _, hselect false false, hselect true false, hselect false true,
    hboth ▸ hselect true true, ?_⟩
  rw [hrequired, hoptional]
  -- the parts hold every option once, because the whole does
  have hnodup : (r.selected ⟨group, false, false⟩).Nodup := by
    rw [selected_eq_filter]
    exact r.nodup_definitions.filter _
  have hperm := List.filter_append_perm Definition.isRequired (r.selected ⟨group, false, false⟩)
  refine ⟨?_, hperm, ?_⟩
  · intro d hrequired hoptional
    have hyes := (List.mem_filter.1 hrequired).2
    have hno := (List.mem_filter.1 hoptional).2
    rw [hyes] at hno
    cases hno
  · intro d hmem
    rw [hperm.count_eq]
    exact List.count_eq_one_of_mem hnodup hmem

/-- **The filters of a listing divide a registry.** Its groups are those of the registered options, each
once and in the order of their first registrations. Every option is in the list of exactly one group; a
list has its options in order of registration, and the lists together have each option once. A selection
fails exactly if a group is given that is not among the groups, and names it with those that are;
otherwise it holds the registered options that meet every given filter, in order of registration.
Whatever the group, no option is shown both as a required and as an optional one, each that is shown
without these filters is shown once as one of them, and asking for both shows nothing. -/
theorem listing_filters_partition (r : Registry) :
    (r.groups.Nodup ∧ (∀ group, group ∈ r.groups ↔ ∃ d ∈ r.definitions, d.group = group) ∧
      r.groups.Pairwise fun earlier later =>
        firstIn r.definitions earlier < firstIn r.definitions later) ∧
    ((∀ group, (r.inGroup group).Sublist r.definitions ∧
        ∀ d, d ∈ r.inGroup group ↔ d ∈ r.definitions ∧ d.group = group) ∧
      (∀ d ∈ r.definitions, ∃! group, group ∈ r.groups ∧ d ∈ r.inGroup group) ∧
      (r.groups.flatMap r.inGroup).Perm r.definitions) ∧
    (∀ f : Filter,
      (∀ e, r.select f = .error e ↔
        ∃ group, f.group = some group ∧ group ∉ r.groups ∧ e = .unknownGroup group r.groups) ∧
      ∀ options, r.select f = .ok options ↔
        (∀ group ∈ f.group, group ∈ r.groups) ∧
          options = r.definitions.filter fun d => f.Meets d) ∧
    ∀ group : Option String, (∀ name ∈ group, name ∈ r.groups) →
      ∃ all required optional,
        r.select ⟨group, false, false⟩ = .ok all ∧ r.select ⟨group, true, false⟩ = .ok required ∧
        r.select ⟨group, false, true⟩ = .ok optional ∧ r.select ⟨group, true, true⟩ = .ok [] ∧
        required.Disjoint optional ∧ (required ++ optional).Perm all ∧
        ∀ d ∈ all, (required ++ optional).count d = 1 := by
  refine ⟨⟨r.nodup_groups, r.groupsOf_groups.mem_iff, r.groupsOf_groups.ascending⟩,
    ⟨fun group => ⟨List.filter_sublist, fun d => mem_inGroup_iff⟩,
      fun d hmem => existsUnique_inGroup hmem, r.flatMap_inGroup_perm⟩,
    fun f => ⟨fun e => select_eq_error_iff, fun options => ?_⟩,
    fun group h => exists_select_parts h⟩
  rw [← selected_eq_filter]
  exact select_eq_ok_iff

end Registry

end TableOptions
