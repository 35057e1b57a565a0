import Mathlib.Logic.Function.Iterate
import Mathlib.Order.Bounds.Basic
import Mathlib.Order.MinMax
import TableOptions.Proofs.Passthrough.Flattening

/-!
# Flattening again and again

A key can carry the passthrough mark several times over, and flattening takes off one mark. The depth of
a configuration is the greatest number of marks on one of its keys. An entry may hide another, but a key
that hides one has as many marks as the hidden key, so no depth is lost in a collision: flattening
lowers the depth by one as long as there is any (`depth_flatten`).

So after as many flattenings as the depth says, and no fewer, no mark is left, and a second flattening
changes something exactly when the first one left a mark (`flatten_repeatedly`).
-/

namespace TableOptions

/-- A key behind a number of passthrough marks. -/
def behindMarks : Nat → String → String
  | 0, key => key
  | n + 1, key => passthroughMark ++ behindMarks n key

/-- A key is shorter without its mark, so marks can be counted. -/
theorem length_lt_of_unmark? {key rest : String} (h : unmark? passthroughMark key = some rest) :
    rest.length < key.length := by
  rw [unmark?_eq_some_iff.1 h, String.length_append]
  exact Nat.lt_add_of_pos_left (by decide)

/-- How often the passthrough mark is repeated at the start of a key. -/
def markCount (key : String) : Nat :=
  match h : unmark? passthroughMark key with
  | some rest => markCount rest + 1
  | none => 0
termination_by key.length
decreasing_by exact length_lt_of_unmark? h

/-! ### Marks on a key -/

/-- One more mark on a key is one more to count. -/
theorem markCount_append (key : String) :
    markCount (passthroughMark ++ key) = markCount key + 1 := by
  rw [markCount]
  split
  · rename_i rest h
    rw [unmark?_append] at h
    obtain rfl := Option.some.inj h
    rfl
  · rename_i h
    rw [unmark?_append] at h
    cases h

/-- There is a mark to count exactly on a marked key. -/
theorem markCount_pos_iff {key : String} : 0 < markCount key ↔ Marked passthroughMark key := by
  constructor
  · intro h
    rw [markCount] at h
    split at h
    · rename_i rest hrest
      exact marked_iff.2 ⟨rest, unmark?_eq_some_iff.1 hrest⟩
    · cases h
  · intro h
    obtain ⟨rest, rfl⟩ := marked_iff.1 h
    rw [markCount_append]
    exact Nat.succ_pos _

/-- **A key has at least as many marks as can be taken off it.** -/
theorem le_markCount_iff {n : Nat} {key : String} :
    n ≤ markCount key ↔ ∃ rest, key = behindMarks n rest := by
  induction n generalizing key with
  | zero => exact ⟨fun _ => ⟨key, rfl⟩, fun _ => Nat.zero_le _⟩
  | succ n ih =>
    constructor
    · intro h
      have hmarked := markCount_pos_iff.1 (Nat.lt_of_lt_of_le (Nat.succ_pos n) h)
      obtain ⟨inner, rfl⟩ := marked_iff.1 hmarked
      rw [markCount_append] at h
      obtain ⟨rest, rfl⟩ := ih.1 (Nat.le_of_succ_le_succ h)
      exact ⟨rest, rfl⟩
    · rintro ⟨rest, rfl⟩
      rw [behindMarks, markCount_append]
      exact Nat.succ_le_succ (ih.2 ⟨rest, rfl⟩)

namespace Configuration

/-- The greatest number of marks on a key, and zero without keys. -/
def depth (conf : Configuration) : Nat :=
  (conf.keys.map markCount).foldr max 0

/-- The configuration after a number of flattenings. -/
def flattenTimes (n : Nat) (conf : Configuration) : Configuration :=
  (fun c : Configuration => c.flatten.value)^[n] conf

variable {conf : Configuration}

/-! ### One flattening -/

/-- A depth is reached when some key has as many marks. -/
theorem le_depth_iff {n : Nat} :
    n ≤ conf.depth ↔ n = 0 ∨ ∃ key ∈ conf.keys, n ≤ markCount key := by
  rw [depth]
  induction conf.keys with
  | nil => simp
  | cons key keys ih =>
    rw [List.map_cons, List.foldr_cons, le_max_iff, ih]
    simp only [List.mem_cons, exists_eq_or_imp]
    exact or_left_comm

/-- **There is no depth exactly when no key is marked.** -/
theorem depth_eq_zero_iff : conf.depth = 0 ↔ ∀ key ∈ conf.keys, ¬ Marked passthroughMark key := by
  have hpos : 0 < conf.depth ↔ ∃ key ∈ conf.keys, 0 < markCount key := by
    rw [Nat.lt_iff_add_one_le, le_depth_iff]
    simp [Nat.lt_iff_add_one_le]
  simp only [markCount_pos_iff] at hpos
  rw [← Nat.not_lt.trans Nat.le_zero, hpos, not_exists]
  simp only [not_and]

/-- The keys of a flattened configuration are those of the entries behind their mark, and the plain
ones. -/
theorem mem_keys_flatten {key : String} :
    key ∈ conf.flatten.value.keys ↔
      passthroughMark ++ key ∈ conf.keys ∨ ¬ Marked passthroughMark key ∧ key ∈ conf.keys := by
  simp only [← KeyMap.contains_iff_mem_keys, KeyMap.contains, get?_flatten]
  cases conf.get? (passthroughMark ++ key) with
  | some stored => simp
  | none =>
    by_cases hmarked : Marked passthroughMark key
    · simp [hmarked]
    · simp [hmarked]

/-- A depth that is left by flattening was one greater before. -/
theorem lt_depth_flatten_iff {n : Nat} :
    n < conf.flatten.value.depth ↔ n + 1 < conf.depth := by
  rw [Nat.lt_iff_add_one_le, Nat.lt_iff_add_one_le, le_depth_iff, le_depth_iff]
  constructor
  · rintro (hzero | ⟨key, hkey, hle⟩)
    · cases hzero
    · rcases mem_keys_flatten.1 hkey with hmarked | ⟨hplain, _⟩
      · refine Or.inr ⟨passthroughMark ++ key, hmarked, ?_⟩
        rw [markCount_append]
        exact Nat.succ_le_succ hle
      · exact absurd (markCount_pos_iff.1 (Nat.lt_of_lt_of_le (Nat.succ_pos n) hle)) hplain
  · rintro (hzero | ⟨key, hkey, hle⟩)
    · cases hzero
    · obtain ⟨rest, rfl⟩ := marked_iff.1 (markCount_pos_iff.1 (Nat.lt_of_lt_of_le (Nat.succ_pos _) hle))
      rw [markCount_append] at hle
      exact Or.inr ⟨rest, mem_keys_flatten.2 (Or.inl hkey), Nat.le_of_succ_le_succ hle⟩

/-- **Flattening lowers the depth by one**, as long as there is any. -/
theorem depth_flatten (conf : Configuration) : conf.flatten.value.depth = conf.depth - 1 := by
  refine eq_of_forall_lt_iff fun n => ?_
  rw [lt_depth_flatten_iff]
  exact Nat.lt_sub_iff_add_lt.symm

/-- Without a mark there is nothing to take off a configuration of texts. -/
theorem flatten_ofMap_of_plain {texts : KeyMap String}
    (h : ∀ key ∈ (ofMap texts).keys, ¬ Marked passthroughMark key) :
    (ofMap texts).flatten.value = ofMap texts := by
  have hnone : ∀ key, Marked passthroughMark key → (ofMap texts).get? key = none := by
    intro key hmarked
    rw [← Option.not_isSome_iff_eq_none]
    intro hsome
    exact h key ((KeyMap.contains_iff_mem_keys _ key).1 hsome) hmarked
  ext key : 1
  rw [get?_flatten, hnone _ (marked_append passthroughMark key)]
  dsimp only
  split
  · rename_i hmarked
    rw [hnone key hmarked]
  · rw [get?_ofMap]
    cases texts.get? key <;> rfl

/-! ### Many flattenings -/

/-- **A number of flattenings lowers the depth by that number.** -/
theorem depth_flattenTimes (n : Nat) (conf : Configuration) :
    (conf.flattenTimes n).depth = conf.depth - n := by
  induction n with
  | zero => rfl
  | succ n ih =>
    have hstep : conf.flattenTimes (n + 1) = (conf.flattenTimes n).flatten.value :=
      Function.iterate_succ_apply' _ n conf
    rw [hstep, depth_flatten, ih, Nat.sub_sub]

/-- **Flattening twice is flattening once exactly when no key has two marks.** -/
theorem flatten_flatten_eq_iff :
    conf.flatten.value.flatten.value = conf.flatten.value ↔ conf.depth ≤ 1 := by
  constructor
  · intro h
    have hdepth := congrArg depth h
    rw [depth_flatten, depth_flatten] at hdepth
    omega
  · intro h
    have hzero : conf.flatten.value.depth = 0 := by
      rw [depth_flatten]
      omega
    exact flatten_ofMap_of_plain (depth_eq_zero_iff.1 hzero)

/-- **As many flattenings as the depth says take all marks off**, and fewer do not. The depth is the
greatest number of times that the mark is repeated at the start of a key, zero if there is none. A
second flattening changes nothing exactly when the depth is at most one. -/
theorem flatten_repeatedly (conf : Configuration) :
    (∀ n, n ≤ conf.depth ↔ n = 0 ∨ ∃ key ∈ conf.keys, ∃ rest, key = behindMarks n rest) ∧
    IsLeast {n | ∀ key ∈ (conf.flattenTimes n).keys, ¬ Marked passthroughMark key} conf.depth ∧
    (conf.flatten.value.flatten.value = conf.flatten.value ↔ conf.depth ≤ 1) := by
  have hplain : ∀ n, (∀ key ∈ (conf.flattenTimes n).keys, ¬ Marked passthroughMark key) ↔
      conf.depth ≤ n := by
    intro n
    rw [← depth_eq_zero_iff, depth_flattenTimes]
    exact Nat.sub_eq_zero_iff_le
  refine ⟨?_, ⟨?_, ?_⟩, flatten_flatten_eq_iff⟩
  · intro n
    simp only [le_depth_iff, le_markCount_iff]
  · exact (hplain _).2 (Nat.le_refl _)
  · intro n hn
    exact (hplain n).1 hn

/-- A mark of its own stays behind each flattening of a key that has it twice. -/
example :
    let conf : Configuration :=
      KeyMap.ofList [("x", .int 1), ("properties.x", .int 2), ("properties.properties.x", .int 3)]
    conf.depth = 2 ∧ conf.flatten.value.keys = ["properties.x", "x"] ∧
      (conf.flattenTimes 2).entries = [("x", .string "3")] := by
  decide +kernel

end Configuration

end TableOptions
