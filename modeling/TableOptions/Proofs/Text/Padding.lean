import Mathlib.Data.List.TakeWhile
import TableOptions.Text.Blank

/-!
# Texts with blanks around them

Trimming takes away the blanks at both ends and nothing else: every text is what trimming leaves of it
with blanks around (`padded_trim`), and a text without blanks is what trimming leaves of it in any
padding (`Padded.trim_eq`).
-/

namespace TableOptions.Text

/-- A text and the same with blanks before and after it. -/
def Padded (bare padded : List Char) : Prop :=
  ∃ before after, padded = before ++ bare ++ after ∧
    (∀ c ∈ before, isBlank c = true) ∧ ∀ c ∈ after, isBlank c = true

/-- Blanks at the start are trimmed up to what is not blank. -/
theorem trimStart_append_of_blank {s t : List Char} (hs : ∀ c ∈ s, isBlank c = true)
    (ht : ∀ c ∈ t.head?, isBlank c = false) : trimStart (s ++ t) = t := by
  rw [trimStart, List.dropWhile_append_of_pos hs]
  cases t with
  | nil => rfl
  | cons c t => exact List.dropWhile_cons_of_neg (by simp [ht c rfl])

/-- Blanks at the end are trimmed down to what is not blank. -/
theorem trimEnd_append_of_blank {s t : List Char} (ht : ∀ c ∈ t, isBlank c = true)
    (hs : ∀ c ∈ s.getLast?, isBlank c = false) : trimEnd (s ++ t) = s := by
  have hback : trimStart (t.reverse ++ s.reverse) = s.reverse := by
    refine trimStart_append_of_blank (fun c hc => ht c (List.mem_reverse.1 hc)) ?_
    rw [List.head?_reverse]
    exact hs
  rw [trimEnd, List.reverse_append]
  exact (congrArg List.reverse hback).trans (List.reverse_reverse s)

/-- **Trimming takes blanks away** at the two ends, and nothing else. -/
theorem padded_trim (s : List Char) : Padded (trim s) s := by
  have hend : trim s ++ ((trimStart s).reverse.takeWhile isBlank).reverse = trimStart s := by
    rw [trim, trimEnd, ← List.reverse_append, List.takeWhile_append_dropWhile, List.reverse_reverse]
  refine ⟨s.takeWhile isBlank, ((trimStart s).reverse.takeWhile isBlank).reverse, ?_,
    fun c => List.mem_takeWhile_imp, fun c hc => List.mem_takeWhile_imp (List.mem_reverse.1 hc)⟩
  rw [List.append_assoc, hend]
  exact List.takeWhile_append_dropWhile.symm

/-- **Padding is taken away again.** -/
theorem Padded.trim_eq {bare padded : List Char} (h : Padded bare padded)
    (hbare : ∀ c ∈ bare, isBlank c = false) : trim padded = bare := by
  obtain ⟨before, after, rfl, hbefore, hafter⟩ := h
  by_cases hnil : bare = []
  · -- then all of it is blanks, and none are left for the end
    have hall : ∀ c ∈ before ++ [] ++ after, isBlank c = true := by
      rw [List.append_nil]
      exact List.forall_mem_append.2 ⟨hbefore, hafter⟩
    rw [hnil, trim, trimStart, List.dropWhile_eq_nil_iff.2 hall]
    rfl
  · have hstart : trimStart (before ++ (bare ++ after)) = bare ++ after := by
      refine trimStart_append_of_blank hbefore fun c hc => hbare c ?_
      rw [List.head?_append, List.head?_eq_some_head hnil, Option.some_or] at hc
      exact Option.mem_some.1 hc ▸ List.head_mem hnil
    rw [trim, List.append_assoc, hstart]
    exact trimEnd_append_of_blank hafter fun c hc => hbare c (List.mem_of_getLast? hc)

end TableOptions.Text
