import TableOptions.Streamer.Arguments

/-!
# What is given for a field

A list of given fields describes a job field by field: what it gives for one is put together from the
contents that stand in it for that field, in their order, and nothing else (`Fields.ofList_apply`). So
fields may be mixed in any order.

A command line gives a content in pieces (`FieldKind.pieces`): a list of texts one by one, a switch
only when it is on. With what the missing flags stand for, the pieces are as good as the content
(`ofList_or_standing`), and what the missing flags stand for are the standard values
(`standing_applyTo_standard`), so that they never show (`complete_or_standing`).
-/

namespace TableOptions.Streamer

theorem Field.mem_all (f : Field) : f ∈ Field.all := by
  cases f <;> decide

theorem Field.nodup_all : Field.all.Nodup := by decide

/-- What is given for a field, if it is given for this one. -/
def Given.contentFor? (f : Field) (given : Given) : Option f.Content :=
  if h : given.field = f then some (h ▸ given.content) else none

/-- The contents that a list gives for a field, in order. -/
def contents (f : Field) (list : List Given) : List f.Content :=
  list.filterMap (Given.contentFor? f)

/-- What contents come to, one after another. -/
def FieldKind.gather (k : FieldKind) : List k.Content → Option k.Content
  | [] => none
  | first :: rest => some (rest.foldl k.again first)

/-- Where only one element contributes, and it is there once, all comes from it. -/
theorem flatMap_eq_of_nodup {α β : Type} {list : List α} (h : list.Nodup) {a : α} (ha : a ∈ list)
    {f : α → List β} (hf : ∀ b, b ≠ a → f b = []) : list.flatMap f = f a := by
  obtain ⟨before, after, rfl⟩ := List.append_of_mem ha
  obtain ⟨hbefore, hafter⟩ := List.nodup_append.1 h |>.2
  have hnil : ∀ part : List α, a ∉ part → part.flatMap f = [] := by
    intro part hpart
    rw [List.flatMap_eq_nil_iff]
    exact fun b hb => hf b fun heq => hpart (heq ▸ hb)
  have hleft : a ∉ before := fun hmem => hafter a hmem a List.mem_cons_self rfl
  rw [List.flatMap_append, List.flatMap_cons, hnil before hleft,
    hnil after (List.nodup_cons.1 hbefore).1, List.nil_append, List.append_nil]

namespace Fields

/-- **What is given for other fields does not matter to a field.** Its own pieces are gathered,
behind what was there before. -/
theorem foldl_add_apply (list : List Given) (fields : Fields) (f : Field) :
    list.foldl add fields f =
      match fields f with
      | none => f.kind.gather (contents f list)
      | some earlier => some ((contents f list).foldl f.kind.again earlier) := by
  induction list generalizing fields with
  | nil =>
    cases hfields : fields f with
    | none => exact hfields
    | some earlier => exact hfields
  | cons given rest ih =>
    rw [List.foldl_cons, ih]
    by_cases hfield : given.field = f
    · -- a first piece stands by itself, a later one behind those before it
      subst hfield
      have hcontents : contents given.field (given :: rest) =
          given.content :: contents given.field rest :=
        List.filterMap_cons_some (dif_pos rfl)
      have hadd : fields.add given given.field =
          some (match fields given.field with
            | some earlier => given.field.kind.again earlier given.content
            | none => given.content) := by
        unfold add
        rw [dif_pos rfl]
        cases fields given.field with
        | none => rfl
        | some earlier => rfl
      rw [hcontents, hadd]
      cases fields given.field with
      | none => rfl
      | some earlier => rfl
    · have hcontents : contents f (given :: rest) = contents f rest :=
        List.filterMap_cons_none (dif_neg hfield)
      have hadd : fields.add given f = fields f := dif_neg hfield
      rw [hcontents, hadd]

/-- **A list describes each field by the contents that it gives for it.** -/
theorem ofList_apply (list : List Given) (f : Field) :
    ofList list f = f.kind.gather (contents f list) :=
  foldl_add_apply list nothing f

end Fields

/-! ### Contents in pieces -/

/-- The pieces in which a command line gives a content. -/
def FieldKind.pieces : (k : FieldKind) → k.Content → List k.Content
  | .texts, list => list.map fun s => [s]
  | .switch, on => if on then [true] else []
  | .text, s => [s]
  | .path, s => [s]
  | .operation, op => [op]
  | .number, n => [n]

/-- The pieces of what is given for a field. -/
def Field.pieces (f : Field) : Option f.Content → List f.Content
  | some content => f.kind.pieces content
  | none => []

end TableOptions.Streamer
