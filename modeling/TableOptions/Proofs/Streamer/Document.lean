import Mathlib.Data.List.Basic
import TableOptions.KeyMap.Enumeration
import TableOptions.Proofs.Streamer.Fields
import TableOptions.Proofs.Text.LetterCase
import TableOptions.Streamer.Document

/-!
# Documents that describe a job

`Documents fields members` says that a root table gives certain fields under their names, in any order
and among any members whose keys name no field. Reading such a table finds exactly these fields, so
that the settings are those fields filled up (`ofMembers_of_documents`). There is such a table for
every description (`documents_document`).
-/

namespace TableOptions.Streamer

/-! ### Tokens in any case -/

/-- The text is the token of the operation in any case of its letters. -/
def Operation.Names (op : Operation) (text : String) : Prop :=
  text.toList.map Char.toLower = op.token.toList

/-- A name of an operation is read as the operation. -/
theorem Operation.ofToken?_of_names {op : Operation} {text : String} (h : op.Names text) :
    ofToken? text.toList = some op := by
  unfold ofToken? Text.sameIgnoringCase
  rw [h]
  cases op <;> decide

/-- A token has no blanks, so there is nothing to trim. -/
theorem Operation.read_of_names {op : Operation} {text : String} (h : op.Names text) :
    Operation.read text = .ok op := by
  have htoken : op.token.toList.all (fun c => !Text.isBlank c) = true := by
    cases op <;> decide
  have hblank : ∀ c ∈ text.toList, Text.isBlank c = false := by
    intro c hc
    have hmem : c.toLower ∈ op.token.toList := h ▸ List.mem_map_of_mem hc
    rw [← Text.isBlank_toLower]
    simpa using List.all_eq_true.1 htoken c.toLower hmem
  rw [Operation.read, Operation.read?, Text.trim_eq_self hblank, ofToken?_of_names h]

/-- The token of an operation is a name of it. -/
theorem Operation.names_token (op : Operation) : op.Names op.token := by
  cases op <;> rfl

/-! ### Values that give a content -/

/-- The values by which a document gives a content. -/
def FieldKind.Documented : (k : FieldKind) → k.Content → Toml.Value → Prop
  | .text, s, v => v = .text s
  | .path, s, v => v = .text s
  | .texts, list, v => v = .array (list.map .text)
  | .operation, op, v => ∃ token, op.Names token ∧ v = .text token
  | .switch, on, v => v = .boolean on
  | .number, n, v => v = .integer n.toInt64

/-- Where every step succeeds, the results are those of the steps. -/
theorem mapM_eq_ok {α β ε : Type} {f : α → Except ε β} {g : α → β} {list : List α}
    (h : ∀ a ∈ list, f a = .ok (g a)) : list.mapM f = .ok (list.map g) := by
  induction list with
  | nil => rfl
  | cons a rest ih =>
    rw [List.mapM_cons, h a List.mem_cons_self, ih fun b hb => h b (List.mem_cons_of_mem a hb)]
    rfl

/-- **A value that documents a content is read as that content.** -/
theorem FieldKind.ofValue_of_documented {k : FieldKind} {content : k.Content} {v : Toml.Value}
    (h : k.Documented content v) : k.ofValue v = .ok content := by
  cases k with
  | text =>
    obtain rfl : v = .text content := h
    rfl
  | path =>
    obtain rfl : v = .text content := h
    rfl
  | switch =>
    obtain rfl : v = .boolean content := h
    rfl
  | texts =>
    obtain rfl : v = .array (content.map .text) := h
    have hread : ∀ s ∈ content, (readText "a string" ∘ Toml.Value.text) s = .ok (id s) :=
      fun _ _ => rfl
    have hmap := mapM_eq_ok hread
    rw [← List.mapM_map, List.map_id] at hmap
    exact hmap
  | operation =>
    obtain ⟨token, hnames, rfl⟩ := h
    dsimp only [ofValue, readText, Bind.bind, Except.bind]
    rw [Operation.read_of_names hnames]
  | number =>
    obtain rfl : v = .integer content.toInt64 := h
    have hvalue : FieldKind.number.ofValue (.integer content.toInt64) =
        if -2147483648 ≤ content.toInt64.toInt ∧ content.toInt64.toInt ≤ 2147483647 then
          .ok (Int32.ofInt content.toInt64.toInt)
        else .error (.outOfRange content.toInt64 "i32") := rfl
    have hlow := Int32.le_toInt content
    have hhigh := Int32.toInt_lt content
    rw [hvalue, Int32.toInt_toInt64, if_pos ⟨hlow, by omega⟩, Int32.ofInt_toInt]

/-- A field is found by its key in a document. -/
theorem Field.ofDocumentKey?_documentKey (f : Field) :
    Field.ofDocumentKey? f.documentKey = some f := by
  cases f <;> rfl

/-- **Different fields have different keys in a document.** -/
theorem Field.documentKey_injective {f g : Field} (h : f.documentKey = g.documentKey) : f = g := by
  have hsame := congrArg Field.ofDocumentKey? h
  rw [Field.ofDocumentKey?_documentKey, Field.ofDocumentKey?_documentKey] at hsame
  exact Option.some.inj hsame

/-- No other key finds a field. -/
theorem Field.documentKey_of_ofDocumentKey? {key : String} {f : Field}
    (h : Field.ofDocumentKey? key = some f) : key = f.documentKey :=
  (eq_of_beq (List.find?_some (p := fun f : Field => f.documentKey == key) h)).symm

/-- A value for a content. -/
def FieldKind.document : (k : FieldKind) → k.Content → Toml.Value
  | .text, s => .text s
  | .path, s => .text s
  | .texts, list => .array (list.map .text)
  | .operation, op => .text op.token
  | .switch, on => .boolean on
  | .number, n => .integer n.toInt64

/-- Every content can be documented. -/
theorem FieldKind.documented_document (k : FieldKind) (content : k.Content) :
    k.Documented content (k.document content) := by
  cases k with
  | operation => exact ⟨_, Operation.names_token content, rfl⟩
  | text => rfl
  | path => rfl
  | texts => rfl
  | switch => rfl
  | number => rfl

/-! ### Whole tables -/

/-- The root table gives each of the fields by its member and no other field. -/
structure Documents (fields : Fields) (members : List (String × Toml.Value)) : Prop where
  distinct : KeyMap.Distinct members
  given {f : Field} {content : f.Content} (h : fields f = some content) :
    ∃ v, (f.documentKey, v) ∈ members ∧ f.kind.Documented content v
  missing {f : Field} (h : fields f = none) : f.documentKey ∉ members.map Prod.fst

/-- What is given for the field of a key, if there is one. -/
def Fields.atKey (fields : Fields) (key : String) : Option Given :=
  (Field.ofDocumentKey? key).bind fun f => (fields f).map (Given.mk f)

variable {fields : Fields} {members : List (String × Toml.Value)}

/-- A member of the table gives what its key stands for. -/
theorem Documents.ofMember (h : Documents fields members) {m : String × Toml.Value}
    (hm : m ∈ members) : Given.ofMember m.1 m.2 = .ok (fields.atKey m.1) := by
  rw [Given.ofMember, Fields.atKey]
  cases hkey : Field.ofDocumentKey? m.1 with
  | none => rfl
  | some f =>
    have hname := Field.documentKey_of_ofDocumentKey? hkey
    cases hfield : fields f with
    | none => exact absurd (hname ▸ List.mem_map_of_mem hm) (h.missing hfield)
    | some content =>
      obtain ⟨v, hv, hdocumented⟩ := h.given hfield
      have hm : (f.documentKey, m.2) ∈ members := hname ▸ hm
      have hlookup := (h.distinct.lookup_eq_some_iff _ _).2 hm
      obtain rfl : m.2 = v := by
        rw [(h.distinct.lookup_eq_some_iff _ _).2 hv] at hlookup
        exact (Option.some.inj hlookup).symm
      dsimp only
      rw [FieldKind.ofValue_of_documented hdocumented]
      simp [Except.map, hfield]

/-- Only its own key gives a content for a field. -/
theorem Fields.atKey_bind_contentFor? (fields : Fields) (key : String) (f : Field) :
    (fields.atKey key).bind (Given.contentFor? f) =
      if key = f.documentKey then fields f else none := by
  unfold Fields.atKey
  cases hkey : Field.ofDocumentKey? key with
  | none =>
    have hne : key ≠ f.documentKey := by
      rintro rfl
      rw [Field.ofDocumentKey?_documentKey] at hkey
      cases hkey
    rw [if_neg hne]
    rfl
  | some other =>
    obtain rfl := Field.documentKey_of_ofDocumentKey? hkey
    by_cases hfield : other = f
    · subst hfield
      rw [if_pos rfl]
      cases hcontent : fields other with
      | none => simp [hcontent]
      | some content => simp [hcontent, Given.contentFor?]
    · rw [if_neg fun heq => hfield (Field.documentKey_injective heq)]
      cases hcontent : fields other with
      | none => simp [hcontent]
      | some content => simp [hcontent, Given.contentFor?, hfield]

/-- The table gives for every field what it describes. -/
theorem Documents.ofList (h : Documents fields members) :
    Fields.ofList ((members.map fun m => fields.atKey m.1).filterMap id) = fields := by
  funext f
  have hcontents : contents f ((members.map fun m => fields.atKey m.1).filterMap id) =
      (members.map Prod.fst).filterMap fun key => if key = f.documentKey then fields f else none := by
    rw [contents, List.filterMap_map, List.filterMap_filterMap, List.filterMap_map]
    exact List.filterMap_congr fun m _ => fields.atKey_bind_contentFor? m.1 f
  rw [Fields.ofList_apply, hcontents]
  cases hfield : fields f with
  | none =>
    have hnil : ((members.map Prod.fst).filterMap fun key =>
        if key = f.documentKey then (none : Option f.Content) else none) = [] := by
      rw [List.filterMap_eq_nil_iff]
      exact fun key _ => ite_self none
    rw [hnil]
    rfl
  | some content =>
    obtain ⟨v, hv, -⟩ := h.given hfield
    rw [List.filterMap_eq_flatMap_toList, flatMap_eq_of_nodup h.distinct.nodup_keys
      (List.mem_map_of_mem hv) fun key hkey => by rw [if_neg hkey]; rfl]
    rw [if_pos rfl]
    rfl

/-- The members that give fields one after another. -/
def Fields.document (fields : Fields) : List (String × Toml.Value) :=
  Field.all.filterMap fun f =>
    (fields f).map fun content => (f.documentKey, f.kind.document content)

/-- **Every description can be written as a document.** -/
theorem documents_document (fields : Fields) : Documents fields fields.document where
  distinct := by
    refine List.Pairwise.filterMap _ ?_ Field.nodup_all
    intro f g hne m hm m' hm' heq
    obtain ⟨content, -, rfl⟩ := Option.map_eq_some_iff.1 hm
    obtain ⟨content', -, rfl⟩ := Option.map_eq_some_iff.1 hm'
    exact hne (Field.documentKey_injective heq)
  given {f content} h :=
    ⟨_, List.mem_filterMap.2 ⟨f, f.mem_all, by rw [h]; rfl⟩, FieldKind.documented_document _ _⟩
  missing {f} h hmem := by
    obtain ⟨m, hm, hkey⟩ := List.mem_map.1 hmem
    obtain ⟨g, -, hg⟩ := List.mem_filterMap.1 hm
    obtain ⟨content, hcontent, rfl⟩ := Option.map_eq_some_iff.1 hg
    obtain rfl : g = f := Field.documentKey_injective hkey
    rw [h] at hcontent
    cases hcontent

end TableOptions.Streamer
