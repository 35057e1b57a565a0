import TableOptions.Proofs.Changes.Views

/-!
# What problems are about

A problem names the key of the option that it is about. There is one about a registered option exactly
if a consumer would trip over what is stored for it (`mem_problems_about_iff`), and all of them are about
registered options for which something is stored (`about_of_mem_problems`).
-/

namespace TableOptions

/-- The key of the option that could not be read. -/
def ReadError.key? : ReadError → Option String
  | invalidValue key _ => some key
  | wrongType _ => none

/-- The key of the option that a problem is about. -/
def Problem.key? : Problem → Option String
  | unreadable cause => cause.key?
  | notAllowed key _ _ => some key

namespace Configuration

variable {registry : Registry} {conf : Configuration} {option : Definition} {value : Value}
  {p : Problem}

/-- An option trips over problems about its own key. -/
theorem TripsOver.key?_eq (h : conf.TripsOver option p) : p.key? = some option.key := by
  cases h with
  | unreadable h =>
    obtain ⟨cause, rfl⟩ := h.eq_invalidValue
    rfl
  | notAllowed => rfl

/-- Nobody trips over what is not there. -/
theorem TripsOver.exists_stored (h : conf.TripsOver option p) :
    ∃ stored, conf.get? option.key = some stored := by
  cases h with
  | unreadable h =>
    obtain ⟨stored, _, hstored, _⟩ := h
    exact ⟨stored, hstored⟩
  | notAllowed h =>
    obtain ⟨stored, hstored, _⟩ := h
    exact ⟨stored, hstored⟩

/-- **The problems of a configuration are those that the registered options trip over.** -/
theorem mem_problems_iff :
    p ∈ conf.problems registry ↔ ∃ option ∈ registry.definitions, conf.TripsOver option p := by
  rw [problems, List.mem_filterMap]
  exact exists_congr fun option => and_congr_right fun _ => problem?_eq_some_iff

/-- **A problem about a registered option** is what a consumer would trip over. -/
theorem mem_problems_about_iff (h : option ∈ registry.definitions) :
    p ∈ conf.problems registry ∧ p.key? = some option.key ↔ conf.TripsOver option p := by
  constructor
  · rintro ⟨hmem, hkey⟩
    obtain ⟨other, hother, htrips⟩ := mem_problems_iff.1 hmem
    have hsame : other.key = option.key := Option.some.inj (htrips.key?_eq.symm.trans hkey)
    exact Registry.eq_of_key_eq h hother hsame ▸ htrips
  · exact fun htrips => ⟨mem_problems_iff.2 ⟨option, h, htrips⟩, htrips.key?_eq⟩

/-- A problem is about the key of a registered option at which something is stored. -/
theorem about_of_mem_problems (h : p ∈ conf.problems registry) :
    ∃ option ∈ registry.definitions, p.key? = some option.key ∧
      ∃ stored, conf.get? option.key = some stored := by
  obtain ⟨option, hmem, htrips⟩ := mem_problems_iff.1 h
  exact ⟨option, hmem, htrips.key?_eq, htrips.exists_stored⟩

/-- With a value that converts, what counts is whether its text is accepted. -/
theorem tripsOver_iff_of_convertsTo (h : conf.ConvertsTo option value) :
    conf.TripsOver option p ↔ option.accepts value.text = false ∧
      p = .notAllowed option.key value option.allowedValues := by
  rw [← problem?_eq_some_iff, problem?, getExplicit_eq_ok_some_iff.2 h]
  dsimp only
  cases option.accepts value.text with
  | true => simp
  | false => simp [eq_comm]

end Configuration

end TableOptions
