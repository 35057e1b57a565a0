import TableOptions.JsonText
import TableOptions.Registry
import TableOptions.Text.Lines

/-!
# Listings

What a registry holds, as a table, as JSON, or one option with everything known about it. A listing
shows the registered options that meet every given filter, in order of registration.
-/

namespace TableOptions

/-- Which options a listing shows: of one group, required ones only, optional ones only. -/
structure Filter where
  group : Option String
  required : Bool
  optional : Bool
deriving DecidableEq

/-- The formats of a listing. -/
inductive ListFormat where
  | text
  | json
deriving DecidableEq, Repr

/-- Why there is nothing to show. -/
inductive ListingError where
  | unknownGroup (group : String) (known : List String)
  | unknownOption (key : String)
deriving DecidableEq

/-- The wording of a refused listing. -/
def ListingError.message : ListingError → String
  | unknownGroup group known =>
    "Unknown option group '" ++ group ++ "'. Known groups: " ++ String.intercalate ", " known
  | unknownOption key =>
    "Unknown option '" ++ key ++ "'. Use 'list' to see available options"

namespace Registry

/-- The options that meet every given filter. -/
def selected (r : Registry) (f : Filter) : List Definition :=
  let candidates := if f.optional then r.optional else r.definitions
  let needed := if f.required then candidates.filter Definition.isRequired else candidates
  match f.group with
  | some group => needed.filter fun d => d.group == group
  | none => needed

/-- The options that meet every given filter; a group has to be known. -/
def select (r : Registry) (f : Filter) : Except ListingError (List Definition) :=
  match f.group with
  | some group =>
    if r.groups.contains group then .ok (r.selected f)
    else .error (.unknownGroup group r.groups)
  | none => .ok (r.selected f)

end Registry

namespace Definition

/-- The fields of an option in JSON, at a level. -/
def toJson (d : Definition) (level : Nat) : List Char :=
  let allowed := d.allowedValues.map JsonText.string
  JsonText.object level <|
    [("key", JsonText.string d.key),
     ("group", JsonText.string d.group),
     ("type", JsonText.string d.type.name),
     ("default", match d.default with
        | some v => JsonText.string v.text
        | none => "null".toList),
     ("required", JsonText.bool d.isRequired)] ++
    (if allowed.isEmpty then [] else [("allowed_values", JsonText.array (level + 1) allowed)]) ++
    [("description", JsonText.string d.description)]

/-- What a table says about the default of an option. -/
def defaultNote (d : Definition) : List Char :=
  match d.default with
  | some v => "default: ".toList ++ Text.quoted v.text.toList
  | none => (if d.isRequired then "required" else "no default").toList

/-- A text with blanks after it up to a number of characters. -/
def padded (width : Nat) (s : List Char) : List Char :=
  s ++ List.replicate (width - s.length) ' '

/-- A row of a table whose keys take `width` columns. -/
def row (d : Definition) (width : Nat) : List Char :=
  padded width d.key.toList ++ ' ' :: ' ' ::
    (padded 8 d.type.name.toList ++ ' ' :: (d.defaultNote ++ ['\n']))

/-- Everything known about an option. -/
def details (d : Definition) : List Char :=
  let defaultText := match d.default with
    | some v => Text.quoted v.text.toList
    | none => "(none, must be supplied)".toList
  "Key:      ".toList ++ d.key.toList ++ '\n' ::
  ("Group:    ".toList ++ d.group.toList) ++ '\n' ::
  ("Type:     ".toList ++ d.type.name.toList) ++ '\n' ::
  ("Default:  ".toList ++ defaultText) ++ '\n' ::
  (if d.allowedValues.isEmpty then []
    else "Values:   ".toList ++ (String.intercalate ", " d.allowedValues).toList ++ ['\n']) ++
  '\n' :: (Text.lines d.description.toList).flatMap fun line => ' ' :: ' ' :: (line ++ ['\n'])

end Definition

/-- A table of options. The keys take as many columns as the longest of them has bytes. -/
def table (options : List Definition) : List Char :=
  if options.isEmpty then "No options found.\n".toList
  else
    let width := options.foldl (fun width d => max width d.key.utf8ByteSize) 0
    (options.flatMap fun d => d.row width) ++
      "\nTotal options: ".toList ++ Text.decimalDigits options.length ++ ['\n']

namespace Registry

/-- The listing of the options that meet every given filter. -/
def list (r : Registry) (f : Filter) (format : ListFormat) : Except ListingError String :=
  (r.select f).map fun options =>
    String.ofList <|
      match format with
      | .text => table options
      | .json => JsonText.array 0 (options.map fun d => d.toJson 1) ++ ['\n']

/-- The description of the option of a key. -/
def describe (r : Registry) (key : String) : Except ListingError String :=
  match r.get? key with
  | some d => .ok (String.ofList d.details)
  | none => .error (.unknownOption key)

end Registry

end TableOptions
