import InlineCompletion.Settings.Basic

/-!
Settings from a text, field by field. Every format gives its fields by name and reads three kinds of
values: texts, numbers and styles. Fields that do not occur keep their standard values, unknown ones
are skipped, and a known one may occur only once.
-/
namespace InlineCompletion

/-- The fields of the settings. -/
inductive Field where
  | language
  | debounceMs
  | promptCap
  | sentinelMarker
  | lengthTagMarker
  | plainPathContext
  | promptTemplate
  | ghostStyle
deriving Repr, DecidableEq

/-- The fields in the order of their declaration, by their names. -/
def Field.named : List (String × Field) :=
  [("language", .language), ("debounce_ms", .debounceMs), ("prompt_cap", .promptCap),
   ("sentinel_marker", .sentinelMarker), ("length_tag_marker", .lengthTagMarker),
   ("plain_path_context", .plainPathContext), ("prompt_template", .promptTemplate),
   ("ghost_style", .ghostStyle)]

/-- The field with this name. -/
def Field.ofName? (name : String) : Option Field :=
  (named.find? fun field => field.1 == name).map Prod.snd

/-- How a format reads the values of the settings. -/
structure ValueReader (α : Type) where
  text : α → Option String
  number : α → Option Nat
  style : α → Option GhostStyle

/-- Settings with one field read from a value. -/
def Config.set {α : Type} (reader : ValueReader α) (c : Config) (field : Field) (value : α) :
    Option Config :=
  match field with
  | .language => (reader.text value).map fun v => { c with language := v }
  | .debounceMs => (reader.number value).map fun v => { c with debounceMs := v }
  | .promptCap => (reader.number value).map fun v => { c with promptCap := v }
  | .sentinelMarker => (reader.text value).map fun v => { c with sentinelMarker := v }
  | .lengthTagMarker => (reader.text value).map fun v => { c with lengthTagMarker := v }
  | .plainPathContext => (reader.text value).map fun v => { c with plainPathContext := v }
  | .promptTemplate => (reader.text value).map fun v => { c with promptTemplate := v }
  | .ghostStyle => (reader.style value).map fun v => { c with ghostStyle := v }

/-- Settings with the given fields read in order. A field that was `seen` before is refused. -/
def Config.setAll {α : Type} (reader : ValueReader α) (seen : List Field) (c : Config) :
    List (String × α) → Option Config
  | [] => some c
  | (name, value) :: rest =>
    match Field.ofName? name with
    | none => c.setAll reader seen rest
    | some field =>
      if field ∈ seen then none
      else
        match c.set reader field value with
        | some changed => changed.setAll reader (field :: seen) rest
        | none => none

/-- The standard settings overridden by the given fields. -/
def Config.ofFields? {α : Type} (reader : ValueReader α) (fields : List (String × α)) :
    Option Config :=
  Config.standard.setAll reader [] fields

/-- The standard settings overridden by values in the order of the fields' declaration. -/
def Config.ofPlaces? {α : Type} (reader : ValueReader α) (values : List α) : Option Config :=
  if Field.named.length < values.length then none
  else Config.ofFields? reader ((Field.named.map Prod.fst).zip values)

end InlineCompletion
