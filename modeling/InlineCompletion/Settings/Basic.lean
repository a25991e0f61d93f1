import InlineCompletion.Error
import InlineCompletion.Json.Decode
import InlineCompletion.Text.Search

/-!
The settings of the library: their defaults, the values that cannot be used, and their JSON form.
-/
namespace InlineCompletion
open Json

/-- How ghost text is drawn. -/
inductive GhostStyle where
  /-- In a lighter color. -/
  | faded
  /-- In italics and grey. -/
  | italic
  /-- Dimmed. -/
  | dimmed
deriving Repr, DecidableEq

/-- The styles by their names. -/
def GhostStyle.variants : List (String × GhostStyle) :=
  [("faded", .faded), ("italic", .italic), ("dimmed", .dimmed)]

/-- The name of a style. -/
def GhostStyle.name : GhostStyle → String
  | .faded => "faded"
  | .italic => "italic"
  | .dimmed => "dimmed"

/-- The style with this name. -/
def GhostStyle.ofName? (name : String) : Option GhostStyle :=
  (variants.find? fun variant => variant.1 == name).map Prod.snd

/-- The settings. -/
structure Config where
  /-- The language that is written. -/
  language : String
  /-- How long input has to rest before candidates are fetched, in milliseconds. -/
  debounceMs : Nat
  /-- How many candidates the prompt path keeps. -/
  promptCap : Nat
  /-- The object marker, which echo removal treats on its own. -/
  sentinelMarker : String
  /-- What follows the length of the document in its length tag. -/
  lengthTagMarker : String
  /-- The context that the plain path gives to the generator. -/
  plainPathContext : String
  /-- The prompt of an escalation, with a place for the ghost text. -/
  promptTemplate : String
  /-- How ghost text is drawn. -/
  ghostStyle : GhostStyle
deriving Repr, DecidableEq

/-- The place for the ghost text in a prompt template. -/
def promptPlaceholder : String := "\x7btext\x7d"

/-- The settings that hold where nothing else is said. -/
def Config.standard : Config where
  language := "c"
  debounceMs := 1000
  promptCap := 3
  sentinelMarker := "TextWindow"
  lengthTagMarker := "True"
  plainPathContext := "codecompletion"
  promptTemplate := "Please generate the following code in C language:\n\n" ++ promptPlaceholder
  ghostStyle := .italic

/-- Whether a template has a place for the ghost text. -/
def hasPlaceholder (template : String) : Bool :=
  Text.occursIn promptPlaceholder.toList template.toList

/-- The first reason, in the order of this list, why settings cannot be used. -/
def Config.problem? (c : Config) : Option String :=
  if c.language.isEmpty then some "Language name cannot be empty"
  else if c.promptCap = 0 then some "Prompt cap must be at least 1"
  else if c.debounceMs = 0 then some "Debounce delay must be at least 1ms"
  else if !hasPlaceholder c.promptTemplate then
    some ("Prompt template must contain " ++ promptPlaceholder)
  else none

/-- Settings that can be used. -/
def Config.validate (c : Config) : Except CompletionError Config :=
  match c.problem? with
  | some reason => .error (.configError reason)
  | none => .ok c

/-- A style by its name. -/
def asGhostStyle : Json → Decoded GhostStyle :=
  asPlainEnumeration GhostStyle.variants

/-- The fields of the settings. Other members are ignored. -/
def Config.shape : RecordShape :=
  ⟨"CompletionConfig",
    [("language", checking asString), ("debounce_ms", checking asWord),
     ("prompt_cap", checking asCount), ("sentinel_marker", checking asString),
     ("length_tag_marker", checking asString), ("plain_path_context", checking asString),
     ("prompt_template", checking asString), ("ghost_style", checking asGhostStyle)],
    false⟩

/-- Settings from a JSON value. A field that is missing has its standard value. -/
def Config.read : Json → Decoded Config :=
  shape.read fun source => do
    let language ← source.optional 0 "language" asString standard.language
    let debounceMs ← source.optional 1 "debounce_ms" asWord standard.debounceMs
    let promptCap ← source.optional 2 "prompt_cap" asCount standard.promptCap
    let sentinelMarker ← source.optional 3 "sentinel_marker" asString standard.sentinelMarker
    let lengthTagMarker ← source.optional 4 "length_tag_marker" asString standard.lengthTagMarker
    let plainPathContext ← source.optional 5 "plain_path_context" asString standard.plainPathContext
    let promptTemplate ← source.optional 6 "prompt_template" asString standard.promptTemplate
    let ghostStyle ← source.optional 7 "ghost_style" asGhostStyle standard.ghostStyle
    return { language, debounceMs, promptCap, sentinelMarker, lengthTagMarker, plainPathContext,
             promptTemplate, ghostStyle }

/-- The members of the settings, in the order of their declaration. -/
def Config.members (c : Config) : List (String × Json) :=
  [("language", .string c.language), ("debounce_ms", .integer c.debounceMs),
   ("prompt_cap", .integer c.promptCap), ("sentinel_marker", .string c.sentinelMarker),
   ("length_tag_marker", .string c.lengthTagMarker),
   ("plain_path_context", .string c.plainPathContext),
   ("prompt_template", .string c.promptTemplate), ("ghost_style", .string c.ghostStyle.name)]

/-- Settings as a JSON value. -/
def Config.toJson (c : Config) : Json :=
  .object c.members

end InlineCompletion
