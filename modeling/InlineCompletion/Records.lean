import InlineCompletion.Entry
import InlineCompletion.Cursor
import InlineCompletion.Ghost.Editor
import InlineCompletion.Ghost.Offers

/-!
The JSON forms of the values that a host exchanges with this library. Records are written with their
fields in the order of their declaration and read as `Json.RecordShape` says.
-/
namespace InlineCompletion
open Json Ghost

/-- A context has three texts. -/
def Context.read : Json → Decoded Context :=
  RecordShape.read
    ⟨"Context",
      ["before_cursor", "after_cursor", "length_tag"].map fun name => (name, checking asString),
      false⟩
    fun source => do
      let beforeCursor ← source.required 0 "before_cursor" asString
      let afterCursor ← source.required 1 "after_cursor" asString
      let lengthTag ← source.required 2 "length_tag" asString
      return ⟨beforeCursor, afterCursor, lengthTag⟩

/-- The members of a context. -/
def Context.toJson (c : Context) : Json :=
  .object [("before_cursor", .string c.beforeCursor), ("after_cursor", .string c.afterCursor),
    ("length_tag", .string c.lengthTag)]

/-- An entry has five texts. -/
def Entry.read : Json → Decoded Entry :=
  RecordShape.read
    ⟨"ReconciledSuggestion",
      ["display_label", "insert_text", "sort_text", "documentation", "filter_text"].map fun name =>
        (name, checking asString),
      false⟩
    fun source => do
      let displayLabel ← source.required 0 "display_label" asString
      let insertText ← source.required 1 "insert_text" asString
      let sortText ← source.required 2 "sort_text" asString
      let documentation ← source.required 3 "documentation" asString
      let filterText ← source.required 4 "filter_text" asString
      return { displayLabel, insertText, sortText, documentation, filterText }

/-- The members of an entry. -/
def Entry.toJson (e : Entry) : Json :=
  .object [("display_label", .string e.displayLabel), ("insert_text", .string e.insertText),
    ("sort_text", .string e.sortText), ("documentation", .string e.documentation),
    ("filter_text", .string e.filterText)]

/-- The phases: three by their names, and one that holds an index. -/
def Ghost.Phase.read : Json → Decoded Phase :=
  asEnumeration
    [("Idle", plainVariant .idle), ("Debouncing", plainVariant .debouncing),
     ("Fetching", plainVariant .fetching),
     ("Showing", heldVariant fun value => (asCount value).map Phase.showing)]

/-- A phase by its name, or as an object that holds the index. -/
def Ghost.Phase.toJson : Phase → Json
  | .idle => .string "Idle"
  | .debouncing => .string "Debouncing"
  | .fetching => .string "Fetching"
  | .showing index => .object [("Showing", .integer index)]

/-- A ghost text has a text and an anchor. -/
def Ghost.GhostText.read : Json → Decoded GhostText :=
  RecordShape.read
    ⟨"GhostText", [("text", checking asString), ("anchor", checking asCount)], false⟩
    fun source => do
      let text ← source.required 0 "text" asString
      let anchor ← source.required 1 "anchor" asCount
      return ⟨text, anchor⟩

/-- The members of a ghost text. -/
def Ghost.GhostText.toJson (g : GhostText) : Json :=
  .object [("text", .string g.text), ("anchor", .integer g.anchor)]

/-- A font style by its name. -/
def Ghost.FontStyle.read : Json → Decoded FontStyle :=
  asPlainEnumeration FontStyle.variants

/-- A decoration has a text, a color and a font style. -/
def Ghost.DecorationSpec.read : Json → Decoded DecorationSpec :=
  RecordShape.read
    ⟨"DecorationSpec",
      [("content_text", checking asString), ("color", checking asString),
       ("font_style", checking FontStyle.read)],
      false⟩
    fun source => do
      let contentText ← source.required 0 "content_text" asString
      let color ← source.required 1 "color" asString
      let fontStyle ← source.required 2 "font_style" FontStyle.read
      return { contentText, color, fontStyle }

/-- The members of a decoration. -/
def Ghost.DecorationSpec.toJson (d : DecorationSpec) : Json :=
  .object [("content_text", .string d.contentText), ("color", .string d.color),
    ("font_style", .string d.fontStyle.name)]

/-- A level of a notice by its name. -/
def Ghost.NoticeLevel.read : Json → Decoded NoticeLevel :=
  asPlainEnumeration NoticeLevel.variants

/-- The kinds of values that are exchanged. -/
inductive RecordKind where
  | candidate
  | context
  | entry
  | ghostStyle
  | phase
  | ghostText
  | fontStyle
  | decorationSpec
  | handle
  | noticeLevel
  | config
deriving Repr, DecidableEq

/-- A value that was read as its kind and is given back as JSON. -/
def RecordKind.pass : RecordKind → Json → Decoded Json
  | .candidate, json => (Candidate.read json).map Candidate.toJson
  | .context, json => (Context.read json).map Context.toJson
  | .entry, json => (Entry.read json).map Entry.toJson
  | .ghostStyle, json => (asGhostStyle json).map fun style => .string style.name
  | .phase, json => (Phase.read json).map Phase.toJson
  | .ghostText, json => (GhostText.read json).map GhostText.toJson
  | .fontStyle, json => (FontStyle.read json).map fun style => .string style.name
  | .decorationSpec, json => (DecorationSpec.read json).map DecorationSpec.toJson
  | .handle, json => (asWord json).map fun handle => .integer handle
  | .noticeLevel, json => (NoticeLevel.read json).map fun level => .string level.name
  | .config, json => (Config.read json).map Config.toJson

end InlineCompletion
