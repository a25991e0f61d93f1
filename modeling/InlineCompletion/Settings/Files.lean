import InlineCompletion.Settings.JsonText
import InlineCompletion.Settings.YamlText

/-!
Finding and loading settings. Of the files that can hold settings the first one that exists decides:
in the project's directory before the user's, and in each of them `completion.yaml` before
`completion.yml` before `completion.json`. A file that cannot be used is an error and never passed
over.
-/
namespace InlineCompletion

/-- The forms of a settings text. -/
inductive Format where
  | yaml
  | json
deriving Repr, DecidableEq

/-- The settings that a text holds, before they are validated. -/
def Config.ofText (format : Format) (text : String) : Except CompletionError Config :=
  match format with
  | .yaml =>
    match Config.ofYamlText? text with
    | some c => .ok c
    | none => .error .yamlError
  | .json =>
    match Config.ofJsonText? text with
    | some c => .ok c
    | none => .error .serializationError

/-- The settings that a text holds, if they can be used. -/
def Config.load (format : Format) (text : String) : Except CompletionError Config := do
  (← Config.ofText format text).validate

/-- What a path leads to. -/
inductive FileEntry where
  | file (content : ByteArray)
  /-- A file that may not be read. -/
  | locked
  | directory (entries : List (String × FileEntry))
deriving Inhabited

/-- The entry of a directory with this name. -/
def FileEntry.child? (name : String) : FileEntry → Option FileEntry
  | .directory entries => (entries.find? fun entry => entry.1 == name).map Prod.snd
  | _ => none

/-- Settings from what a path leads to. Only a file with text in it can be read. -/
def Config.loadFile (format : Format) : Option FileEntry → Except CompletionError Config
  | some (.file content) =>
    match String.fromUTF8? content with
    | some text => Config.load format text
    | none => .error .ioError
  | _ => .error .ioError

/-- The names that settings may have in a directory, in the order in which they are looked for. -/
def settingsNames : List (String × Format) :=
  [("completion.yaml", .yaml), ("completion.yml", .yaml), ("completion.json", .json)]

/-- Settings from the first of some entries of a directory that exists; none if none does. -/
def Config.loadFirst (directory : FileEntry) :
    List (String × Format) → Except CompletionError (Option Config)
  | [] => .ok none
  | (name, format) :: rest =>
    match directory.child? name with
    | some entry => (Config.loadFile format (some entry)).map some
    | none => Config.loadFirst directory rest

/-- The settings of a directory, if it has any. What is no directory has none. -/
def Config.loadDirectory : Option FileEntry → Except CompletionError (Option Config)
  | some (.directory entries) => Config.loadFirst (.directory entries) settingsNames
  | _ => .ok none

/-- The settings of a project's directory, or else those of the user's directory, or else the
standard ones. -/
def Config.lookUp (project user : Option FileEntry) : Except CompletionError Config := do
  match ← Config.loadDirectory project with
  | some c => return c
  | none =>
    match ← Config.loadDirectory user with
    | some c => return c
    | none => return .standard

end InlineCompletion
