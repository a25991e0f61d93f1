/-!
What can go wrong while completions are prepared, and the wording of each failure.
-/
namespace InlineCompletion

/-- A failure of the completion paths or of the settings. -/
inductive CompletionError where
  /-- The suggestion source had nothing. -/
  | emptySuggestionResult
  /-- The generator had nothing for the candidate with this label. -/
  | noUsableResponse (label : String)
  /-- The cursor lies behind the end of a document of this many characters. -/
  | offsetOutOfRange (offset length : Nat)
  /-- A delivered candidate does not have the expected form. -/
  | invalidCandidate (reason : String)
  /-- The suggestion source failed. -/
  | sourceError (reason : String)
  /-- The settings hold a value that cannot be used. -/
  | configError (reason : String)
  /-- A file cannot be read. -/
  | ioError
  /-- A JSON text does not hold settings. -/
  | serializationError
  /-- A YAML text does not hold settings. -/
  | yamlError
deriving Repr, DecidableEq

/-- The name of the kind of failure. -/
def CompletionError.kind : CompletionError → String
  | .emptySuggestionResult => "EmptySuggestionResult"
  | .noUsableResponse _ => "NoUsableResponse"
  | .offsetOutOfRange _ _ => "OffsetOutOfRange"
  | .invalidCandidate _ => "InvalidCandidate"
  | .sourceError _ => "SourceError"
  | .configError _ => "ConfigError"
  | .ioError => "IoError"
  | .serializationError => "SerializationError"
  | .yamlError => "YamlError"

/-- The wording of a failure. -/
def CompletionError.message : CompletionError → String
  | .emptySuggestionResult => "Suggestion source returned no candidates"
  | .noUsableResponse label => "No usable response for candidate '" ++ label ++ "'"
  | .offsetOutOfRange offset length =>
    "Cursor offset " ++ offset.repr ++ " is out of range for a document of " ++ length.repr ++
      " characters"
  | .invalidCandidate reason => "Invalid candidate: " ++ reason
  | .sourceError reason => "Suggestion source error: " ++ reason
  | .configError reason => "Configuration error: " ++ reason
  | .ioError => "IO error"
  | .serializationError => "Serialization error"
  | .yamlError => "YAML error"

end InlineCompletion
