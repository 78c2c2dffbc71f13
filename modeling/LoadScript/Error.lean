set_option autoImplicit false

namespace LoadScript

inductive PathKind where
  | file
  | directory
  | fileOrDirectory
  deriving DecidableEq, Repr

namespace PathKind

def describe : PathKind → String
  | .file => "feature file"
  | .directory => "directory"
  | .fileOrDirectory => "feature file or directory"

end PathKind

inductive Error where
  | malformed (path cause : String)
  | notFound (path : String) (kind : PathKind)
  | noFeatureFiles (path : String)
  | noScenarios
  | unsupportedLanguage (name : String)
  | unwritable (path cause : String)
  | invalidPair (pair : String)
  | unstartable (engine cause : String)
  /-- A file that exists could not be read as text. -/
  | unreadable (cause : String)
  deriving DecidableEq, Repr

namespace Error

def headline : Error → String
  | .malformed path _ => "Failed to parse " ++ path
  | .notFound path kind => kind.describe ++ " not found: " ++ path
  | .noFeatureFiles path => "No .feature files found in " ++ path
  | .noScenarios => "No scenarios to generate"
  | .unsupportedLanguage name => "Unsupported Gherkin language: '" ++ name ++ "'"
  | .unwritable path _ => "Failed to write " ++ path
  | .invalidPair pair =>
    "Invalid environment pair: '" ++ pair ++
      "'. Expected KEY=VALUE (e.g., BASE_URL=http://localhost:3000)"
  | .unstartable engine _ => "Failed to start " ++ engine
  | .unreadable _ => "IO error"

def cause? : Error → Option String
  | .malformed _ cause | .unwritable _ cause => some cause
  | .unstartable _ cause | .unreadable cause => some cause
  | _ => none

def message (e : Error) : String :=
  match e.cause? with
  | some cause => e.headline ++ ": " ++ cause
  | none => e.headline

end Error

end LoadScript
