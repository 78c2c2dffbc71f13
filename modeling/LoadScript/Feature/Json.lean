import LoadScript.Feature.Basic
import LoadScript.Text.Json

set_option autoImplicit false

namespace LoadScript

namespace Json

def texts (ss : List String) : Json := .list (ss.map .text)

def optionalField (key : String) (value : Option Json) : List (String × Json) :=
  (value.map fun v => (key, v)).toList

end Json

namespace Parameters

def toJson (p : Parameters) : Json := .object (p.entries.map fun (key, value) => (key, .text value))

end Parameters

namespace Step

def toJson (s : Step) : Json :=
  .object ([("keyword", .text s.keyword), ("text", .text s.text)] ++
    Json.optionalField "table"
      (s.table.map fun rows => .object [("rows", .list (rows.map Json.texts))]) ++
    Json.optionalField "docstring" (s.docstring.map .text))

end Step

namespace Scenario

def toJson (s : Scenario) : Json :=
  .object ([("name", .text s.name), ("tags", Json.texts s.tags), ("kind", .text s.kind.name)] ++
    Json.optionalField "example_group_name" (s.group.map .text) ++
    [("parameters", s.parameters.toJson), ("steps", .list (s.steps.map Step.toJson))])

end Scenario

namespace Feature

def toJson (f : Feature) : Json :=
  .object ([("name", .text f.name), ("description", .text f.description),
      ("tags", Json.texts f.tags), ("source_path", .text f.sourcePath)] ++
    Json.optionalField "background" (f.background.map fun steps => .list (steps.map Step.toJson)) ++
    [("scenarios", .list (f.scenarios.map Scenario.toJson))])

end Feature

end LoadScript
