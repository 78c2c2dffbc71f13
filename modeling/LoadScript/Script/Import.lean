import LoadScript.Distinct
import LoadScript.Metric
import LoadScript.Text.Sorted

set_option autoImplicit false

namespace LoadScript

structure Import where
  defaultName : Option String
  names : List String
  source : String
  deriving DecidableEq, Repr

namespace Import

structure Module where
  /-- Whether the module is part of the engine; else it is a file of the request library. -/
  ofEngine : Bool
  path : String
  defaultName : Option String
  names : List String

def modules : List Module := [
  ⟨true, "k6", none, ["check", "fail", "group", "sleep"]⟩,
  ⟨true, "k6/http", some "http", []⟩,
  ⟨false, "auth.js", none, ["login", "authHeaders"]⟩,
  ⟨false, "products.js", none, ["searchProducts", "listProducts", "getProduct"]⟩,
  ⟨false, "users.js", none, ["getProfile", "listUsers"]⟩,
  ⟨false, "orders.js", none, ["createOrder", "listOrders"]⟩]

def Module.exports (m : Module) : List String := m.defaultName.toList ++ m.names

def isKnown (symbol : String) : Bool := modules.any fun m => m.exports.contains symbol

def metricsSource : String := "k6/metrics"

def reportHelpers : List Import := [
  ⟨none, ["htmlReport"],
    "https://raw.githubusercontent.com/benc-uk/k6-reporter/main/dist/bundle.js"⟩,
  ⟨none, ["textSummary"], "https://jslib.k6.io/k6-summary/0.0.1/index.js"⟩]

def withoutEndSlashes (dir : String) : String :=
  String.ofList (dir.toList.reverse.dropWhile (· == '/')).reverse

def Module.source (libraryDir : String) (m : Module) : String :=
  if m.ofEngine then m.path else withoutEndSlashes libraryDir ++ "/" ++ m.path

def Module.import? (required : List String) (libraryDir : String) (m : Module) : Option Import :=
  let defaultName := m.defaultName.filter required.contains
  let names := m.names.filter required.contains
  if defaultName.isNone && names.isEmpty then none
  else some ⟨defaultName, names, m.source libraryDir⟩

def metricClasses? (kinds : List MetricKind) : Option Import :=
  let used := MetricKind.all.filter kinds.contains
  if used.isEmpty then none else some ⟨none, used.map MetricKind.className, metricsSource⟩

/-- The imports of a script: engine modules, metric classes, library files, report helpers. -/
def resolve (required : List String) (kinds : List MetricKind) (libraryDir : String) :
    List Import :=
  (modules.filter (·.ofEngine)).filterMap (Module.import? required libraryDir) ++
    (metricClasses? kinds).toList ++
    (modules.filter (!·.ofEngine)).filterMap (Module.import? required libraryDir) ++
    reportHelpers

/-- The required symbols that no module exports, each once and in increasing order. -/
def unknown (required : List String) : List String :=
  Text.sort (distinct (required.filter (!isKnown ·)))

end Import

end LoadScript
