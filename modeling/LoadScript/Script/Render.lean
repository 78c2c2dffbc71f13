import LoadScript.Script.Fragment
import LoadScript.Script.Module
import LoadScript.Text.Lines

set_option autoImplicit false

namespace LoadScript.Script

/-! ## Header and imports -/

def ruler : String := "// ------------------------------------------------------------"

def parameterLines (p : Parameters) : List String :=
  if p.isEmpty then []
  else
    "// Parameters:" ::
      p.toList.map fun (key, value) => "//   " ++ commentText key ++ " = " ++ commentText value

def headerSection (h : ScriptHeader) : String :=
  Text.joinLines (
    [ruler,
     "// Generated by bdd-k6. Do not edit by hand.",
     "//",
     "// Feature:   " ++ commentText h.feature,
     "// Scenario:  " ++ commentText h.scenario] ++
    (h.exampleGroup.map fun group => "// Examples:  " ++ commentText group).toList ++
    ["// Source:    " ++ commentText h.sourcePath] ++
    parameterLines h.parameters ++
    ["// Generated: " ++ h.generatedAt, ruler])

def importLine (i : Import) : String :=
  let names := if i.names.isEmpty then [] else [braced (", ".intercalate i.names)]
  "import " ++ ", ".intercalate (i.defaultName.toList ++ names) ++ " from " ++ literal i.source ++
    ";"

def importSection (imports : List Import) : String := Text.joinLines (imports.map importLine)

def baseUrlSection (baseUrl : String) : String :=
  "const BASE_URL = __ENV.BASE_URL || " ++ literal baseUrl ++ ";"

/-! ## Metrics and options -/

def metricLine (m : Metric) : String :=
  let timeFlag := if m.isTime && m.kind = .trend then ", true" else ""
  "const " ++ m.name ++ " = new " ++ m.kind.className ++ "(" ++ literal m.externalName ++
    timeFlag ++ ");"

def metricSection (metrics : List Metric) : String := Text.joinLines (metrics.map metricLine)

def stageLine (s : Stage) : String :=
  "  " ++ braced ("duration: '" ++ Nat.repr s.seconds ++ "s', target: " ++ Nat.repr s.target) ++ ","

def profileLines : LoadProfile → List String
  | .fixed virtualUsers iterations =>
    ["executor: 'per-vu-iterations',",
     "vus: " ++ Nat.repr virtualUsers ++ ",",
     "iterations: " ++ Nat.repr iterations ++ ","]
  | .ramping startUsers stages =>
    ["executor: 'ramping-vus',", "startVUs: " ++ Nat.repr startUsers ++ ",", "stages: ["] ++
      stages.map stageLine ++ ["],"]

def thresholdLine (r : MetricRules) : String :=
  "    " ++ literal r.metric ++ ": [" ++ ", ".intercalate (r.rules.map literal) ++ "],"

def thresholdLines (thresholds : List MetricRules) : List String :=
  if thresholds.isEmpty then []
  else
    [r"  thresholds: {"] ++ thresholds.map thresholdLine ++ [r"  },"]

def optionSection (profile : LoadProfile) (thresholds : List MetricRules) : String :=
  Text.joinLines (
    [r"export const options = {",
     r"  scenarios: {",
     r"    default: {"] ++
    (profileLines profile).map ("      " ++ ·) ++
    [r"    },", r"  },"] ++
    thresholdLines thresholds ++
    [r"};"])

/-! ## Functions -/

def setupBlock (fragment : String) : List String :=
  [r"  {", Text.indent 4 fragment, r"  }"]

def setupSection (fragments : List String) : String :=
  if fragments.isEmpty then ""
  else
    Text.joinLines (
      [r"export function setup() {",
       r"  const ctx = {};"] ++
      fragments.flatMap setupBlock ++
      ["  return ctx;", r"}"])

def workloadBlock : WorkloadItem → String
  | .group label code =>
    Text.joinLines [
      "  group(" ++ literal label ++ r", () => {",
      Text.indent 4 code,
      r"  });"]
  | .unrecognized label => "  // Unrecognized step: " ++ commentText label

def workloadSection (items : List WorkloadItem) : String :=
  Text.joinLines [
    r"export default function (data) {",
    "\n\n".intercalate ("  let res;" :: items.map workloadBlock),
    r"}"]

def teardownSection (scenario : String) : String :=
  Text.joinLines [
    r"export function teardown(data) {",
    "  console.log(" ++ literal ("Scenario completed: " ++ scenario) ++ ");",
    r"}"]

def reportSection (m : ScriptModule) : String :=
  let base := Import.withoutEndSlashes m.reportDir ++ "/" ++ m.reportSlug ++ "-"
  Text.joinLines [
    r"export function handleSummary(data) {",
    "  const stamp = new Date().toISOString().replace(/[:.]/g, '-');",
    "  const base = " ++ literal base ++ " + stamp;",
    r"  return {",
    "    [`" ++ interpolated "base" ++ ".html`]: htmlReport(data, " ++
      braced ("title: " ++ literal m.header.scenario) ++ "),",
    "    [`" ++ interpolated "base" ++ ".json`]: JSON.stringify(data, null, 2),",
    "    stdout: textSummary(data, " ++ braced "indent: ' ', enableColors: true" ++ "),",
    r"  };",
    r"}"]

def sections (m : ScriptModule) : List String := [
  headerSection m.header,
  importSection m.imports,
  baseUrlSection m.baseUrl,
  metricSection m.metrics,
  optionSection m.profile m.thresholds,
  setupSection m.setup,
  workloadSection m.workload,
  teardownSection m.header.scenario,
  reportSection m]

def render (m : ScriptModule) : String :=
  "\n\n".intercalate ((sections m).filter (fun s => s ≠ "")) ++ "\n"

end LoadScript.Script
