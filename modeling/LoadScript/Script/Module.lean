import LoadScript.Load.Profile
import LoadScript.Metric
import LoadScript.Parameters
import LoadScript.Script.Import

set_option autoImplicit false

namespace LoadScript

structure ScriptHeader where
  feature : String
  scenario : String
  exampleGroup : Option String
  sourcePath : String
  parameters : Parameters
  generatedAt : String
  deriving DecidableEq, Repr

structure MetricRules where
  metric : String
  rules : List String
  deriving DecidableEq, Repr

inductive WorkloadItem where
  | group (label code : String)
  | unrecognized (label : String)
  deriving DecidableEq, Repr

namespace WorkloadItem

def label : WorkloadItem → String
  | .group label _ => label
  | .unrecognized label => label

def isGroup : WorkloadItem → Bool
  | .group _ _ => true
  | .unrecognized _ => false

end WorkloadItem

structure Contributions where
  metrics : List Metric
  thresholds : List MetricRules
  setup : List String
  workload : List WorkloadItem
  deriving DecidableEq, Repr

namespace Contributions

def unrecognized (c : Contributions) : List String :=
  (c.workload.filter (!·.isGroup)).map WorkloadItem.label

end Contributions

structure ScriptModule extends Contributions where
  header : ScriptHeader
  imports : List Import
  profile : LoadProfile
  baseUrl : String
  reportDir : String
  reportSlug : String
  deriving DecidableEq, Repr

end LoadScript
