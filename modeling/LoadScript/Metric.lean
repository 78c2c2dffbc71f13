set_option autoImplicit false

namespace LoadScript

inductive MetricKind where
  | trend
  | rate
  | counter
  | gauge
  deriving DecidableEq, Repr

namespace MetricKind

def all : List MetricKind := [.trend, .rate, .counter, .gauge]

def className : MetricKind → String
  | .trend => "Trend"
  | .rate => "Rate"
  | .counter => "Counter"
  | .gauge => "Gauge"

end MetricKind

structure Metric where
  name : String
  kind : MetricKind
  externalName : String
  isTime : Bool
  deriving DecidableEq, Repr

namespace Metric

def trend (name externalName : String) : Metric := ⟨name, .trend, externalName, true⟩

def rate (name externalName : String) : Metric := ⟨name, .rate, externalName, false⟩

def counter (name externalName : String) : Metric := ⟨name, .counter, externalName, false⟩

def gauge (name externalName : String) : Metric := ⟨name, .gauge, externalName, false⟩

end Metric

structure Threshold where
  metric : String
  rule : String
  deriving DecidableEq, Repr

end LoadScript
