import LoadScript.Number.Numeral
import LoadScript.Script.Fragment
import LoadScript.Vocabulary.Orders
import LoadScript.Vocabulary.Products

set_option autoImplicit false

namespace LoadScript.Vocabulary.Expectations

open Script Pattern

def numeral (o : Occurrence) (i default : Nat) : String :=
  Numeral.ofTextOr (o.capture i) (Binary64.ofNat default)

/-- A captured percentage, which is read back from its numeral. -/
def percent (o : Occurrence) : Binary64 :=
  (Text.readBinary64 (numeral o 0 0)).getD (Binary64.zero false)

def ratio (o : Occurrence) : String := Numeral.ofBinary64 ((percent o).divNat 100)

def percentileRule (o : Occurrence) : String :=
  "p(" ++ numeral o 0 95 ++ ")<" ++ numeral o 1 500

def usualRule (o : Occurrence) : String := "p(95)<" ++ numeral o 0 500

def status (pattern : Pattern) : Definition where
  pattern
  description := "Check the status of the last response"
  imports := ["check"]
  code := fun o =>
    let status := numeral o 0 200
    checkStatement "res" ("status is " ++ status) ("(r) => Boolean(r) && r.status === " ++ status)

def bound (description metric : String) (rule : Occurrence → String) (metrics : List Metric)
    (pattern : Pattern) : Definition where
  pattern
  description
  metrics
  code := fun o => "// threshold: " ++ metric ++ " " ++ rule o
  threshold := some fun o => some ⟨metric, rule o⟩

def searchPercentile : Pattern → Definition :=
  bound "Bound a search latency percentile" "product_search_duration" percentileRule
    [Products.searchDuration]

def searchLatency : Pattern → Definition :=
  bound "Bound p95 search latency" "product_search_duration" usualRule [Products.searchDuration]

def percentile : Pattern → Definition :=
  bound "Bound a global request latency percentile" "http_req_duration" percentileRule []

def latency : Pattern → Definition :=
  bound "Bound p95 global request latency" "http_req_duration" usualRule []

def errorRate : Pattern → Definition :=
  bound "Bound the failed request ratio" "http_req_failed" (fun o => "rate<" ++ ratio o) []

def checkRate : Pattern → Definition :=
  bound "Require a minimum check pass ratio" "checks" (fun o => "rate>" ++ ratio o) []

def leastOrders : Pattern → Definition :=
  bound "Require a minimum number of created orders" "orders_created"
    (fun o => "count>=" ++ numeral o 0 1) [Orders.created]

def leastThroughput : Pattern → Definition :=
  bound "Require a minimum request throughput" "http_reqs" (fun o => "rate>=" ++ numeral o 0 1) []

def milliseconds : Pattern := number ++ maybe " " ++ "ms"

def percentage : Pattern := maybe " " ++ "%"

def lessOrLower : Pattern := oneOf ["less", "lower"]

def toOrOf : Pattern := oneOf ["a", "de"]

def toTheOrOf : Pattern := oneOf ["al", "a", "del"]

def sentences : List Sentence := [
  ⟨status, "el sistema debe responder con " ++ oneOf ["código", "estado", "status"] ++ " " ++
    capture (exactly 3 .digit)⟩,
  ⟨status, maybe "the " ++ "response status should be " ++ capture (exactly 3 .digit)⟩,
  ⟨searchPercentile, "el percentil " ++ number ++
    " del tiempo de respuesta de búsqueda debe ser menor " ++ toOrOf ++ " " ++ milliseconds⟩,
  ⟨searchLatency, "el tiempo de respuesta de búsqueda debe ser menor " ++ toOrOf ++ " " ++
    milliseconds⟩,
  ⟨percentile, "el percentil " ++ number ++ " del tiempo de respuesta debe ser menor " ++ toOrOf ++
    " " ++ milliseconds⟩,
  ⟨latency, "el tiempo de respuesta debe ser menor " ++ toOrOf ++ " " ++ milliseconds⟩,
  ⟨percentile, maybe "the " ++ "p" ++ number ++ " response time should be " ++ lessOrLower ++
    " than " ++ milliseconds⟩,
  ⟨latency, maybe "the " ++ "response time should be " ++ lessOrLower ++ " than " ++ milliseconds⟩,
  ⟨errorRate, "la tasa de errores debe ser " ++ oneOf ["menor", "inferior"] ++ " " ++ toTheOrOf ++
    " " ++ decimalOrComma ++ percentage⟩,
  ⟨errorRate, maybe "the " ++ "error rate should be " ++ lessOrLower ++ " than " ++ decimal ++
    percentage⟩,
  ⟨checkRate, "la tasa de éxito" ++ maybe " de las verificaciones" ++ " debe ser " ++
    oneOf ["mayor", "superior"] ++ " " ++ toTheOrOf ++ " " ++ decimalOrComma ++ percentage⟩,
  ⟨leastOrders, "se deben crear al menos " ++ number ++ " pedido" ++ maybe "s"⟩,
  ⟨leastThroughput, "el sistema debe procesar al menos " ++ number ++ " peticiones por segundo"⟩]

def definitions : List Definition := sentences.map Sentence.definition

end LoadScript.Vocabulary.Expectations
