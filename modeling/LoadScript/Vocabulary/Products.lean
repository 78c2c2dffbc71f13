import LoadScript.Script.Fragment
import LoadScript.Text.Lines
import LoadScript.Vocabulary.Latency

set_option autoImplicit false

namespace LoadScript.Vocabulary.Products

open Script Pattern

def searchDuration : Metric := .trend "productSearchDuration" "product_search_duration"

def productsKnown : String := "(data && data.productIds && data.productIds.length > 0)"

def seed (pattern : Pattern) : Definition where
  pattern
  description := "Collect product ids during setup for detail lookups"
  imports := ["listProducts", "authHeaders", "check"]
  code := fun _ => checkStatement "data" "catalog has products"
    "(d) => Boolean(d && d.productIds && d.productIds.length > 0)"
  setup := some fun _ => Text.joinLines [
    "const catalog = listProducts(BASE_URL, authHeaders(ctx));",
    "ctx.productIds = catalog.status === 200",
    "  ? (catalog.json('data') || []).map((p) => p.id)",
    "  : [];"]

def search (pattern : Pattern) : Definition where
  pattern
  description := "Search products by term and record latency and result count"
  imports := ["searchProducts", "authHeaders", "check"]
  metrics := [searchDuration, .gauge "productSearchResults" "product_search_results"]
  code := fun o => Text.joinLines [
    "res = searchProducts(BASE_URL, " ++ literal (o.capture 0) ++ ", authHeaders(data));",
    recordDuration "productSearchDuration",
    "productSearchResults.add(res.status === 200 ? (res.json('data') || []).length : 0);",
    checkStatus "search returned 200" 200]
  threshold := some fun o => o.latencyThreshold "product_search_duration" (some "500")

def list (pattern : Pattern) : Definition where
  pattern
  description := "List the product catalog"
  imports := ["listProducts", "authHeaders", "check"]
  metrics := [.trend "productListDuration" "product_list_duration"]
  code := fun _ => Text.joinLines [
    "res = listProducts(BASE_URL, authHeaders(data));",
    recordDuration "productListDuration",
    checkStatus "catalog returned 200" 200]
  threshold := some fun o => o.latencyThreshold "product_list_duration" none

/-- The captured product, or one that the setup found, or the first. -/
def productId (o : Occurrence) : String :=
  (o.nonemptyCapture? 0).elim
    (Text.joinLines [
      productsKnown,
      "  ? data.productIds[Math.floor(Math.random() * data.productIds.length)]",
      "  : 1"])
    literal

def detail (pattern : Pattern) : Definition where
  pattern
  description := "Fetch one product, either the named one or a random seeded id"
  imports := ["getProduct", "authHeaders", "check"]
  metrics := [.trend "productDetailDuration" "product_detail_duration"]
  code := fun o => Text.joinLines [
    "const productId = " ++ productId o ++ ";",
    "res = getProduct(BASE_URL, productId, authHeaders(data));",
    recordDuration "productDetailDuration",
    checkStatus "product returned 200" 200]

def sentences : List Sentence := [
  ⟨seed, maybe "que " ++ "existen productos en el catálogo"⟩,
  ⟨search, "el usuario busca" ++ maybe " el producto" ++ " \"" ++ quotableOrEmpty ++ "\""⟩,
  ⟨search, maybe "the " ++ "user searches for \"" ++ quotableOrEmpty ++ "\""⟩,
  ⟨list, "el usuario " ++ oneOf ["consulta", "lista"] ++ " el catálogo" ++ maybe " de productos"⟩,
  ⟨list, maybe "the " ++ "user " ++ oneOf ["browses", "lists"] ++ " the " ++ maybe "product " ++
    "catalog"⟩,
  ⟨detail, "el usuario consulta " ++ oneOf ["el", "un"] ++ " producto" ++
    maybe (" \"" ++ quotable ++ "\"")⟩]

def definitions : List Definition := sentences.map Sentence.definition

end LoadScript.Vocabulary.Products
