import LoadScript.Script.Fragment
import LoadScript.Text.Lines
import LoadScript.Vocabulary.Latency
import LoadScript.Vocabulary.Products

set_option autoImplicit false

namespace LoadScript.Vocabulary.Orders

open Script Pattern

def created : Metric := .counter "ordersCreated" "orders_created"

def sameIgnoringAsciiCase (a b : String) : Bool :=
  a.toList.map Char.toLower == b.toList.map Char.toLower

/-- The first column whose trimmed heading is `name`, in either case. -/
def column? (header : List String) (name : String) : Option Nat :=
  header.findIdx? fun heading => sameIgnoringAsciiCase (Text.trim heading) name

/-- The item of a data row. A quantity that is no number is one. -/
def item (idColumn : Nat) (quantityColumn : Option Nat) (row : List String) : String :=
  let id := Text.trim (row.getD idColumn "")
  let quantity :=
    ((quantityColumn.bind (row[·]?)).bind fun q => Text.readWord32 (Text.trim q)).getD 1
  braced ("productId: " ++ literal id ++ ", quantity: " ++ Nat.repr quantity)

def tableItems? : Table → Option String
  | [] => none
  | header :: rows => do
    let idColumn ← (column? header "productId").or (column? header "product")
    let quantityColumn := (column? header "quantity").or (column? header "cantidad")
    return "[" ++ ", ".intercalate (rows.map (item idColumn quantityColumn)) ++ "]"

/-- The number of products that the sentence asks for, at least one. -/
def productCount (o : Occurrence) : Nat := Nat.max ((Text.readWord32 (o.capture 0)).getD 1) 1

def countedItems (count : Nat) : String :=
  Text.joinLines [
    r"{",
    "  items: Array.from(" ++ braced ("length: " ++ Nat.repr count) ++ r", (_, i) => ({",
    "    productId: " ++ Products.productsKnown,
    "      ? data.productIds[i % data.productIds.length]",
    "      : i + 1,",
    "    quantity: 1,",
    r"  })),",
    r"}"]

def payload (o : Occurrence) : String :=
  match o.step.docstring.filter fun doc => !Text.isBlank doc with
  | some doc => Text.trim doc
  | none =>
    match o.step.table.bind tableItems? with
    | some items => braced ("items: " ++ items)
    | none => countedItems (productCount o)

def create (pattern : Pattern) : Definition where
  pattern
  description := "Create an order from a doc string, a productId table, or N seeded products"
  imports := ["createOrder", "authHeaders", "check"]
  metrics := [.trend "orderCreationDuration" "order_creation_duration",
    .rate "orderErrors" "order_errors", created]
  code := fun o => Text.joinLines [
    "const order = " ++ payload o ++ ";",
    "res = createOrder(BASE_URL, order, authHeaders(data));",
    recordDuration "orderCreationDuration",
    "orderErrors.add(res.status !== 201);",
    r"if (res.status === 201) {",
    "  ordersCreated.add(1);",
    r"}",
    checkStatus "order created" 201]
  threshold := some fun o => o.latencyThreshold "order_creation_duration" none

def list (pattern : Pattern) : Definition where
  pattern
  description := "List the user's orders"
  imports := ["listOrders", "authHeaders", "check"]
  metrics := [.trend "orderListDuration" "order_list_duration"]
  code := fun _ => Text.joinLines [
    "res = listOrders(BASE_URL, authHeaders(data));",
    recordDuration "orderListDuration",
    checkStatus "orders returned 200" 200]

def sentences : List Sentence := [
  ⟨create, "el usuario crea un pedido" ++ maybe (" con " ++ number ++ " producto" ++ maybe "s")⟩,
  ⟨create, maybe "the " ++ "user " ++ oneOf ["creates", "places"] ++ " an order" ++
    maybe (" with " ++ number ++ " product" ++ maybe "s")⟩,
  ⟨list, "el usuario consulta " ++ oneOf ["sus", "los"] ++ " pedidos"⟩]

def definitions : List Definition := sentences.map Sentence.definition

end LoadScript.Vocabulary.Orders
