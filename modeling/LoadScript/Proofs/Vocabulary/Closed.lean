import LoadScript.Proofs.Script.Imports
import LoadScript.Proofs.Script.LineReading
import LoadScript.Proofs.Script.Names
import LoadScript.Vocabulary.Builtin

/-!
# Definitions bring along what they use

A definition names the symbols and the metrics of its code beside the code, and its threshold is on
a metric that it declares or that the engine has. Nothing ties these tables together but what is
proved here for every definition of the vocabulary. The code is scanned as a whole; what a sentence
captured stands in it as a literal or a number, which mentions nothing.
-/

set_option autoImplicit false

namespace LoadScript

open Script Script.Lexer

/-! ## Names that have to come from somewhere -/

def engineMetrics : List String := ["http_req_duration", "http_req_failed", "checks", "http_reqs"]

namespace Vocabulary

def metrics : List Metric := [
  Products.searchDuration,
  .gauge "productSearchResults" "product_search_results",
  .trend "productListDuration" "product_list_duration",
  .trend "productDetailDuration" "product_detail_duration",
  .trend "userProfileDuration" "user_profile_duration",
  .trend "userListDuration" "user_list_duration",
  .trend "orderCreationDuration" "order_creation_duration",
  .rate "orderErrors" "order_errors",
  Orders.created,
  .trend "orderListDuration" "order_list_duration"]

theorem metrics_names_nodup : (metrics.map (·.name)).Nodup := by decide +kernel

theorem metrics_externalNames_nodup : (metrics.map (·.externalName)).Nodup := by decide +kernel

/-- The characters of a fixed text. The proof finds them, so that they need not be decoded. -/
def charsOf (s : String) {l : List Char} (_ : s = String.ofList l) : List Char := l

def reserved : List (List Char) := [
  charsOf "check" rfl, charsOf "fail" rfl, charsOf "group" rfl, charsOf "sleep" rfl,
  charsOf "http" rfl, charsOf "login" rfl, charsOf "authHeaders" rfl,
  charsOf "searchProducts" rfl, charsOf "listProducts" rfl, charsOf "getProduct" rfl,
  charsOf "getProfile" rfl, charsOf "listUsers" rfl, charsOf "createOrder" rfl,
  charsOf "listOrders" rfl, charsOf "productSearchDuration" rfl,
  charsOf "productSearchResults" rfl, charsOf "productListDuration" rfl,
  charsOf "productDetailDuration" rfl, charsOf "userProfileDuration" rfl,
  charsOf "userListDuration" rfl, charsOf "orderCreationDuration" rfl, charsOf "orderErrors" rfl,
  charsOf "ordersCreated" rfl, charsOf "orderListDuration" rfl]

theorem reserved_texts :
    reserved.map String.ofList = Import.exported ++ metrics.map (·.name) := rfl

theorem mem_reserved {name : String} (h : name ∈ Import.exported ++ metrics.map (·.name)) :
    name.toList ∈ reserved := by
  rw [← reserved_texts] at h
  obtain ⟨word, mem, rfl⟩ := List.mem_map.1 h
  rw [String.toList_ofList]
  exact mem

theorem exported_not_metric : ∀ symbol ∈ Import.exported, symbol ∉ metrics.map (·.name) := by
  decide +kernel

theorem reserved_isName : ∀ word ∈ reserved, IsName word := by decide +kernel

/-- Whether code that goes with the given names may mention a word. -/
def permits (names : List String) (word : List Char) : Bool :=
  !reserved.contains word || names.contains (String.ofList word)

theorem permits_harmless (names : List String) : Harmless (permits names) := by
  have foreign : reserved.all (fun word => word.any (!isNumeralChar ·)) = true := by decide +kernel
  intro word number
  have unreserved : word ∉ reserved := by
    intro mem
    obtain ⟨c, hc, other⟩ := List.any_eq_true.1 (List.all_eq_true.1 foreign word mem)
    simp [number c hc] at other
  simp [permits, unreserved]

/-- The code mentions no symbols and metrics but those among the names. -/
def Within (names : List String) (code : String) : Prop :=
  Spells (permits names) (code ++ "\n") (between []) (between [])

theorem Within.closedLines {names : List String} {code : String} (h : Within names code) :
    ClosedLines code :=
  read_of_scan h

theorem mem_of_mentions {names : List String} {code name : String} (h : Within names code)
    (named : name ∈ Import.exported ++ metrics.map (·.name)) (mentioned : Mentions code name) :
    name ∈ names := by
  have reserved := mem_reserved named
  have permitted := allowed_of_mentions h (reserved_isName _ reserved) mentioned
  simpa [permits, reserved] using permitted

end Vocabulary

/-! ## Rules -/

def IsPercentileRule (rule : String) : Prop :=
  ∃ quantile bound, rule = "p(" ++ quantile ++ ")<" ++ bound

def IsCountRule (rule : String) : Prop := ∃ bound, rule = "count>=" ++ bound

/-- The rule bounds a percentile or a count, and metrics of the kind have it. -/
structure MetricKind.Fits (kind : MetricKind) (rule : String) : Prop where
  form : IsPercentileRule rule ∨ IsCountRule rule
  percentile : IsPercentileRule rule → kind = .trend
  count : IsCountRule rule → kind = .counter

theorem IsPercentileRule.not_isCountRule {rule : String} (h : IsPercentileRule rule) :
    ¬ IsCountRule rule := by
  rintro ⟨bound, rfl⟩
  obtain ⟨quantile, limit, same⟩ := h
  have first := congrArg (·.toList.head?) same
  simp [String.toList_append] at first

theorem IsPercentileRule.fits {rule : String} (h : IsPercentileRule rule) :
    MetricKind.trend.Fits rule :=
  ⟨.inl h, fun _ => rfl, fun count => absurd count h.not_isCountRule⟩

theorem IsCountRule.fits {rule : String} (h : IsCountRule rule) : MetricKind.counter.Fits rule :=
  ⟨.inr h, fun percentile => absurd h percentile.not_isCountRule, fun _ => rfl⟩

/-! ## Closed definitions -/

namespace Step

/-- The step has no doc string, or only a blank one. -/
def WithoutDocText (s : Step) : Prop := ∀ doc, s.docstring = some doc → Text.isBlank doc = true

end Step

def Definition.names (d : Definition) : List String := d.imports ++ d.metrics.map (·.name)

/-- A definition names all that its code, its setup and its threshold are about. -/
structure Definition.Closed (d : Definition) : Prop where
  code : ∀ o : Occurrence, o.step.WithoutDocText → Vocabulary.Within d.names (d.code o)
  setup : ∀ o fragment, d.setupOf o = some fragment → Vocabulary.Within d.names fragment
  threshold : ∀ o t, d.thresholdOf o = some t → t.metric ∈ engineMetrics ∨
    ∃ m ∈ d.metrics, m.externalName = t.metric ∧ m.kind.Fits t.rule

namespace Vocabulary

/-! ## Forms that recur -/

section Forms

variable {allowed : List Char → Bool}

theorem braced_spells {inner : String} (h : Leads allowed inner (between []) [])
    (opened : List Opened) : Spells allowed (braced inner) (between opened) (between opened) := by
  have hopen : Spells allowed r"{ " (between opened) (between (.curly :: opened)) :=
    spells_text rfl
  have hclose : Spells allowed r" }" (between (.curly :: opened)) (between opened) :=
    spells_text rfl
  have hinner : Leads allowed inner (between (.curly :: opened)) (.curly :: opened) := h.under _
  exact (hopen.append_leads hinner).append_spells rfl hclose

theorem interpolated_spells {expression : String} {opened : List Opened}
    (h : Leads allowed expression (between (.expression :: opened)) (.expression :: opened)) :
    Spells allowed (interpolated expression) ⟨⟨.template, opened⟩, []⟩
      ⟨⟨.template, opened⟩, []⟩ := by
  have hopen : Spells allowed r"${" ⟨⟨.template, opened⟩, []⟩ (between (.expression :: opened)) :=
    spells_text rfl
  exact (hopen.append_leads h).append_spells rfl (spells_text rfl)

theorem checkStatement_spells {subject label test : String}
    (hcheck : Spells allowed "check(" (between []) (between [.round]))
    (hs : Leads allowed subject (between [.round]) [.round]) (hl : Plain label)
    (ht : Leads allowed test (between []) []) :
    Spells allowed (checkStatement subject label test) (between []) (between []) := by
  have hquote : Spells allowed "'" (between []) ⟨⟨.string, []⟩, []⟩ := spells_text rfl
  have hcolon : Spells allowed "': " ⟨⟨.string, []⟩, []⟩ (between []) := spells_text rfl
  have hinner : Leads allowed ("'" ++ label ++ "': " ++ test) (between []) [] :=
    (hquote.append (hl.spells_inString []) |>.append hcolon).append_leads ht
  have hcomma : Spells allowed ", " (between [.round]) (between [.round]) := spells_text rfl
  unfold checkStatement
  exact (hcheck.append_leads hs).append_spells rfl hcomma |>.append (braced_spells hinner _)
    |>.append (spells_text rfl)

end Forms

section Requests

variable {names : List String}

theorem permits_of_mem {name : List Char} (h : String.ofList name ∈ names) :
    permits names name = true := by
  simp [permits, h]

theorem check_spells (h : "check" ∈ names) :
    Spells (permits names) "check(" (between []) (between [.round]) := by
  have text : "check(" = "check" ++ "(" := rfl
  rw [text]
  exact (leads_name (by decide) (permits_of_mem h) []).append_spells rfl (spells_text rfl)

theorem checkStatus_spells {label : String} (check : "check" ∈ names) (h : Plain label)
    (status : Nat) :
    Spells (permits names) (checkStatus label status) (between []) (between []) := by
  have hres : Leads (permits names) "res" (between [.round]) [.round] :=
    leads_name (by decide) rfl _
  have htest : Spells (permits names) "(r) => r.status === " (between []) (between []) :=
    spells_text rfl
  exact checkStatement_spells (check_spells check) hres h
    (htest.append_leads (numeric_leads (permits_harmless names) (numeric_repr status) []))

theorem recordDuration_spells {metric : List Char} (h : IsName metric)
    (mem : String.ofList metric ∈ names) :
    Spells (permits names) (recordDuration (String.ofList metric)) (between []) (between []) :=
  (leads_name h (permits_of_mem mem) []).append_spells rfl (spells_text rfl)

/-- Lines are scanned one by one if each of them closes what it opens. -/
theorem within_joinLines {l : String} {ls : List String}
    (h : ∀ m ∈ l :: ls, Leads (permits names) m (between []) []) :
    Within names (Text.joinLines (l :: ls)) := by
  refine Leads.spells_line ?_
  induction ls generalizing l with
  | nil => exact (h l (by simp)).lastLine
  | cons m ls ih => exact (h l (by simp)).consLine (ih fun k hk => h k (List.mem_cons_of_mem l hk))

theorem request_within {call label : String} {metric : List Char}
    (hcall : Spells (permits names) call (between []) (between [])) (hm : IsName metric)
    (mem : String.ofList metric ∈ names) (check : "check" ∈ names) (hl : Plain label)
    (status : Nat) :
    Within names (Text.joinLines [call, recordDuration (String.ofList metric),
      checkStatus label status]) := by
  refine within_joinLines ?_
  simp only [List.forall_mem_cons, List.not_mem_nil, false_implies, implies_true, and_true]
  exact ⟨hcall.leads, (recordDuration_spells hm mem).leads, (checkStatus_spells check hl status).leads⟩

end Requests

/-! ## Session and service -/

def loginNames : List String := ["login", "fail", "check"]

def healthNames : List String := ["http", "check"]

theorem username_leads {names : List String} (o : Occurrence) (opened : List Opened) :
    Leads (permits names) ((o.nonemptyCapture? 0).elim "__ENV.USERNAME" literal) (between opened)
      opened := by
  cases o.nonemptyCapture? 0 with
  | none =>
    have environment : Leads (permits names) "__ENV.USERNAME" (between []) [] := leads_text rfl
    exact environment.under opened
  | some name => exact (literal_spells name opened).leads

theorem loginSetup_within (o : Occurrence) : Within loginNames (Login.loginSetup o) := by
  have hlogin : Spells (permits loginNames) "const session = login(BASE_URL, " (between [])
    (between [.round]) := spells_text rfl
  have hpassword : Spells (permits loginNames) ", __ENV.PASSWORD);" (between [.round])
    (between []) := spells_text rfl
  have hif : Leads (permits loginNames) r"if (!session || !session.token) {" (between [])
    [.curly] := leads_text rfl
  have hfail : Spells (permits loginNames) "  fail(`Authentication failed for "
    (between [.curly]) ⟨⟨.template, [.template, .round, .curly]⟩, []⟩ := spells_text rfl
  have hend : Spells (permits loginNames) "`);" ⟨⟨.template, [.template, .round, .curly]⟩, []⟩
    (between [.curly]) := spells_text rfl
  have hclose : Leads (permits loginNames) r"}" (between [.curly]) [] := leads_text rfl
  have htoken : Spells (permits loginNames) "ctx.token = session.token;" (between [])
    (between []) := spells_text rfl
  refine Leads.spells_line (.consLine
    ((hlogin.append_leads (username_leads o _)).append_spells rfl hpassword).leads ?_)
  refine .consLine hif ?_
  refine .consLine (hfail.append (interpolated_spells (username_leads o _)) |>.append hend).leads ?_
  exact .consLine hclose htoken.leads.lastLine

theorem login_closed (p : Pattern) : (Login.login p).Closed where
  code := by
    intro o _
    change Within loginNames _
    have hdata : Leads (permits loginNames) "data" (between [.round]) [.round] :=
      leads_name (by decide) rfl _
    exact (checkStatement_spells (check_spells (by decide)) hdata (plain_text rfl)
      (leads_text rfl)).leads.spells_line
  setup := by
    rintro o fragment ⟨⟩
    exact loginSetup_within o
  threshold := by rintro o t ⟨⟩

theorem health_closed (p : Pattern) : (Login.health p).Closed where
  code := by
    intro o _
    change Within healthNames _
    have hget : Spells (permits healthNames) "res = http.get(`" (between [])
      ⟨⟨.template, [.template, .round]⟩, []⟩ := spells_text rfl
    have hurl : Leads (permits healthNames) "BASE_URL"
      (between [.expression, .template, .round]) [.expression, .template, .round] :=
      leads_name (by decide) rfl _
    have hend : Spells (permits healthNames) "/health`);"
      ⟨⟨.template, [.template, .round]⟩, []⟩ (between []) := spells_text rfl
    exact Leads.spells_line (.consLine (hget.append (interpolated_spells hurl) |>.append hend).leads
      (checkStatus_spells (by decide) (plain_text rfl) 200).leads.lastLine)
  setup := by rintro o fragment ⟨⟩
  threshold := by rintro o t ⟨⟩

/-! ## Products and users -/

theorem isPercentileRule_usual (bound : String) : IsPercentileRule ("p(95)<" ++ bound) :=
  ⟨"95", bound, rfl⟩

theorem latencyThreshold_fits {o : Occurrence} {m : Metric} {default : Option String}
    {t : Threshold} {ms : List Metric} (mem : m ∈ ms) (trend : m.kind = .trend)
    (h : o.latencyThreshold m.externalName default = some t) :
    t.metric ∈ engineMetrics ∨ ∃ m ∈ ms, m.externalName = t.metric ∧ m.kind.Fits t.rule := by
  obtain ⟨number, -, rfl⟩ := Option.map_eq_some_iff.1 h
  exact .inr ⟨m, mem, rfl, trend ▸ (isPercentileRule_usual number).fits⟩

def seedNames : List String := ["listProducts", "authHeaders", "check"]

theorem seed_closed (p : Pattern) : (Products.seed p).Closed where
  code := by
    intro o _
    change Within seedNames _
    have hdata : Leads (permits seedNames) "data" (between [.round]) [.round] :=
      leads_name (by decide) rfl _
    exact (checkStatement_spells (check_spells (by decide)) hdata (plain_text rfl)
      (leads_text rfl)).leads.spells_line
  setup := by
    rintro o fragment ⟨⟩
    change Within seedNames (Text.joinLines _)
    refine within_joinLines ?_
    simp only [List.forall_mem_cons, List.not_mem_nil, false_implies, implies_true, and_true]
    exact ⟨leads_text rfl, leads_text rfl,
      leads_text rfl, leads_text rfl⟩
  threshold := by rintro o t ⟨⟩

def searchNames : List String :=
  ["searchProducts", "authHeaders", "check", "productSearchDuration", "productSearchResults"]

theorem search_closed (p : Pattern) : (Products.search p).Closed where
  code := by
    intro o _
    change Within searchNames (Text.joinLines _)
    have hcall : Spells (permits searchNames) "res = searchProducts(BASE_URL, " (between [])
      (between [.round]) := spells_text rfl
    have hheaders : Spells (permits searchNames) ", authHeaders(data));" (between [.round])
      (between []) := spells_text rfl
    have hduration : Spells (permits searchNames) (recordDuration "productSearchDuration")
      (between []) (between []) := recordDuration_spells (by decide) (by decide)
    have hstatus : Spells (permits searchNames) (checkStatus "search returned 200" 200) (between [])
      (between []) := checkStatus_spells (by decide) (plain_text rfl) 200
    refine within_joinLines ?_
    simp only [List.forall_mem_cons, List.not_mem_nil, false_implies, implies_true, and_true]
    exact ⟨(hcall.append (literal_spells _ _) |>.append hheaders).leads, hduration.leads,
      leads_text rfl, hstatus.leads⟩
  setup := by rintro o fragment ⟨⟩
  threshold := fun _ _ h => latencyThreshold_fits (m := Products.searchDuration)
    (List.mem_cons_self ..) rfl h

theorem productList_closed (p : Pattern) : (Products.list p).Closed where
  code := by
    intro o _
    change Within ["listProducts", "authHeaders", "check", "productListDuration"] _
    exact request_within (spells_text rfl) (by decide) (by decide) (by decide)
      (plain_text rfl) 200
  setup := by rintro o fragment ⟨⟩
  threshold := fun _ _ h => latencyThreshold_fits (List.mem_cons_self ..) rfl h

theorem productsKnown_leads (names : List String) (opened : List Opened) :
    Leads (permits names) Products.productsKnown (between opened) opened := by
  have alone : Leads (permits names) "(data && data.productIds && data.productIds.length > 0)"
    (between []) [] := leads_text rfl
  exact alone.under opened

def detailNames : List String := ["getProduct", "authHeaders", "check", "productDetailDuration"]

theorem productId_leads (o : Occurrence) :
    Leads (permits detailNames) (Products.productId o) (between []) [] := by
  unfold Products.productId
  cases o.nonemptyCapture? 0 with
  | none =>
    have hchoice : Leads (permits detailNames)
      "  ? data.productIds[Math.floor(Math.random() * data.productIds.length)]" (between []) [] :=
      leads_text rfl
    exact (productsKnown_leads _ []).consLine (hchoice.consLine
      (leads_text rfl).lastLine)
  | some name => exact (literal_spells name []).leads

theorem detail_closed (p : Pattern) : (Products.detail p).Closed where
  code := by
    intro o _
    change Within detailNames (Text.joinLines _)
    have hconst : Spells (permits detailNames) "const productId = " (between []) (between []) :=
      spells_text rfl
    have hid := (hconst.append_leads (productId_leads o)).append_spells rfl
      (show Spells (permits detailNames) ";" (between []) (between []) from spells_text rfl)
    have hduration : Spells (permits detailNames) (recordDuration "productDetailDuration")
      (between []) (between []) := recordDuration_spells (by decide) (by decide)
    have hstatus : Spells (permits detailNames) (checkStatus "product returned 200" 200)
      (between []) (between []) := checkStatus_spells (by decide) (plain_text rfl) 200
    refine within_joinLines ?_
    simp only [List.forall_mem_cons, List.not_mem_nil, false_implies, implies_true, and_true]
    exact ⟨hid.leads, leads_text rfl, hduration.leads, hstatus.leads⟩
  setup := by rintro o fragment ⟨⟩
  threshold := by rintro o t ⟨⟩

theorem profile_closed (p : Pattern) : (Users.profile p).Closed where
  code := by
    intro o _
    change Within ["getProfile", "authHeaders", "check", "userProfileDuration"] _
    exact request_within (spells_text rfl) (by decide) (by decide) (by decide)
      (plain_text rfl) 200
  setup := by rintro o fragment ⟨⟩
  threshold := fun _ _ h => latencyThreshold_fits (List.mem_cons_self ..) rfl h

theorem userList_closed (p : Pattern) : (Users.list p).Closed where
  code := by
    intro o _
    change Within ["listUsers", "authHeaders", "check", "userListDuration"] _
    exact request_within (spells_text rfl) (by decide) (by decide) (by decide)
      (plain_text rfl) 200
  setup := by rintro o fragment ⟨⟩
  threshold := by rintro o t ⟨⟩

/-! ## Orders -/

def createNames : List String := ["createOrder", "authHeaders", "check", "orderCreationDuration",
  "orderErrors", "ordersCreated"]

theorem item_spells (idColumn : Nat) (quantityColumn : Option Nat) (row : List String)
    (opened : List Opened) :
    Spells (permits createNames) (Orders.item idColumn quantityColumn row) (between opened)
      (between opened) := by
  have hid : Spells (permits createNames) "productId: " (between []) (between []) :=
    spells_text rfl
  have hquantity : Spells (permits createNames) ", quantity: " (between []) (between []) :=
    spells_text rfl
  exact braced_spells ((hid.append (literal_spells _ _) |>.append hquantity).append_leads
    (numeric_leads (permits_harmless _) (numeric_repr _) [])) opened

theorem tableItems_spells {t : Table} {items : String} (h : Orders.tableItems? t = some items) :
    Spells (permits createNames) items (between []) (between []) := by
  cases t with
  | nil => cases h
  | cons header rows =>
    obtain ⟨idColumn, -, hitems⟩ := Option.bind_eq_some_iff.1 h
    cases hitems
    have hopen : Spells (permits createNames) "[" (between []) (between [.square]) :=
      spells_text rfl
    refine hopen.append (intercalate_spells (spells_text rfl) fun s hs => ?_)
      |>.append (spells_text rfl)
    obtain ⟨row, -, rfl⟩ := List.mem_map.1 hs
    exact item_spells _ _ _ _

theorem countedItems_leads (count : Nat) :
    Leads (permits createNames) (Orders.countedItems count) (between []) [] := by
  have hlength : Spells (permits createNames) "length: " (between []) (between []) :=
    spells_text rfl
  have hcount : Leads (permits createNames) ("length: " ++ Nat.repr count) (between []) [] :=
    hlength.append_leads (numeric_leads (permits_harmless _) (numeric_repr count) [])
  have hfrom : Spells (permits createNames) "  items: Array.from(" (between [.curly])
    (between [.round, .curly]) := spells_text rfl
  have hopen : Leads (permits createNames) r"{" (between []) [.curly] := leads_text rfl
  have harrow : Spells (permits createNames) r", (_, i) => ({" (between [.round, .curly])
    (between [.curly, .round, .round, .curly]) := spells_text rfl
  have hid : Spells (permits createNames) "    productId: "
    (between [.curly, .round, .round, .curly]) (between [.curly, .round, .round, .curly]) :=
    spells_text rfl
  have hchoice : Leads (permits createNames) "      ? data.productIds[i % data.productIds.length]"
    (between [.curly, .round, .round, .curly]) [.curly, .round, .round, .curly] :=
    leads_text rfl
  have hother : Leads (permits createNames) "      : i + 1," (between [.curly, .round, .round, .curly])
    [.curly, .round, .round, .curly] := leads_text rfl
  have hquantity : Leads (permits createNames) "    quantity: 1,"
    (between [.curly, .round, .round, .curly]) [.curly, .round, .round, .curly] :=
    leads_text rfl
  have hreturned : Leads (permits createNames) r"  }))," (between [.curly, .round, .round, .curly])
    [.curly] := leads_text rfl
  have hclose : Leads (permits createNames) r"}" (between [.curly]) [] := leads_text rfl
  refine .consLine hopen (.consLine (hfrom.append (braced_spells hcount _) |>.append harrow).leads ?_)
  refine .consLine (hid.append_leads (productsKnown_leads _ _)) (.consLine hchoice ?_)
  exact .consLine hother (.consLine hquantity (.consLine hreturned hclose.lastLine))

theorem payload_of_withoutDocText {o : Occurrence} (h : o.step.WithoutDocText) :
    Orders.payload o = match o.step.table.bind Orders.tableItems? with
      | some items => braced ("items: " ++ items)
      | none => Orders.countedItems (Orders.productCount o) := by
  have hdoc : o.step.docstring.filter (fun doc => !Text.isBlank doc) = none := by
    refine Option.filter_eq_none_iff.2 fun doc hd => ?_
    simp [h doc hd]
  cases items : o.step.table.bind Orders.tableItems? <;> simp only [Orders.payload, hdoc, items]

theorem payload_leads {o : Occurrence} (h : o.step.WithoutDocText) :
    Leads (permits createNames) (Orders.payload o) (between []) [] := by
  rw [payload_of_withoutDocText h]
  cases ht : o.step.table.bind Orders.tableItems? with
  | none => exact countedItems_leads _
  | some items =>
    obtain ⟨t, -, hitems⟩ := Option.bind_eq_some_iff.1 ht
    have hlabel : Spells (permits createNames) "items: " (between []) (between []) :=
      spells_text rfl
    exact (braced_spells (hlabel.append (tableItems_spells hitems)).leads []).leads

theorem create_closed (p : Pattern) : (Orders.create p).Closed where
  code := by
    intro o ho
    change Within createNames _
    have hconst : Spells (permits createNames) "const order = " (between []) (between []) :=
      spells_text rfl
    have horder := (hconst.append_leads (payload_leads ho)).append_spells rfl
      (show Spells (permits createNames) ";" (between []) (between []) from spells_text rfl)
    have hcall : Leads (permits createNames) "res = createOrder(BASE_URL, order, authHeaders(data));"
      (between []) [] := leads_text rfl
    have hduration : Spells (permits createNames) (recordDuration "orderCreationDuration")
      (between []) (between []) := recordDuration_spells (by decide) (by decide)
    have herrors : Leads (permits createNames) "orderErrors.add(res.status !== 201);"
      (between []) [] := leads_text rfl
    have hif : Leads (permits createNames) r"if (res.status === 201) {" (between []) [.curly] :=
      leads_text rfl
    have hcreated : Leads (permits createNames) "  ordersCreated.add(1);" (between [.curly])
      [.curly] := leads_text rfl
    have hclose : Leads (permits createNames) r"}" (between [.curly]) [] := leads_text rfl
    have hstatus : Spells (permits createNames) (checkStatus "order created" 201)
      (between []) (between []) := checkStatus_spells (by decide) (plain_text rfl) 201
    simp only [Orders.create]
    refine Leads.spells_line (.consLine horder.leads (.consLine hcall ?_))
    refine .consLine hduration.leads (.consLine herrors ?_)
    refine .consLine hif (.consLine hcreated ?_)
    exact .consLine hclose hstatus.leads.lastLine
  setup := by rintro o fragment ⟨⟩
  threshold := fun _ _ h => latencyThreshold_fits
    (m := .trend "orderCreationDuration" "order_creation_duration") (List.mem_cons_self ..) rfl h

theorem orderList_closed (p : Pattern) : (Orders.list p).Closed where
  code := by
    intro o _
    change Within ["listOrders", "authHeaders", "check", "orderListDuration"] _
    exact request_within (spells_text rfl) (by decide) (by decide) (by decide)
      (plain_text rfl) 200
  setup := by rintro o fragment ⟨⟩
  threshold := by rintro o t ⟨⟩

/-! ## Think time, checks and bounds -/

theorem seconds_leads (o : Occurrence) (i default : Nat) (opened : List Opened) :
    Leads (permits ["sleep"]) (ThinkTime.seconds o i default) (between opened) opened :=
  numeric_leads (permits_harmless _) (numeric_numeral _) opened

theorem sleep_spells :
    Spells (permits ["sleep"]) "sleep(" (between []) (between [.round]) :=
  spells_text rfl

theorem fixed_closed (p : Pattern) : (ThinkTime.fixed p).Closed where
  code := by
    intro o _
    change Within ["sleep"] _
    exact ((sleep_spells.append_leads (seconds_leads o 0 1 _)).append_spells rfl
      (spells_text rfl)).leads.spells_line
  setup := by rintro o fragment ⟨⟩
  threshold := by rintro o t ⟨⟩

theorem ranged_closed (p : Pattern) : (ThinkTime.ranged p).Closed where
  code := by
    intro o _
    change Within ["sleep"] _
    have hrandom : Spells (permits ["sleep"]) " + Math.random() * (" (between [.round])
      (between [.round, .round]) := spells_text rfl
    have hminus : Spells (permits ["sleep"]) " - " (between [.round, .round])
      (between [.round, .round]) := spells_text rfl
    have least := (sleep_spells.append_leads (seconds_leads o 0 1 _)).append_spells rfl hrandom
    have most := (least.append_leads (seconds_leads o 1 3 _)).append_spells rfl hminus
    exact ((most.append_leads (seconds_leads o 0 1 _)).append_spells rfl
      (spells_text rfl)).leads.spells_line
  setup := by rintro o fragment ⟨⟩
  threshold := by rintro o t ⟨⟩

theorem status_closed (p : Pattern) : (Expectations.status p).Closed where
  code := by
    intro o _
    change Within ["check"] _
    have hnumeral : Numeric (Expectations.numeral o 0 200) := numeric_numeral _
    have hlabel : Plain "status is " := plain_text rfl
    have hres : Leads (permits ["check"]) "res" (between [.round]) [.round] :=
      leads_name (by decide) rfl _
    have htest : Spells (permits ["check"]) "(r) => Boolean(r) && r.status === " (between [])
      (between []) := spells_text rfl
    exact (checkStatement_spells (check_spells (by decide)) hres (hlabel.append hnumeral.plain)
      (htest.append_leads (numeric_leads (permits_harmless _) hnumeral []))).leads.spells_line
  setup := by rintro o fragment ⟨⟩
  threshold := by rintro o t ⟨⟩

theorem numeral_oneLine (o : Occurrence) (i default : Nat) :
    OneLine (Expectations.numeral o i default) := (plain_numeral _).oneLine

theorem ratio_oneLine (o : Occurrence) : OneLine (Expectations.ratio o) :=
  (plain_numeral _).oneLine

theorem percentileRule_oneLine (o : Occurrence) : OneLine (Expectations.percentileRule o) :=
  OneLine.append (by decide) (numeral_oneLine o 0 95) |>.append (by decide)
    |>.append (numeral_oneLine o 1 500)

theorem usualRule_oneLine (o : Occurrence) : OneLine (Expectations.usualRule o) :=
  OneLine.append (by decide) (numeral_oneLine o 0 500)

/-- The code of a bound is a comment. Its rule fits a metric of its own, or it is on a metric of the
engine. -/
theorem bound_closed {description metric : String} {rule : Occurrence → String}
    {metrics : List Metric} (p : Pattern) (hmetric : OneLine metric)
    (hrule : ∀ o, OneLine (rule o))
    (hbound : metric ∈ engineMetrics ∨
      ∃ m ∈ metrics, m.externalName = metric ∧ ∀ o, m.kind.Fits (rule o)) :
    (Expectations.bound description metric rule metrics p).Closed where
  code := by
    intro o _
    have hstart (names : List String) : Spells (permits names) "// threshold: " (between [])
      ⟨⟨.comment, []⟩, []⟩ := spells_text rfl
    have hspace (names : List String) : Spells (permits names) " " ⟨⟨.comment, []⟩, []⟩
      ⟨⟨.comment, []⟩, []⟩ := spells_text rfl
    exact (hstart _).append (hmetric.spells []) |>.append (hspace _)
      |>.append ((hrule o).spells []) |>.append (spells_text rfl)
  setup := by rintro o fragment ⟨⟩
  threshold := by
    rintro o t ⟨⟩
    exact hbound.imp id fun ⟨m, mem, same, fits⟩ => ⟨m, mem, same, fits o⟩

/-! ## The vocabulary -/

theorem login_definitions_closed : ∀ d ∈ Login.definitions, d.Closed := by
  simp only [Login.definitions, Login.sentences, List.forall_mem_map, List.forall_mem_cons,
    List.not_mem_nil, false_implies, implies_true]
  exact ⟨login_closed _, login_closed _, health_closed _, health_closed _, trivial⟩

theorem product_definitions_closed : ∀ d ∈ Products.definitions, d.Closed := by
  simp only [Products.definitions, Products.sentences, List.forall_mem_map, List.forall_mem_cons,
    List.not_mem_nil, false_implies, implies_true]
  exact ⟨seed_closed _, search_closed _, search_closed _, productList_closed _,
    productList_closed _, detail_closed _, trivial⟩

theorem user_definitions_closed : ∀ d ∈ Users.definitions, d.Closed := by
  simp only [Users.definitions, Users.sentences, List.forall_mem_map, List.forall_mem_cons,
    List.not_mem_nil, false_implies, implies_true]
  exact ⟨profile_closed _, profile_closed _, userList_closed _, trivial⟩

theorem order_definitions_closed : ∀ d ∈ Orders.definitions, d.Closed := by
  simp only [Orders.definitions, Orders.sentences, List.forall_mem_map, List.forall_mem_cons,
    List.not_mem_nil, false_implies, implies_true]
  exact ⟨create_closed _, create_closed _, orderList_closed _, trivial⟩

theorem thinkTime_definitions_closed : ∀ d ∈ ThinkTime.definitions, d.Closed := by
  simp only [ThinkTime.definitions, ThinkTime.sentences, List.forall_mem_map, List.forall_mem_cons,
    List.not_mem_nil, false_implies, implies_true]
  exact ⟨ranged_closed _, fixed_closed _, ranged_closed _, fixed_closed _, trivial⟩

theorem searchPercentile_closed (p : Pattern) : (Expectations.searchPercentile p).Closed :=
  bound_closed p (plain_text rfl).oneLine percentileRule_oneLine
    (.inr ⟨_, List.mem_cons_self .., rfl, fun _ => IsPercentileRule.fits ⟨_, _, rfl⟩⟩)

theorem searchLatency_closed (p : Pattern) : (Expectations.searchLatency p).Closed :=
  bound_closed p (plain_text rfl).oneLine usualRule_oneLine
    (.inr ⟨_, List.mem_cons_self .., rfl, fun _ => (isPercentileRule_usual _).fits⟩)

theorem leastOrders_closed (p : Pattern) : (Expectations.leastOrders p).Closed :=
  bound_closed p (plain_text rfl).oneLine
    (fun o => OneLine.append (by decide) (numeral_oneLine o 0 1))
    (.inr ⟨_, List.mem_cons_self .., rfl, fun _ => IsCountRule.fits ⟨_, rfl⟩⟩)

theorem engineBound_closed {description metric : String} {rule : Occurrence → String} (p : Pattern)
    (hrule : ∀ o, OneLine (rule o)) (engine : metric ∈ engineMetrics) :
    (Expectations.bound description metric rule [] p).Closed := by
  have lines : ∀ name ∈ engineMetrics, OneLine name := by decide
  exact bound_closed p (lines metric engine) hrule (.inl engine)

theorem expectation_definitions_closed : ∀ d ∈ Expectations.definitions, d.Closed := by
  have hrate (o : Occurrence) : OneLine ("rate<" ++ Expectations.ratio o) :=
    OneLine.append (by decide) (ratio_oneLine o)
  have hcheck (o : Occurrence) : OneLine ("rate>" ++ Expectations.ratio o) :=
    OneLine.append (by decide) (ratio_oneLine o)
  have hthroughput (o : Occurrence) : OneLine ("rate>=" ++ Expectations.numeral o 0 1) :=
    OneLine.append (by decide) (numeral_oneLine o 0 1)
  simp only [Expectations.definitions, Expectations.sentences, List.forall_mem_map, List.forall_mem_cons,
    List.not_mem_nil, false_implies, implies_true]
  refine ⟨status_closed _, status_closed _, searchPercentile_closed _, searchLatency_closed _,
    ?_, ?_, ?_, ?_, ?_, ?_, ?_, leastOrders_closed _, ?_, trivial⟩
  · exact engineBound_closed _ percentileRule_oneLine (by decide)
  · exact engineBound_closed _ usualRule_oneLine (by decide)
  · exact engineBound_closed _ percentileRule_oneLine (by decide)
  · exact engineBound_closed _ usualRule_oneLine (by decide)
  · exact engineBound_closed _ hrate (by decide)
  · exact engineBound_closed _ hrate (by decide)
  · exact engineBound_closed _ hcheck (by decide)
  · exact engineBound_closed _ hthroughput (by decide)

theorem builtin_closed : ∀ d ∈ builtin, d.Closed := by
  simp only [builtin_eq, List.forall_mem_append]
  exact ⟨⟨⟨⟨login_definitions_closed, product_definitions_closed⟩, user_definitions_closed⟩,
    order_definitions_closed⟩, thinkTime_definitions_closed, expectation_definitions_closed⟩

theorem builtin_imports : ∀ symbol ∈ builtin.flatMap (·.imports), symbol ∈ Import.exported := by
  decide +kernel

theorem builtin_metrics : ∀ m ∈ builtin.flatMap (·.metrics), m ∈ metrics := by decide +kernel

end Vocabulary

end LoadScript
