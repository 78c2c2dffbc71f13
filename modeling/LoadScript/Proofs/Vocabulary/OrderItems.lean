import LoadScript.Proofs.Number.Reading
import LoadScript.Proofs.Parameters
import LoadScript.Proofs.Script.Literals
import LoadScript.Proofs.Text.Ascii
import LoadScript.Proofs.Vocabulary.Closed
import Mathlib.Data.List.Forall2

set_option autoImplicit false

namespace LoadScript.Vocabulary.Orders

open Script

/-! ## Columns -/

def Heads (name heading : String) : Prop :=
  List.Forall₂ Chars.SameLetter (Text.trim heading).toList name.toList

def IsColumn (header : List String) (name : String) (i : Nat) : Prop :=
  (∃ heading, header[i]? = some heading ∧ Heads name heading) ∧
    ∀ j heading, j < i → header[j]? = some heading → ¬ Heads name heading

/-- The column headed by the first name or else, if there is none, the one headed by the second. -/
inductive Chosen (header : List String) (first second : String) : Option Nat → Prop
  | first {i : Nat} : IsColumn header first i → Chosen header first second (some i)
  | second {i : Nat} : (∀ heading ∈ header, ¬ Heads first heading) → IsColumn header second i →
      Chosen header first second (some i)
  | neither : (∀ heading ∈ header, ¬ Heads first heading ∧ ¬ Heads second heading) →
      Chosen header first second none

theorem sameIgnoringAsciiCase_iff (s t : String) :
    sameIgnoringAsciiCase s t = true ↔ List.Forall₂ Chars.SameLetter s.toList t.toList := by
  rw [sameIgnoringAsciiCase, beq_iff_eq, ← List.forall₂_eq_eq_eq, List.forall₂_map_left_iff,
    List.forall₂_map_right_iff]
  simp only [Chars.toLower_eq_iff]

theorem column?_eq_some_iff {header : List String} {name : String} {i : Nat} :
    column? header name = some i ↔ IsColumn header name i := by
  rw [column?, List.findIdx?_eq_some_iff_getElem]
  simp only [sameIgnoringAsciiCase_iff]
  constructor
  · rintro ⟨inside, here, before⟩
    refine ⟨⟨header[i], List.getElem?_eq_getElem inside, here⟩, ?_⟩
    intro j heading earlier at_j headed
    obtain ⟨inside', rfl⟩ := List.getElem?_eq_some_iff.1 at_j
    exact before j earlier headed
  · rintro ⟨⟨heading, at_i, here⟩, before⟩
    obtain ⟨inside, rfl⟩ := List.getElem?_eq_some_iff.1 at_i
    refine ⟨inside, here, ?_⟩
    intro j earlier headed
    have inside' : j < header.length := Nat.lt_trans earlier inside
    exact before j header[j] earlier (List.getElem?_eq_getElem inside') headed

theorem column?_eq_none_iff {header : List String} {name : String} :
    column? header name = none ↔ ∀ heading ∈ header, ¬ Heads name heading := by
  rw [column?, List.findIdx?_eq_none_iff]
  simp only [Heads, ← sameIgnoringAsciiCase_iff, Bool.not_eq_true]

theorem chosen_or (header : List String) (first second : String) :
    Chosen header first second ((column? header first).or (column? header second)) := by
  cases found : column? header first with
  | some i => exact .first (column?_eq_some_iff.1 found)
  | none =>
    have absent := column?_eq_none_iff.1 found
    cases found' : column? header second with
    | some i => exact .second absent (column?_eq_some_iff.1 found')
    | none =>
      have absent' := column?_eq_none_iff.1 found'
      exact .neither fun heading mem => ⟨absent heading mem, absent' heading mem⟩

theorem Chosen.eq_or {header : List String} {first second : String} {i? : Option Nat}
    (chosen : Chosen header first second i?) :
    (column? header first).or (column? header second) = i? := by
  cases chosen with
  | first here => rw [column?_eq_some_iff.2 here, Option.some_or]
  | second absent here =>
    rw [column?_eq_none_iff.2 absent, column?_eq_some_iff.2 here, Option.none_or]
  | neither absent =>
    have absent_first := column?_eq_none_iff.2 fun heading mem => (absent heading mem).1
    have absent_second := column?_eq_none_iff.2 fun heading mem => (absent heading mem).2
    rw [absent_first, absent_second, Option.none_or]

/-! ## Rows -/

/-- What a row says in the column of quantities: a number of 32 bits, or else one. -/
inductive Quantity (row : List String) : Option Nat → Nat → Prop
  | number {j q : Nat} {cell : String} : row[j]? = some cell →
      Chars.IsUnsigned (twoTo 32) (Text.trim cell).toList q → Quantity row (some j) q
  | other {j : Nat} {cell : String} : row[j]? = some cell →
      (∀ q, ¬ Chars.IsUnsigned (twoTo 32) (Text.trim cell).toList q) → Quantity row (some j) 1
  | short {j : Nat} : row[j]? = none → Quantity row (some j) 1
  | missing : Quantity row none 1

/-- The item of a row. The literal in it denotes the cell of the product. -/
def IsItem (idColumn : Nat) (quantityColumn : Option Nat) (row : List String) (text : String) :
    Prop :=
  ∃ id quantity, text = r"{ productId: " ++ id ++ ", quantity: " ++ Nat.repr quantity ++ r" }" ∧
    readLiteral id = some (Parameters.cell row idColumn, "") ∧ Quantity row quantityColumn quantity

theorem quantity_of_row (row : List String) (quantityColumn : Option Nat) :
    Quantity row quantityColumn (((quantityColumn.bind (row[·]?)).bind fun q =>
      Text.readWord32 (Text.trim q)).getD 1) := by
  cases quantityColumn with
  | none => exact .missing
  | some j =>
    rw [Option.bind_some]
    cases at_j : row[j]? with
    | none => exact .short at_j
    | some cell =>
      rw [Option.bind_some]
      cases number : Text.readWord32 (Text.trim cell) with
      | some q => exact .number at_j (Chars.readUnsigned_eq_some_iff.1 number)
      | none =>
        refine .other at_j fun q unsigned => ?_
        have read : Text.readWord32 (Text.trim cell) = some q :=
          Chars.readUnsigned_eq_some_iff.2 unsigned
        rw [number] at read
        cases read

theorem isItem_item (idColumn : Nat) (quantityColumn : Option Nat) (row : List String) :
    IsItem idColumn quantityColumn row (item idColumn quantityColumn row) := by
  refine ⟨literal (Parameters.cell row idColumn), _, ?_, ?_, quantity_of_row row quantityColumn⟩
  · have opening : r"{ productId: " = r"{ " ++ "productId: " := rfl
    rw [opening, ← Parameters.trim_getD]
    simp only [item, braced, String.append_assoc]
  · have read := readLiteral_append (Parameters.cell row idColumn) ""
    rwa [String.append_empty] at read

theorem forall₂_items (idColumn : Nat) (quantityColumn : Option Nat) (rows : List (List String)) :
    List.Forall₂ (IsItem idColumn quantityColumn) rows
      (rows.map (item idColumn quantityColumn)) := by
  induction rows with
  | nil => exact .nil
  | cons row rows ih => exact .cons (isItem_item idColumn quantityColumn row) ih

/-! ## The order -/

theorem tableItems?_of_chosen {header : List String} {rows : List (List String)} {i : Nat}
    (chosen : Chosen header "productId" "product" (some i)) :
    tableItems? (header :: rows) = some ("[" ++ ", ".intercalate (rows.map
      (item i ((column? header "quantity").or (column? header "cantidad")))) ++ "]") := by
  rw [tableItems?, chosen.eq_or]
  rfl

theorem tableItems?_of_not_chosen {header : List String} {rows : List (List String)}
    (unnamed : Chosen header "productId" "product" none) : tableItems? (header :: rows) = none := by
  rw [tableItems?, unnamed.eq_or]
  rfl

theorem code_create (p : Pattern) :
    ∃ rest, ∀ o, (create p).code o = "const order = " ++ payload o ++ ";" ++ "\n" ++ rest :=
  ⟨_, fun _ => String.intercalate_cons_cons⟩

/-- A table with a column of products is the order: an item for each data row, in turn, with the
cell of the product and with the quantity if there is one. Any other table is as good as none. -/
theorem create_items_of_table (p : Pattern) (o : Occurrence) (plain : o.step.WithoutDocText)
    (t : Table) (table : o.step.table = some t) :
    (∀ header rows i, t = header :: rows → Chosen header "productId" "product" (some i) →
      ∃ j items rest, Chosen header "quantity" "cantidad" j ∧ List.Forall₂ (IsItem i j) rows items ∧
        (create p).code o =
          r"const order = { items: [" ++ ", ".intercalate items ++ r"] };" ++ "\n" ++ rest) ∧
    ((t = [] ∨ ∃ header rows, t = header :: rows ∧ Chosen header "productId" "product" none) →
      (create p).code o = (create p).code { o with step := { o.step with table := none } }) := by
  refine ⟨?_, ?_⟩
  · rintro header rows i rfl chosen
    let j := (column? header "quantity").or (column? header "cantidad")
    have order : payload o =
        braced ("items: " ++ ("[" ++ ", ".intercalate (rows.map (item i j)) ++ "]")) := by
      rw [payload_of_withoutDocText plain, table, Option.bind_some, tableItems?_of_chosen chosen]
    have opening : r"const order = { items: [" =
        "const order = " ++ (r"{ " ++ ("items: " ++ "[")) := rfl
    have closing : r"] };" = "]" ++ (r" }" ++ ";") := rfl
    obtain ⟨rest, code⟩ := code_create p
    refine ⟨j, rows.map (item i j), rest, chosen_or _ _ _, forall₂_items i j rows, ?_⟩
    rw [code, order, opening, closing]
    simp only [braced, String.append_assoc]
  · intro no_items
    have none_found : tableItems? t = none := by
      obtain rfl | ⟨header, rows, rfl, unnamed⟩ := no_items
      · rfl
      · exact tableItems?_of_not_chosen unnamed
    let bare : Occurrence := { o with step := { o.step with table := none } }
    have bare_plain : bare.step.WithoutDocText := plain
    have same : payload o = payload bare := by
      rw [payload_of_withoutDocText plain, payload_of_withoutDocText bare_plain, table,
        Option.bind_some, none_found]
      rfl
    obtain ⟨rest, code⟩ := code_create p
    rw [code, code, same]

def raggedOrder : Occurrence where
  captures := [""]
  step := .make "When" "the user places an order" (some [["Cantidad", "product", " PRODUCTID "],
    [" +2 ", "lamp", " it's "], ["two", "desk", "7"], ["3"], []]) (some " ")
  parameters := .empty

theorem raggedOrder_items :
    raggedOrder.step.WithoutDocText ∧ ∃ items rest,
      List.Forall₂ (IsItem 2 (some 0)) [[" +2 ", "lamp", " it's "], ["two", "desk", "7"], ["3"], []]
        items ∧
      (create "an order").code raggedOrder =
        r"const order = { items: [" ++ ", ".intercalate items ++ r"] };" ++ "\n" ++ rest := by
  have plain : raggedOrder.step.WithoutDocText := by
    rintro doc ⟨⟩
    rfl
  have ids : column? ["Cantidad", "product", " PRODUCTID "] "productId" = some 2 := by
    decide +kernel
  have quantities : column? ["Cantidad", "product", " PRODUCTID "] "quantity" = none ∧
      column? ["Cantidad", "product", " PRODUCTID "] "cantidad" = some 0 := by
    decide +kernel
  obtain ⟨j, items, rest, chosen, one_each, code⟩ :=
    (create_items_of_table "an order" raggedOrder plain _ rfl).1 _ _ 2 rfl
      (.first (column?_eq_some_iff.1 ids))
  have first_column := chosen.eq_or
  rw [quantities.1, quantities.2, Option.none_or] at first_column
  subst first_column
  exact ⟨plain, items, rest, one_each, code⟩

end LoadScript.Vocabulary.Orders
