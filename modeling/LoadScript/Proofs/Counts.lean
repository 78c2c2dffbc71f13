import LoadScript.Proofs.Load.Profile
import LoadScript.Proofs.Parameters
import LoadScript.Proofs.Script.Options
import LoadScript.Proofs.Vocabulary.OrderItems
import LoadScript.Proofs.Vocabulary.Search

set_option autoImplicit false

namespace LoadScript

/-! ## Numbers of 32 bits -/

namespace Text

def granted (n : Nat) : Nat := if n < twoTo 32 then Nat.max n 1 else 1

/-- The second number is too large to be counted, and the first is counted as more than one. -/
def Outgrows (a b : String) : Prop := 2 ≤ value a ∧ value a < twoTo 32 ∧ twoTo 32 ≤ value b

theorem granted_le_iff {a b : String} (le : value a ≤ value b) :
    granted (value a) ≤ granted (value b) ↔ ¬ Outgrows a b := by
  unfold granted Outgrows
  simp only [LoadProfile.natMax_eq]
  split_ifs <;> omega

theorem readWord32_of_isDigits {s : String} (digits : IsDigits s) :
    readWord32 s = if value s < twoTo 32 then some (value s) else none := by
  rw [readWord32, Chars.readUnsigned_bare _ (Chars.bare_of_digits digits.2), Chars.digitsValue_eq]
  refine if_neg ?_
  simp [digits.1, digits.2]

theorem trim_of_isDigits {s : String} (digits : IsDigits s) : trim s = s := by
  have visible : ∀ c ∈ s.toList, Chars.isBlank c = false := by
    intro c mem
    exact Chars.digit_visible (List.all_eq_true.1 digits.2 c mem)
  rw [trim, Chars.trim_of_no_blank visible, String.ofList_toList]

theorem max_readWord32 {s : String} (digits : IsDigits s) :
    Nat.max ((readWord32 s).getD 1) 1 = granted (value s) := by
  rw [readWord32_of_isDigits digits, granted]
  split <;> rfl

end Text

/-! ## Loads -/

namespace LoadProfile

def peak : LoadProfile → Nat
  | .fixed users _ => users
  | .ramping _ stages => stages.foldr (fun stage most => max stage.target most) 0

theorem peak_ofParameters (p : Parameters) : (ofParameters p).peak = users p := by
  by_cases small : users p = 1 ∧ seconds p ≤ 30
  · rw [ofParameters_of_small small, small.1]
    rfl
  · rw [ofParameters_of_large small, stages_eq]
    simp [peak]

/-- Parameters that differ in one key at most. -/
structure DifferAt (key a b : String) (p q : Parameters) : Prop where
  left : p.get? key = some a
  right : q.get? key = some b
  others : ∀ k, k ≠ key → p.get? k = q.get? k

theorem differAt_insert (p : Parameters) (key a b : String) :
    DifferAt key a b (p.insert key a) (p.insert key b) where
  left := by rw [Parameters.get?_insert, if_pos rfl]
  right := by rw [Parameters.get?_insert, if_pos rfl]
  others := by
    intro k other
    rw [Parameters.get?_insert, Parameters.get?_insert, if_neg other, if_neg other]

theorem count_of_isDigits {p : Parameters} {key s : String} (given : p.get? key = some s)
    (digits : Text.IsDigits s) : count p key = Text.granted (Text.value s) := by
  rw [count, readWord32_getOr, given, Option.bind_some, Text.trim_of_isDigits digits,
    Text.max_readWord32 digits]

theorem count_congr {p q : Parameters} {key : String} (same : p.get? key = q.get? key) :
    count p key = count q key := by
  rw [count, count, readWord32_getOr, readWord32_getOr, same]

theorem seconds_congr {p q : Parameters} (same : p.get? "duration" = q.get? "duration") :
    seconds p = seconds q := by
  rw [seconds, seconds, Parameters.getOr, Parameters.getOr, same]

theorem fixed_of_differAt {a b : String} {p q : Parameters} (h : DifferAt "iterations" a b p q)
    {users iterations : Nat} (fixed : ofParameters p = .fixed users iterations) :
    iterations = count p "iterations" ∧ ofParameters q = .fixed users (count q "iterations") := by
  have same_users : LoadProfile.users p = LoadProfile.users q :=
    count_congr (h.others "vus" (by decide))
  have same_seconds : seconds p = seconds q := seconds_congr (h.others "duration" (by decide))
  by_cases small : LoadProfile.users p = 1 ∧ seconds p ≤ 30
  · rw [ofParameters_of_small small] at fixed
    rw [same_users, same_seconds] at small
    rw [ofParameters_of_small small]
    cases fixed
    exact ⟨rfl, rfl⟩
  · rw [ofParameters_of_large small] at fixed
    cases fixed

end LoadProfile

/-! ## Orders -/

namespace Vocabulary.Orders

open Pattern Script

def countedOrder : Pattern :=
  "el usuario crea un pedido" ++ maybe (" con " ++ number ++ " producto" ++ maybe "s")

def orderSentence (a : String) : String := "el usuario crea un pedido con " ++ a ++ " productos"

theorem countedOrder_prefers {digits : List Char} (some_digit : digits ≠ [])
    (all : digits.all Chars.isAsciiDigit = true) :
    countedOrder.Prefers ("el usuario crea un pedido".toList ++ (" con ".toList ++
      (digits ++ (" producto".toList ++ ("s".toList ++ []))))) [digits] [] := by
  have behind : (" producto".toList ++ ("s".toList ++ [])).head? = some ' ' := rfl
  have counted := ((text_skips " con ").prefers _).append
    (prefers_number some_digit all (Chars.not_digit_of_space behind))
  have products := counted.append ((text_skips " producto").prefers ("s".toList ++ []))
  have plural := products.append ((text_skips "s").prefers []).maybe
  exact ((text_skips "el usuario crea un pedido").prefers _).append plural.maybe

theorem match?_orderSentence {a : String} (digits : Text.IsDigits a) :
    countedOrder.match? (orderSentence a) = some [a] := by
  have pieces : (orderSentence a).toList = "el usuario crea un pedido".toList ++ (" con ".toList ++
      (a.toList ++ (" producto".toList ++ ("s".toList ++ [])))) := by
    change ("el usuario crea un pedido" ++ " con " ++ a ++ (" producto" ++ "s")).toList = _
    simp only [String.toList_append, List.append_assoc, List.append_nil]
  have ends : (orderSentence a).toList = 'e' :: ("l usuario crea un pedido con ".toList ++
      a.toList ++ " producto".toList ++ ['s']) := by
    change ("e" ++ "l usuario crea un pedido con " ++ a ++ (" producto" ++ "s")).toList = _
    simp only [String.toList_append, List.append_assoc]
    rfl
  have trimmed : Chars.trim (orderSentence a).toList = (orderSentence a).toList := by
    rw [ends]
    exact Chars.trim_of_ends (by decide) (by decide) _
  have covered := countedOrder_prefers digits.1 digits.2
  rw [← pieces] at covered
  have matched := match?_of_prefers trimmed covered
  rwa [List.map_singleton, String.ofList_toList] at matched

theorem find?_orderSentence {a : String} (digits : Text.IsDigits a) :
    builtin.find? (orderSentence a) = some ⟨create countedOrder, [a]⟩ := by
  have known : ⟨create, countedOrder⟩ ∈ Vocabulary.sentences :=
    List.mem_of_getElem? (i := 13) rfl
  exact find?_of_sentence known (match?_orderSentence digits)

def OrdersItems (sentence : String) (n : Nat) : Prop :=
  ∀ (step : Step) (parameters : Parameters), step.text = sentence → step.table = none →
    step.WithoutDocText → ∃ d captures rest, builtin.find? step.text = some ⟨d, captures⟩ ∧
      d.code ⟨captures, step, parameters⟩ =
        r"const order = {" ++ "\n" ++ r"  items: Array.from({ length: " ++ Nat.repr n ++
          r" }, (_, i) => ({" ++ "\n" ++ rest

theorem countedItems_opened :
    ∃ rest, ∀ n, countedItems n = r"{" ++ "\n" ++ r"  items: Array.from({ length: " ++
      Nat.repr n ++ r" }, (_, i) => ({" ++ "\n" ++ rest := by
  have lines : ∃ rest, ∀ n, countedItems n = r"{" ++ "\n" ++ ("  items: Array.from(" ++
      braced ("length: " ++ Nat.repr n) ++ r", (_, i) => ({" ++ "\n" ++ rest) :=
    ⟨_, fun _ => String.intercalate_cons_cons.trans
      (congrArg (r"{" ++ "\n" ++ ·) String.intercalate_cons_cons)⟩
  obtain ⟨rest, lines⟩ := lines
  refine ⟨rest, fun n => ?_⟩
  have opening : r"  items: Array.from({ length: " =
    "  items: Array.from(" ++ (r"{ " ++ "length: ") := rfl
  have closing : r" }, (_, i) => ({" = r" }" ++ r", (_, i) => ({" := rfl
  rw [lines, opening, closing]
  simp only [braced, String.append_assoc]

theorem ordersItems_granted {a : String} (digits : Text.IsDigits a) :
    OrdersItems (orderSentence a) (Text.granted (Text.value a)) := by
  intro step parameters sentence no_table plain
  let o : Occurrence := ⟨[a], step, parameters⟩
  have counted : payload o = countedItems (Text.granted (Text.value a)) := by
    have no_items : o.step.table.bind tableItems? = none := by
      rw [show o.step.table = none from no_table, Option.bind_none]
    rw [payload_of_withoutDocText (o := o) plain, no_items]
    exact congrArg countedItems (Text.max_readWord32 digits)
  obtain ⟨rest, code⟩ := code_create countedOrder
  obtain ⟨items, opened⟩ := countedItems_opened
  refine ⟨_, _, items ++ ";" ++ "\n" ++ rest, sentence ▸ find?_orderSentence digits, ?_⟩
  rw [code, counted, opened]
  rw [show r"const order = {" = "const order = " ++ r"{" from rfl]
  simp only [String.append_assoc]

theorem ordersItems_iff {a : String} (digits : Text.IsDigits a) {n : Nat} :
    OrdersItems (orderSentence a) n ↔ n = Text.granted (Text.value a) := by
  refine ⟨fun items => ?_, fun h => h ▸ ordersItems_granted digits⟩
  let step : Step := .make "When" (orderSentence a) none none
  obtain ⟨d, captures, rest, found, code⟩ := items step .empty rfl rfl nofun
  obtain ⟨e, others, more, found', code'⟩ := ordersItems_granted digits step .empty rfl rfl nofun
  obtain ⟨rfl, rfl⟩ : d = e ∧ captures = others := by
    rw [found] at found'
    simpa using found'
  have same := code.symm.trans code'
  simp only [String.append_assoc, String.append_right_inj] at same
  exact (Text.repr_append_inj same ⟨' ', rfl, rfl⟩).1

end Vocabulary.Orders

open Text Vocabulary.Orders

/-- A larger number yields at least as many users, iterations and items, exactly unless it has more
than 32 bits while the smaller number has not and is more than one. -/
theorem counts_le_iff {a b : String} (ha : IsDigits a) (hb : IsDigits b) (le : value a ≤ value b) :
    (∀ p q, LoadProfile.DifferAt "vus" a b p q →
      ((LoadProfile.ofParameters p).peak ≤ (LoadProfile.ofParameters q).peak ↔ ¬ Outgrows a b)) ∧
    (∀ p q users i, LoadProfile.DifferAt "iterations" a b p q →
      LoadProfile.ofParameters p = .fixed users i →
      ∃ j, LoadProfile.ofParameters q = .fixed users j ∧ (i ≤ j ↔ ¬ Outgrows a b)) ∧
    (∃ m, OrdersItems (orderSentence a) m) ∧ (∃ n, OrdersItems (orderSentence b) n) ∧
    ∀ m n, OrdersItems (orderSentence a) m → OrdersItems (orderSentence b) n →
      (m ≤ n ↔ ¬ Outgrows a b) := by
  have counted := granted_le_iff le
  refine ⟨?_, ?_, ⟨_, ordersItems_granted ha⟩, ⟨_, ordersItems_granted hb⟩, ?_⟩
  · intro p q vus
    rw [LoadProfile.peak_ofParameters, LoadProfile.peak_ofParameters, LoadProfile.users,
      LoadProfile.users, LoadProfile.count_of_isDigits vus.left ha,
      LoadProfile.count_of_isDigits vus.right hb]
    exact counted
  · intro p q users i iterations fixed
    obtain ⟨given, fixed'⟩ := LoadProfile.fixed_of_differAt iterations fixed
    refine ⟨_, fixed', ?_⟩
    rw [given, LoadProfile.count_of_isDigits iterations.left ha,
      LoadProfile.count_of_isDigits iterations.right hb]
    exact counted
  · intro m n items items'
    rw [(ordersItems_iff ha).1 items, (ordersItems_iff hb).1 items']
    exact counted

theorem seven_nine_counts :
    IsDigits "007" ∧ IsDigits "9" ∧ value "007" ≤ value "9" ∧
    (∀ p : Parameters, (LoadProfile.ofParameters (p.insert "vus" "007")).peak ≤
      (LoadProfile.ofParameters (p.insert "vus" "9")).peak) ∧
    (∃ j, LoadProfile.ofParameters (.insert .empty "iterations" "007") = .fixed 1 7 ∧
      LoadProfile.ofParameters (.insert .empty "iterations" "9") = .fixed 1 j ∧ 7 ≤ j) ∧
    ∃ m n, OrdersItems (orderSentence "007") m ∧ OrdersItems (orderSentence "9") n ∧ m ≤ n := by
  have digits : IsDigits "007" := ⟨by simp, by decide⟩
  have digits' : IsDigits "9" := ⟨by simp, by decide⟩
  have le : value "007" ≤ value "9" := by decide
  have small : ¬ Outgrows "007" "9" := by
    rintro ⟨-, -, large⟩
    revert large
    decide
  obtain ⟨peak, iterations, ⟨m, items⟩, ⟨n, items'⟩, orders⟩ := counts_le_iff digits digits' le
  have fixed : LoadProfile.ofParameters (.insert .empty "iterations" "007") = .fixed 1 7 := by
    decide +kernel
  obtain ⟨j, fixed', more⟩ :=
    iterations _ _ 1 7 (LoadProfile.differAt_insert .empty "iterations" "007" "9") fixed
  exact ⟨digits, digits', le, fun p => (peak _ _ (LoadProfile.differAt_insert p _ _ _)).2 small,
    ⟨j, fixed, fixed', more.2 small⟩, m, n, items, items', (orders m n items items').2 small⟩

/-- Of 2 ^ 32 iterations only one is granted. -/
theorem fewer_iterations_for_more :
    IsDigits "4294967295" ∧ IsDigits "4294967296" ∧ value "4294967295" ≤ value "4294967296" ∧
    LoadProfile.DifferAt "iterations" "4294967295" "4294967296"
      (.insert .empty "iterations" "4294967295") (.insert .empty "iterations" "4294967296") ∧
    LoadProfile.ofParameters (.insert .empty "iterations" "4294967295") = .fixed 1 4294967295 ∧
    LoadProfile.ofParameters (.insert .empty "iterations" "4294967296") = .fixed 1 1 :=
  ⟨⟨by simp, by decide⟩, ⟨by simp, by decide⟩, by decide, LoadProfile.differAt_insert .empty _ _ _,
    by decide +kernel, by decide +kernel⟩

end LoadScript
