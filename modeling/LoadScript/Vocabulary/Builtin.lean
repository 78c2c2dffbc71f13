import LoadScript.Vocabulary.Expectations
import LoadScript.Vocabulary.Login
import LoadScript.Vocabulary.Orders
import LoadScript.Vocabulary.Products
import LoadScript.Vocabulary.ThinkTime
import LoadScript.Vocabulary.Users

set_option autoImplicit false

namespace LoadScript.Vocabulary

def groups : List (String × List Sentence) := [
  ("session", Login.sentences),
  ("catalog", Products.sentences),
  ("accounts", Users.sentences),
  ("orders", Orders.sentences),
  ("pacing", ThinkTime.sentences),
  ("assertions", Expectations.sentences)]

def group (name : String) : List Definition :=
  ((groups.find? (·.1 = name)).elim [] (·.2)).map Sentence.definition

def sentences : List Sentence := groups.flatMap (·.2)

def builtin : Vocabulary := sentences.map Sentence.definition

theorem builtin_eq : builtin = Login.definitions ++ Products.definitions ++ Users.definitions ++
    Orders.definitions ++ (ThinkTime.definitions ++ Expectations.definitions) := by
  simp only [builtin, sentences, groups, List.flatMap_cons, List.flatMap_nil, List.map_append,
    List.append_assoc, List.append_nil]
  rfl

end LoadScript.Vocabulary
