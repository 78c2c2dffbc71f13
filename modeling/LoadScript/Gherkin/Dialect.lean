/-!
# Dialects

The keywords of scenario documents in the languages that a document can name. The order inside a
list matters: of two keywords that fit, the first is taken. Most step keywords end in a blank.
-/

set_option autoImplicit false

namespace LoadScript.Gherkin

structure Dialect where
  feature : List String
  background : List String
  rule : List String
  scenario : List String
  outline : List String
  examples : List String
  given : List String
  event : List String
  outcome : List String
  conjunction : List String
  contrast : List String
  deriving DecidableEq, Repr

namespace Dialect

def english : Dialect where
  feature := ["Feature", "Business Need", "Ability"]
  background := ["Background"]
  rule := ["Rule"]
  scenario := ["Example", "Scenario"]
  outline := ["Scenario Outline", "Scenario Template"]
  examples := ["Examples", "Scenarios"]
  given := ["* ", "Given "]
  event := ["* ", "When "]
  outcome := ["* ", "Then "]
  conjunction := ["* ", "And "]
  contrast := ["* ", "But "]

def spanish : Dialect where
  feature := ["Característica", "Necesidad del negocio", "Requisito"]
  background := ["Antecedentes"]
  rule := ["Regla", "Regla de negocio"]
  scenario := ["Ejemplo", "Escenario"]
  outline := ["Esquema del escenario"]
  examples := ["Ejemplos"]
  given := ["* ", "Dado ", "Dada ", "Dados ", "Dadas "]
  event := ["* ", "Cuando "]
  outcome := ["* ", "Entonces "]
  conjunction := ["* ", "Y ", "E "]
  contrast := ["* ", "Pero "]

def french : Dialect where
  feature := ["Fonctionnalité"]
  background := ["Contexte"]
  rule := ["Règle"]
  scenario := ["Exemple", "Scénario"]
  outline := ["Plan du scénario", "Plan du Scénario"]
  examples := ["Exemples"]
  given := ["* ", "Soit ", "Sachant que ", "Sachant qu'", "Sachant ", "Etant donné que ",
    "Etant donné qu'", "Etant donné ", "Etant donnée ", "Etant donnés ", "Etant données ",
    "Étant donné que ", "Étant donné qu'", "Étant donné ", "Étant donnée ", "Étant donnés ",
    "Étant données "]
  event := ["* ", "Quand ", "Lorsque ", "Lorsqu'"]
  outcome := ["* ", "Alors ", "Donc "]
  conjunction := ["* ", "Et que ", "Et qu'", "Et "]
  contrast := ["* ", "Mais que ", "Mais qu'", "Mais "]

def german : Dialect where
  feature := ["Funktionalität", "Funktion"]
  background := ["Grundlage", "Hintergrund", "Voraussetzungen", "Vorbedingungen"]
  rule := ["Rule", "Regel"]
  scenario := ["Beispiel", "Szenario"]
  outline := ["Szenariogrundriss", "Szenarien"]
  examples := ["Beispiele"]
  given := ["* ", "Angenommen ", "Gegeben sei ", "Gegeben seien "]
  event := ["* ", "Wenn "]
  outcome := ["* ", "Dann "]
  conjunction := ["* ", "Und "]
  contrast := ["* ", "Aber "]

def portuguese : Dialect where
  feature := ["Funcionalidade", "Característica", "Caracteristica"]
  background := ["Contexto", "Cenário de Fundo", "Cenario de Fundo", "Fundo"]
  rule := ["Regra"]
  scenario := ["Exemplo", "Cenário", "Cenario"]
  outline := ["Esquema do Cenário", "Esquema do Cenario", "Delineação do Cenário",
    "Delineacao do Cenario"]
  examples := ["Exemplos", "Cenários", "Cenarios"]
  given := ["* ", "Dado ", "Dada ", "Dados ", "Dadas "]
  event := ["* ", "Quando "]
  outcome := ["* ", "Então ", "Entao "]
  conjunction := ["* ", "E "]
  contrast := ["* ", "Mas "]

def japanese : Dialect where
  feature := ["フィーチャ", "機能"]
  background := ["背景"]
  rule := ["Rule"]
  scenario := ["シナリオ"]
  outline := ["シナリオアウトライン", "シナリオテンプレート", "テンプレ", "シナリオテンプレ"]
  examples := ["例", "サンプル"]
  given := ["* ", "前提"]
  event := ["* ", "もし"]
  outcome := ["* ", "ならば"]
  conjunction := ["* ", "かつ"]
  contrast := ["* ", "しかし", "但し", "ただし"]

def simplifiedChinese : Dialect where
  feature := ["功能"]
  background := ["背景"]
  rule := ["Rule"]
  scenario := ["场景", "剧本"]
  outline := ["场景大纲", "剧本大纲"]
  examples := ["例子"]
  given := ["* ", "假如", "假设", "假定"]
  event := ["* ", "当"]
  outcome := ["* ", "那么"]
  conjunction := ["* ", "而且", "并且", "同时"]
  contrast := ["* ", "但是"]

def russian : Dialect where
  feature := ["Функция", "Функциональность", "Функционал", "Свойство"]
  background := ["Предыстория", "Контекст"]
  rule := ["Правило"]
  scenario := ["Пример", "Сценарий"]
  outline := ["Структура сценария", "Шаблон сценария"]
  examples := ["Примеры"]
  given := ["* ", "Допустим ", "Дано ", "Пусть "]
  event := ["* ", "Когда ", "Если "]
  outcome := ["* ", "То ", "Затем ", "Тогда "]
  conjunction := ["* ", "И ", "К тому же ", "Также "]
  contrast := ["* ", "Но ", "А ", "Иначе "]

def emoji : Dialect where
  feature := ["📚"]
  background := ["💤"]
  rule := ["Rule"]
  scenario := ["🥒", "📕"]
  outline := ["📖"]
  examples := ["📓"]
  given := ["* ", "😐"]
  event := ["* ", "🎬"]
  outcome := ["* ", "🙏"]
  conjunction := ["* ", "😂"]
  contrast := ["* ", "😔"]

def lolcat : Dialect where
  feature := ["OH HAI"]
  background := ["B4"]
  rule := ["Rule"]
  scenario := ["MISHUN"]
  outline := ["MISHUN SRSLY"]
  examples := ["EXAMPLZ"]
  given := ["* ", "I CAN HAZ "]
  event := ["* ", "WEN "]
  outcome := ["* ", "DEN "]
  conjunction := ["* ", "AN "]
  contrast := ["* ", "BUT "]

def formal : Dialect where
  feature := ["Section"]
  background := ["Context"]
  rule := ["Rule"]
  scenario := ["Proof", "Evidence"]
  outline := ["Demonstration"]
  examples := ["Examples"]
  given := ["Given"]
  event := ["When"]
  outcome := ["Then"]
  conjunction := ["*", "And"]
  contrast := ["But"]

def table : List (String × Dialect) := [
  ("en", english), ("es", spanish), ("fr", french), ("de", german), ("pt", portuguese),
  ("ja", japanese), ("zh-CN", simplifiedChinese), ("ru", russian), ("em", emoji),
  ("en-lol", lolcat), ("formal", formal)]

def ofName? (name : String) : Option Dialect := (table.find? (·.1 = name)).map (·.2)

def bodyKeywords (d : Dialect) : List String :=
  d.scenario ++ d.outline ++ d.given ++ d.event ++ d.outcome ++ d.conjunction ++ d.contrast

def featureKeywords (d : Dialect) : List String :=
  d.background ++ d.rule ++ d.scenario ++ d.outline

def ruleKeywords (d : Dialect) : List String := d.background ++ d.scenario ++ d.outline

end Dialect

end LoadScript.Gherkin
