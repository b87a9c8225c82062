import SuiteTrigger.Json.Value
import SuiteTrigger.Number.Shortest
import SuiteTrigger.Text.Quoted

namespace SuiteTrigger.Json

mutual

/-- The text of a value inside a message. -/
def display : Json → String
  | .null => "None"
  | .bool value => if value then "True" else "False"
  | .int value => toString value
  | .float value => value.text
  | .str value => Text.quote value
  | .arr items => "[" ++ ", ".intercalate (displayItems items) ++ "]"
  | .obj fields => "\x7b" ++ ", ".intercalate (displayFields fields) ++ "\x7d"

def displayItems : List Json → List String
  | [] => []
  | item :: items => display item :: displayItems items

def displayFields : List (String × Json) → List String
  | [] => []
  | (key, value) :: fields => (Text.quote key ++ ": " ++ display value) :: displayFields fields

end

/-- The text of a value on its own: a string stands for itself. -/
def text : Json → String
  | .str value => value
  | value => display value

end SuiteTrigger.Json
