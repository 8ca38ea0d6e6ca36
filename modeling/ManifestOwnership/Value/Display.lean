import ManifestOwnership.Value
import ManifestOwnership.Number.Display
import ManifestOwnership.Text.Quoted

/-! # Values as shown in names and messages

How a value appears when it is put into a name or a message: a text as it is, everything else in
its literal form, in which texts are quoted.
-/

namespace ManifestOwnership.Value

mutual

def literal : Value → String
  | null => "None"
  | bool b => if b then "True" else "False"
  | int n => intText n
  | float x => x.text
  | text s => Text.quoted s
  | list items => "[" ++ ", ".intercalate (literalItems items) ++ "]"
  | object fields => "\x7b" ++ ", ".intercalate (literalFields fields) ++ "\x7d"

def literalItems : List Value → List String
  | [] => []
  | item :: rest => literal item :: literalItems rest

def literalFields : List (String × Value) → List String
  | [] => []
  | (name, value) :: rest => (Text.quoted name ++ ": " ++ literal value) :: literalFields rest

end

/-- A value as it appears inside a name or a message. -/
def display : Value → String
  | text s => s
  | value => value.literal

end ManifestOwnership.Value
