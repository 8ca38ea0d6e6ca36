import ManifestOwnership.Value

/-! # Parameters of settings

The rule for one value: which type it has, and inclusive bounds or the values to choose from. A
boolean counts as a number nowhere here. A bound that is null is no bound; a bound that is no number
is found out only when it is compared with.
-/

namespace ManifestOwnership

/-- What a parameter demands of a value that is given. -/
inductive Demand where
  | number (least most : Value)
  | whole (least most : Value)
  | text (least most : Value)
  | switch
  | choice (values : List Value)

/-- The rule for a value. -/
structure Parameter where
  optional : Bool
  demand : Demand

namespace Parameter

/-- The argument names that parameters of a type take besides `optional`. -/
def bounds? : String → Option (List String)
  | "number" => some ["min", "max"]
  | "int" => some ["min", "max"]
  | "str" => some ["min_len", "max_len"]
  | "bool" => some []
  | "enum" => some ["values"]
  | _ => none

/-- The values of a choice, which must be a list that is not empty. -/
def choices (arguments : Fields) : Except Fault (List Value) :=
  match Fields.get? arguments "values" with
  | none => .error .wrongType
  | some (.list (first :: rest)) => .ok (first :: rest)
  | some _ => .error .emptyChoice

/-- What a type demands with the given arguments. -/
def demandOf (type : String) (arguments : Fields) : Except Fault Demand :=
  match type with
  | "number" => .ok (.number (Fields.get arguments "min") (Fields.get arguments "max"))
  | "int" => .ok (.whole (Fields.get arguments "min") (Fields.get arguments "max"))
  | "str" => .ok (.text (Fields.get arguments "min_len") (Fields.get arguments "max_len"))
  | "bool" => .ok .switch
  | _ => (choices arguments).map .choice

/-- The parameter that the fields of a rule describe; `none` if their type is not a known one. -/
def ofFields? (fields : Fields) : Except Fault (Option Parameter) :=
  match Fields.get? fields "type" with
  | none => .error .untypedRule
  | some (.text type) =>
    match bounds? type with
    | none => .ok none
    | some names =>
      let arguments := fields.filter fun (name, _) => name != "type"
      if type == "enum" && (Fields.get? arguments "values").isNone then .error .wrongType
      else if arguments.all fun (name, _) => name == "optional" || names.contains name then
        (demandOf type arguments).map fun demand =>
          some ⟨(Fields.get arguments "optional").truthy, demand⟩
      else .error .wrongType
  | some _ => .ok none

/-- The fault of a list that is read as fields: its first item that is no pair of a name and a
value. -/
def unpaired : List Value → Fault
  | [] => .wrongValue
  | item :: rest =>
    match item.elements with
    | .ok [name, _] => if name.isKey then unpaired rest else .wrongType
    | .ok _ => .wrongValue
    | .error fault => fault

/-- Whether a text has another one in it. -/
def holds (part : List Char) : List Char → Bool
  | [] => part.isEmpty
  | c :: rest => part.isPrefixOf (c :: rest) || holds part rest

/-- The parameter that a rule describes. A text or a list is no rule, even if the word `type` is
in it. -/
def ofValue? : Value → Except Fault (Option Parameter)
  | .object fields => ofFields? fields
  | .text s => .error (if holds "type".toList s.toList then .wrongValue else .untypedRule)
  | .list items =>
    .error (if items.any (Value.text "type").same then unpaired items else .untypedRule)
  | _ => .error .wrongType

/-- Whether a bound allows a number, by a comparison of the bound with it. -/
def allows (compare : Number → Number → Bool) (bound : Value) (x : Number) : Except Fault Bool :=
  if bound.isNull then .ok true
  else match bound.number? with
    | some limit => .ok (compare limit x)
    | none => .error .wrongType

/-- Whether a number lies within two bounds; the upper one is looked at only if the lower one
allows the number. -/
def within (least most : Value) (x : Number) : Except Fault Bool := do
  if ← allows Number.le least x then allows (fun limit x => x.le limit) most x
  else return false

def Demand.accepts : Demand → Value → Except Fault Bool
  | .number least most, .int n => within least most (.whole n)
  | .number least most, .float x => within least most (.float x)
  | .whole least most, .int n => within least most (.whole n)
  | .text least most, .text s => within least most (.whole s.length)
  | .switch, .bool _ => .ok true
  | .choice values, .text s => .ok (values.any (Value.text s).same)
  | .choice values, .int n => .ok (values.any (Value.int n).same)
  | .choice values, .null => .ok (values.any Value.null.same)
  | _, _ => .ok false

def accepts (parameter : Parameter) (value : Value) : Except Fault Bool :=
  if parameter.optional && value.isNull then .ok true
  else Demand.accepts parameter.demand value

end Parameter

end ManifestOwnership
