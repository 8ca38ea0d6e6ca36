import ManifestOwnership.Settings.Parameter
import ManifestOwnership.Value.Path

/-! # Rules for a configuration

Rules are written as a tree. An object with a known type is the rule for the place of its path, any
other object is a group of rules, and everything else is passed over. Reading the tree yields the
parameters by path; checking a configuration yields the paths whose values break their rule.
-/

namespace ManifestOwnership

/-- Parameters under the paths of the values they are for. -/
abbrev Rules := List (String × Parameter)

namespace Rules

/-- Sets the parameter of a path in place, or adds it at the end. -/
def set : Rules → String × Parameter → Rules
  | [], new => [new]
  | (path, parameter) :: rest, new =>
    if path == new.1 then new :: rest else (path, parameter) :: set rest new

/-- Sets every parameter of the second rules in the first. -/
def merge (first second : Rules) : Rules :=
  second.foldl set first

mutual

/-- The rules below the path `trail`. -/
def read (trail : List String) : List (String × Value) → Except Fault Rules
  | [] => .ok []
  | (name, value) :: rest => do
    let here ← readAt (trail ++ [name]) value
    let others ← read trail rest
    return merge here others

/-- The rules at and below the path `trail`. -/
def readAt (trail : List String) : Value → Except Fault Rules
  | .object fields => do
    let parameter ←
      if (Fields.get? fields "type").isSome then Parameter.ofFields? fields else pure none
    match parameter with
    | some parameter => return [(Path.join trail, parameter)]
    | none => read trail fields
  | _ => .ok []

end

def ofValue (tree : Value) : Except Fault Rules := do
  read [] (← tree.fields)

/-- The paths whose values in a configuration break their rule, in the order of the rules. -/
def broken (configuration : Value) : Rules → Except Fault (List String)
  | [] => .ok []
  | (path, parameter) :: rest => do
    let value ← configuration.atOr (Path.ofText path) .null
    let accepted ← parameter.accepts value
    let others ← broken configuration rest
    return if accepted then others else path :: others

end Rules

end ManifestOwnership
