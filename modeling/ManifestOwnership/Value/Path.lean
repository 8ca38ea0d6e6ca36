import ManifestOwnership.Value

/-! # Access by path

A path names a place inside an object by the field names that lead to it, written with a point
between them. Reading and writing follow the same walk: a level that is absent or null is as good
as missing, and a level that is anything else than an object breaks the path. Where a level is
missing reading yields nothing. Writing makes the level and enters it before it looks at the next
one; it works in place, so its result holds what is left of the object after a fault too.
-/

namespace ManifestOwnership

/-- A place inside an object: the fields that lead to it and the field itself. -/
structure Path where
  parents : List String
  last : String
  deriving DecidableEq, Inhabited

namespace Path

/-- Splits a text at its points. There is always a last part, perhaps an empty one. -/
def split : List Char → List Char → Path
  | part, [] => ⟨[], String.ofList part.reverse⟩
  | part, c :: rest =>
    if c = '.' then
      let tail := split [] rest
      ⟨String.ofList part.reverse :: tail.parents, tail.last⟩
    else split (c :: part) rest

def ofText (s : String) : Path :=
  split [] s.toList

/-- The path that a value writes, which must be a text. -/
def ofValue : Value → Except Fault Path
  | .text s => .ok (ofText s)
  | _ => .error .lacksOperation

def parts (path : Path) : List String :=
  path.parents ++ [path.last]

def join (parts : List String) : String :=
  ".".intercalate parts

end Path

namespace Fields

/-- Reads below the fields reached by `trail`: `none` where the place is absent. -/
def readBelow (trail : List String) (last : String) :
    Fields → List String → Except Fault (Option Value)
  | fields, [] => .ok (get? fields last)
  | fields, part :: rest =>
    match get? fields part with
    | none => .ok none
    | some .null => .ok none
    | some (.object inner) => readBelow (trail ++ [part]) last inner rest
    | some _ => .error (.brokenPath (trail ++ [part]))

/-- Works on the object below a name. A level that is absent or null is made first, and only then is
it seen whether there is an object to enter. -/
def within (part : String) (broken : Fault) (work : Fields → Except Fault Unit × Fields)
    (fields : Fields) : Except Fault Unit × Fields :=
  let opened := if (get fields part).isNull then set fields part (.object []) else fields
  match get opened part with
  | .object inner =>
    let done := work inner
    (done.1, set opened part (.object done.2))
  | _ => (.error broken, opened)

/-- Puts a value below the fields reached by `trail`, in place: what is made before a fault stays. -/
def putBelow (trail : List String) (last : String) (new : Value) :
    List String → Fields → Except Fault Unit × Fields
  | [], fields => (.ok (), set fields last new)
  | part :: rest, fields =>
    within part (.brokenPath (trail ++ [part])) (putBelow (trail ++ [part]) last new rest) fields

end Fields

namespace Value

/-- The value at a place of an object, `none` if the place or a level above it is absent. -/
def at? (value : Value) (path : Path) : Except Fault (Option Value) :=
  match value with
  | object fields => Fields.readBelow [] path.last fields path.parents
  | _ => .error .lacksOperation

/-- The value at a place of an object, a fallback if it is absent. -/
def atOr (value : Value) (path : Path) (fallback : Value) : Except Fault Value :=
  (value.at? path).map (·.getD fallback)

/-- Puts a value at a place of an object, in place: what that comes to, and what it leaves. -/
def putAt (value : Value) (path : Path) (new : Value) : Except Fault Unit × Value :=
  match value with
  | object fields =>
    let done := Fields.putBelow [] path.last new path.parents fields
    (done.1, object done.2)
  | _ => (.error (if path.parents.isEmpty then .wrongType else .lacksOperation), value)

/-- The object with a value set at a place of it, where the levels that were absent are made. -/
def setAt (value : Value) (path : Path) (new : Value) : Except Fault Value :=
  let done := value.putAt path new
  done.1.map fun _ => done.2

end Value

end ManifestOwnership
