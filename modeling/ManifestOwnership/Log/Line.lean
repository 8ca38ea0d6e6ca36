import ManifestOwnership.Log.Event
import ManifestOwnership.Log.Message
import ManifestOwnership.Text.Timestamp
import ManifestOwnership.Value.Json

/-! # Log lines

The JSON form of a log record. A formatter names the object and the revision that a record is
about, and leaves the rest to a formatter that it is built on. That one puts the attributes of a
record into the line in a given order, some under other names, and merges an attribute that is an
object into the line instead. The object a record is about is identified by attributes that come
late in that order, so nothing that a message merges in can stand in their place. In the standard
formatter an object that is merged in can also bring arguments, which go into the message of the
line and are not shown themselves.
-/

namespace ManifestOwnership.Log

/-- How records become lines: the object and the revision to name when a record does not. -/
structure Formatter where
  manifest : Value
  revisionName : Value
  deriving Inhabited

/-- A log record: its attributes, and the arguments of its message unless an attribute replaces
them. -/
structure Record where
  attributes : Fields
  arguments : List Value

def numberedLevels : List (Nat × String) :=
  (0, "NOTSET") :: (50, "CRITICAL") ::
    (Level.all.filter (· != .fatal)).map fun level => (level.rank, level.name.toUpper)

/-- The levels whose names give their numbers. -/
def namedLevels : List (String × Nat) :=
  ("FATAL", 50) :: ("WARN", 30) :: numberedLevels.map fun (rank, name) => (name, rank)

namespace Record

/-- What a record shows as its level: the name of a number, the number of a name, and for any
other value that it is a level. -/
def levelName (level : Value) : Except Fault Value := do
  let level ← level.asKey
  let unknown := Value.text ("Level " ++ level.display)
  match level with
  | .text name => return ((namedLevels.lookup name).map fun rank => .int rank).getD unknown
  | level =>
    let found := numberedLevels.find? fun (rank, _) => level.same (.int rank)
    return (found.map fun (_, name) => .text name).getD unknown

/-- A record with the attributes that every record has, and extra ones beside or in place of
them. -/
def make (channel levelName message : Value) (arguments : List Value) (created : Value)
    (extra : Fields) : Record :=
  { attributes := extra.foldl (fun attributes (name, value) => Fields.set attributes name value)
      [("name", channel), ("levelname", levelName), ("msg", message), ("created", created),
        ("exc_text", .null)]
    arguments := arguments }

def get (record : Record) (name : String) : Value :=
  Fields.get record.attributes name

def set (record : Record) (name : String) (value : Value) : Record :=
  { record with attributes := Fields.set record.attributes name value }

/-- The arguments that go into the message of a record; `none` if there are none to put in. -/
def arguments? (record : Record) : Option Message.Arguments :=
  match Fields.get? record.attributes "args" with
  | some value => if value.truthy then some (.ofValue value) else none
  | none => if record.arguments.isEmpty then none else some (.ofList record.arguments)

/-- Whether an attribute stands in for the operation that tells a message, which then cannot be
used. -/
def isMute (record : Record) : Bool :=
  (Fields.get? record.attributes "getMessage").isSome

/-- The message of a record: an object as it is, and a text with the arguments in place. Without
arguments a text is no template. -/
def message (record : Record) : Except Fault Value :=
  match record.get "msg" with
  | .object fields => .ok (.object fields)
  | value =>
    if record.isMute then .error .wrongType
    else match record.arguments? with
    | some arguments => (Message.apply value.display arguments).map .text
    | none => .ok (.text value.display)

def timestamp (record : Record) : Except Fault Value :=
  match (record.get "created").number? with
  | some seconds => (Text.Timestamp.ofSeconds seconds).map .text
  | none => .error .wrongType

/-- The text of an exception that is told by its type, its value and where it was raised. Values of
a manifest are no exceptions, so it must be the absence of one. -/
def exceptionText : Value → Except Fault Value
  | .list (_ :: value :: place :: _) =>
    if value.isNull && place.isNull then .ok (.text "NoneType: None") else .error .lacksOperation
  | .list _ => .error .pastEnd
  | .text s => .error (if s.length < 3 then .pastEnd else .lacksOperation)
  | .object _ => .error .missingEntry
  | _ => .error .wrongType

/-- What a record says about an exception: the text it has, or the one of the exception it
carries. -/
def exception (record : Record) : Except Fault Value :=
  let told := record.get "exc_text"
  let carried := record.get "exc_info"
  if carried.truthy && !told.truthy then exceptionText carried else .ok told

end Record

namespace Line

/-- Puts a value into a line; the fields of an object are put in one by one. -/
def put (name : String) (value : Value) (line : Fields) : Fields :=
  match value with
  | .object fields => fields.foldl (fun line (key, value) => Fields.set line key value) line
  | value => Fields.set line name value

/-- Puts an attribute into a line under its name there, if the record has it. -/
def putShown (nameOf : String → String) (record : Record) (line : Fields) (source : String) :
    Fields :=
  match Fields.get? record.attributes source with
  | some value => put (nameOf source) value line
  | none => line

/-- The line that shows some attributes of a record in order. -/
def ofRecord (nameOf : String → String) (shown : List String) (record : Record) : Fields :=
  shown.foldl (putShown nameOf record) []

/-- A line with its arguments put into its message. Objects that were merged in can bring both, and
arguments that count as given are the message where there is none. -/
def combined (line : Fields) : Except Fault Fields :=
  match Fields.get? line "args" with
  | none => .ok line
  | some argument =>
    let others := line.filter fun (name, _) => name != "args"
    let message := Fields.get line "message"
    if !argument.truthy then .ok others
    else if !message.truthy then .ok (Fields.set others "message" (.text argument.display))
    else (Message.combine message argument).map fun whole => Fields.set others "message" whole

def lowerLevel (line : Fields) : Except Fault Fields :=
  match Fields.get? line "level" with
  | none => .error .missingEntry
  | some (.text level) => .ok (Fields.set line "level" (.text (Text.lowerCase level)))
  | some _ => .error .lacksOperation

end Line

/-- A formatter that others are built on: the attributes that it shows by itself, the names that it
shows attributes under, and the line of a record, at a depth of activities, out of the attributes
that are to be shown. -/
structure Base where
  attributes : List String
  nameOf : String → String
  line (shown : List String) (depth : Nat) (record : Record) : Except Fault Fields

namespace Base

/-- The attributes that the standard formatter shows under other names. -/
def renamed : List (String × String) :=
  [("name", "channel"), ("levelname", "level"), ("asctime", "timestamp"),
    ("exc_text", "exception")]

def standardName (source : String) : String :=
  (renamed.lookup source).getD source

/-- The standard formatter. It tells the message, the time and the exception of a record first, and
works on the message, the level and the depth of a line afterwards. -/
def standard : Base where
  attributes := ["name", "levelname", "asctime", "message", "exc_text", "region-id", "org-id",
    "tran-id", "watson-txn-id", "channel", "duration"]
  nameOf := standardName
  line shown depth record := do
    let record := record.set "message" (← record.message)
    let record := record.set "asctime" (← record.timestamp)
    let record := record.set "exc_text" (← record.exception)
    let line ← Line.lowerLevel (← Line.combined (Line.ofRecord standardName shown record))
    return Fields.set line "num_indent" (.int depth)

end Base

namespace Formatter

/-- The attributes that are shown beside those of the formatter that this one is built on. -/
def added : List String :=
  ["process", "thread", "threadName", "revision", "apiVersion", "kind", "resourceName",
    "resourceNamespace", "resourceVersion"]

/-- A record that names the revision of the formatter unless it names one itself. -/
def withRevision (formatter : Formatter) (record : Record) : Record :=
  if formatter.revisionName.truthy && !(record.get "revision").truthy then
    record.set "revision" formatter.revisionName
  else record

/-- A record with the identity of the object it is about, if there is one. -/
def withIdentity (formatter : Formatter) (record : Record) : Except Fault Record := do
  let resource := (record.get "resource").orElse formatter.manifest
  if !resource.truthy then return record
  let metadata ← resource.fieldOrEmpty "metadata"
  let identity : Fields := [("apiVersion", ← resource.field "apiVersion"),
    ("kind", ← resource.field "kind"), ("resourceName", ← metadata.field "name"),
    ("resourceNamespace", ← metadata.field "namespace"),
    ("resourceVersion", ← metadata.field "resourceVersion")]
  return identity.foldl (fun record (name, value) => record.set name value) record

/-- The line of a record at a depth of activities, on a formatter that makes lines. -/
def lineOn (base : Base) (formatter : Formatter) (depth : Nat) (record : Record) :
    Except Fault Value := do
  let named ← formatter.withIdentity (formatter.withRevision record)
  return .object (← base.line (base.attributes ++ added) depth named)

def line : Formatter → Nat → Record → Except Fault Value :=
  lineOn .standard

/-- The text of the line of a record outside any activity. -/
def format (formatter : Formatter) (record : Record) : Except Fault String :=
  (formatter.line 0 record).map Value.json

end Formatter

/-- Which events are shown: the least rank for all channels, and for single ones. -/
structure Filter where
  least : Nat
  channels : List (String × Nat)

namespace Filter

/-- The least rank that a level's name asks for; `off` shows nothing. -/
def rankOf? (name : String) : Option Nat :=
  if name = "off" then some 60 else (Level.ofName? name).map (·.rank)

def splitAt (separator : Char) (part : List Char) : List Char → List String
  | [] => [String.ofList part.reverse]
  | c :: rest =>
    if c = separator then String.ofList part.reverse :: splitAt separator [] rest
    else splitAt separator (c :: part) rest

/-- The filter of a default level and a list of channels with levels of their own, of which the last
one for a channel counts. -/
def ofTexts (level channels : String) : Filter :=
  ⟨(rankOf? level).getD Level.info.rank,
    ((splitAt ',' [] channels.toList).filterMap fun entry =>
      match splitAt ':' [] entry.toList with
      | [channel, level] => (rankOf? level).map fun rank => (channel, rank)
      | _ => none).reverse⟩

def shows (filter : Filter) (channel : Channel) (level : Level) : Bool :=
  ((filter.channels.lookup channel.name).getD filter.least) ≤ level.rank

def recordOf (note : Note) : Record :=
  Record.make (.text note.channel.name) (.text note.level.name) (.text note.message) []
    (.int 0) (match note.about with
      | some (resource, revision) => [("resource", resource), ("revision", revision)]
      | none => [])

/-- The lines of the events that a filter shows. What is inside an activity that is shown stands
one deeper. -/
def lines (filter : Filter) (formatter : Formatter) (depth : Nat) :
    List Event → List (Except Fault Value)
  | [] => []
  | .opened channel level title :: rest =>
    if filter.shows channel level then
      formatter.line depth (recordOf ⟨channel, level, "BEGIN: " ++ title, none⟩) ::
        filter.lines formatter (depth + 1) rest
    else filter.lines formatter depth rest
  | .closed channel level title :: rest =>
    if filter.shows channel level then
      formatter.line (depth - 1) (recordOf ⟨channel, level, "END: " ++ title, none⟩) ::
        filter.lines formatter (depth - 1) rest
    else filter.lines formatter depth rest
  | .note note :: rest =>
    if filter.shows note.channel note.level then
      formatter.line depth (recordOf note) :: filter.lines formatter depth rest
    else filter.lines formatter depth rest

end Filter

end ManifestOwnership.Log
