import ApiAtlas.Json.Basic
import ApiAtlas.Table
import ApiAtlas.Text.Pieces

/-!
# Log lines

A run tells what it does in events with fields. Events below the level that was asked for are left
out. An event name with a point in it starts with the component that it comes from. Some field
names are the log's own; what an event has under them is not told.
-/

set_option autoImplicit false

namespace ApiAtlas

/-- How serious an event is. -/
inductive LogLevel where
  | debug
  | info
  | warning
  | error
  | critical
  deriving DecidableEq, Repr, Inhabited

namespace LogLevel

/-- The levels by rising seriousness. -/
def rank : LogLevel → Nat
  | .debug => 10
  | .info => 20
  | .warning => 30
  | .error => 40
  | .critical => 50

/-- The word for a level in log lines. -/
def word : LogLevel → String
  | .debug => "debug"
  | .info => "info"
  | .warning => "warning"
  | .error => "error"
  | .critical => "critical"

/-- The levels with the words under which events can be given them. -/
def table : List (String × LogLevel) :=
  [("debug", .debug), ("info", .info), ("msg", .info), ("warning", .warning), ("warn", .warning),
   ("error", .error), ("critical", .critical), ("fatal", .critical)]

/-- The level of an event by its word. -/
def ofWord? (s : String) : Option LogLevel :=
  table.lookup s

/-- The upper case of the letters that occur in the names of levels; the dotless letter shares its
capital with the plain one. -/
def capital (c : Char) : Char :=
  if c = Char.ofNat 0x131 then 'I' else c.toUpper

/-- The level that is asked for by name; any other name asks for the usual level. -/
def ofSetting (s : String) : LogLevel :=
  match String.ofList (s.toList.map capital) with
  | "DEBUG" => .debug
  | "WARN" => .warning
  | "WARNING" => .warning
  | "ERROR" => .error
  | _ => .info

end LogLevel

/-- Something that a run tells. -/
structure LogEvent where
  level : LogLevel
  event : Json
  fields : List (String × Json)
  deriving Inhabited

namespace LogEvent

/-- The event that is told by a word. An exception is an error whose trace is wanted, unless the
fields say otherwise. -/
def told? (word : String) (event : Json) (fields : List (String × Json)) : Option LogEvent :=
  if word = "exception" then
    let traced :=
      if (fields.lookup "exc_info").isSome then fields else fields ++ [("exc_info", .bool true)]
    some ⟨.error, event, traced⟩
  else (LogLevel.ofWord? word).map fun level => ⟨level, event, fields⟩

/-- The component that an event comes from, if its name tells. -/
def component? (e : LogEvent) : Option String :=
  match e.event with
  | .str name =>
    if name.toList.contains '.' then some (String.ofList (Text.cut '.' name.toList).1) else none
  | _ => none

/-- Whether an event is told at a level. -/
def isTold (e : LogEvent) (level : LogLevel) : Bool :=
  level.rank ≤ e.level.rank

/-- The log line of an event; `own` are the fields that the log keeps for itself. An event without
a name has no name in its line, and a component that is among the fields is kept. -/
def line (own : List String) (e : LogEvent) : Json :=
  let fields := Table.mk e.fields
  let told := if e.event.isNull then fields else fields.put "event" e.event
  let leveled := told.put "level" (.str e.level.word)
  let named :=
    match e.component?, leveled.get? "component" with
    | some c, none => leveled.put "component" (.str c)
    | _, _ => leveled
  .obj (named.rows.filter fun field => !own.contains field.1)

/-- The log lines at a level. -/
def lines (own : List String) (level : LogLevel) (events : List LogEvent) : List Json :=
  (events.filter fun e => e.isTold level).map (line own)

end LogEvent

end ApiAtlas
