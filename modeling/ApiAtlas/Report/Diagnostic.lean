import ApiAtlas.Json.Basic

/-!
# Diagnostics

Problems have codes. Some end the run (`Failure`): a file cannot be read, the settings are wrong.
Others are collected while the run goes on (`Diagnostic`): a construct cannot be placed, two
declarations of one symbol do not fit together. Both are shown in the same way.
-/

set_option autoImplicit false

namespace ApiAtlas

/-- The codes of problems: 1xxx reading, 2xxx settings, 3xxx conversion, 4xxx resolution. -/
inductive Code where
  | readError
  | noInput
  | configParse
  | configValue
  | unsupported
  | mergeConflict
  | invalidSignature
  | unresolvedReference
  | alreadyResolved
  deriving DecidableEq, Repr, Inhabited

/-- The codes, each with its number and its name. -/
def Code.table : List (Code × Nat × String) :=
  [(.readError, 1001, "FRONTEND_READ_ERROR"),
   (.noInput, 1002, "FRONTEND_NO_INPUT"),
   (.configParse, 2001, "CONFIG_PARSE_ERROR"),
   (.configValue, 2002, "CONFIG_INVALID_VALUE"),
   (.unsupported, 3001, "UNSUPPORTED_CONSTRUCT"),
   (.mergeConflict, 3002, "MERGE_CONFLICT"),
   (.invalidSignature, 3003, "INVALID_SIGNATURE"),
   (.unresolvedReference, 4001, "UNRESOLVED_REFERENCE"),
   (.alreadyResolved, 4002, "ALREADY_RESOLVED")]

/-- The number of a code. -/
def Code.number (c : Code) : Nat :=
  ((Code.table.find? (·.1 == c)).map (·.2.1)).getD 0

/-- The name of a code. -/
def Code.name (c : Code) : String :=
  ((Code.table.find? (·.1 == c)).map (·.2.2)).getD ""

/-- The code with a name. -/
def Code.ofName? (s : String) : Option Code :=
  (Code.table.find? (·.2.2 == s)).map (·.1)

/-- A problem that was noticed: its code, its wording, and the values that it is about. -/
structure Diagnostic where
  code : Code
  message : String
  details : List (String × Json)
  deriving Inhabited

namespace Diagnostic

/-- The diagnostic in one line. -/
def text (d : Diagnostic) : String :=
  "[" ++ toString d.code.number ++ "] " ++ d.code.name ++ ": " ++ d.message

/-- The diagnostic as JSON. -/
def toJson (d : Diagnostic) : Json :=
  .obj [("code", .nat d.code.number), ("error", .str d.code.name), ("message", .str d.message),
    ("details", .obj d.details)]

/-- The file that the diagnostic is about, if it names one. -/
def file? (d : Diagnostic) : Option Json :=
  (d.details.find? (·.1 == "file")).map (·.2)

end Diagnostic

/-- A problem that ends the run. -/
inductive Failure where
  | unreadable (path reason : String)
  | noInput
  | badConfig (path reason : String)
  | badValue (field reason : String)
  | alreadyResolved (project : String)
  deriving DecidableEq, Repr, Inhabited

/-- What a failure reports. -/
def Failure.diagnostic : Failure → Diagnostic
  | .unreadable path reason =>
    ⟨.readError, "Unable to read " ++ path ++ ": " ++ reason,
      [("path", .str path), ("reason", .str reason)]⟩
  | .noInput => ⟨.noInput, "No input files found", []⟩
  | .badConfig path reason =>
    ⟨.configParse, "Failed to parse config at " ++ path ++ ": " ++ reason,
      [("path", .str path), ("reason", .str reason)]⟩
  | .badValue field reason =>
    ⟨.configValue, "Invalid value for '" ++ field ++ "': " ++ reason,
      [("field", .str field), ("reason", .str reason)]⟩
  | .alreadyResolved project =>
    ⟨.alreadyResolved, "Project '" ++ project ++ "' has already been resolved",
      [("project", .str project)]⟩

end ApiAtlas
