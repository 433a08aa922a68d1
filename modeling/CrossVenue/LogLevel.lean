import CrossVenue.Failure

/-!
# Log levels

A level is given by number or by name in any case; a name that is no level's stands for the usual
level.
-/

set_option autoImplicit false

namespace CrossVenue.LogLevel

/-- The levels by name. -/
def levels : Table Int := [
  ("CRITICAL", 50), ("FATAL", 50), ("ERROR", 40), ("WARN", 30), ("WARNING", 30), ("INFO", 20),
  ("DEBUG", 10), ("NOTSET", 0)
]

/-- The level of names that are no level's. -/
def usual : Int := 20

/-- The capital of a letter; beside the ASCII letters two have capitals among them. -/
def capital : CodePoint → CodePoint
  | .char c => if c = 'ı' then 'I' else if c = 'ſ' then 'S' else c.toUpper
  | .half n => .half n

/-- The level of a name. -/
def ofName (name : Text) : Int :=
  (levels.lookup ⟨name.toList.map capital⟩).getD usual

/-- The level that a value sets: that of a name, or the value itself if it counts as a number. -/
def ofJson : Json → Attempt Json
  | .str name => .ok (.int (ofName name))
  | .int n => .ok (.int n)
  | .bool b => .ok (.bool b)
  | _ => breakDown .wrongKind

end CrossVenue.LogLevel
