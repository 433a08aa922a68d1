import CrossVenue.Schema.Reader

/-!
# Execution planes

The mesh has four planes, each with its own machine.  `ofName?_name` says that a plane's name names it.
-/

set_option autoImplicit false

namespace CrossVenue

/-- An execution plane. -/
inductive Plane
  | cosmos
  | evm
  | svm
  | wasm
deriving DecidableEq, Repr

namespace Plane

/-- The name of a plane. -/
def name : Plane → String
  | cosmos => "COSMOS"
  | evm => "EVM"
  | svm => "SVM"
  | wasm => "WASM"

/-- The name of a plane in small letters. -/
def smallName : Plane → String
  | cosmos => "cosmos"
  | evm => "evm"
  | svm => "svm"
  | wasm => "wasm"

/-- The plane of a name. -/
def ofName? (s : Text) : Option Plane := [cosmos, evm, svm, wasm].find? fun p => p.name == s

/-- Reads the name of a plane. -/
def reader : Schema.Reader Plane := Schema.named ofName?

theorem ofName?_name (p : Plane) : ofName? p.name = some p := by cases p <;> decide

end Plane

end CrossVenue
