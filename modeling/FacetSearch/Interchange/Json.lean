/-!
# Interchange values

`Json` is the tree of a JSON document.  Integers are kept apart from other
numbers: a count may be written as `3`, and never as `3.0`.

The readers below return nothing for a value of the wrong shape.  A record is an
object whose fields are found by name, in any order and among others, or an
array of its fields in the order of their declaration, of which the last ones
may be missing.
-/

namespace FacetSearch

/-- A JSON document.  The fields of an object have different names. -/
inductive Json where
  | null
  | bool (value : Bool)
  | int (value : Int)
  | real (value : Float)
  | str (value : String)
  | arr (items : List Json)
  | obj (fields : List (String × Json))
deriving Inhabited

namespace Json

/-! ## Simple values -/

/-- Reads a string. -/
def string? : Json → Option String
  | str value => some value
  | _ => none

/-- Reads an integer from `0` to `4294967295`, the greatest that 32 bits hold. -/
def uint32? : Json → Option UInt32
  | int value => if 0 ≤ value ∧ value < UInt32.size then some (.ofNat value.toNat) else none
  | _ => none

/-- Reads a number. -/
def float? : Json → Option Float
  | int value =>
      some (if 0 ≤ value then .ofScientific value.toNat false 0
        else -.ofScientific (-value).toNat false 0)
  | real value => some value
  | _ => none

/-- Reads a list, item by item. -/
def list? {α : Type} (item? : Json → Option α) : Json → Option (List α)
  | arr items => items.mapM item?
  | _ => none

/-- Reads one of several named values: the name alone, or an object in which it
is the only field and has no value. -/
def choice? {α : Type} (choices : List (String × α)) : Json → Option α
  | str name => choices.lookup name
  | obj [(name, null)] => choices.lookup name
  | _ => none

/-- A list of strings. -/
def strings (values : List String) : Json :=
  arr (values.map str)

/-! ## Records -/

/-- The fields of a record, each under its name. -/
def fields? (names : List String) : Json → Option (List (String × Json))
  | obj fields => some fields
  | arr items => if items.length ≤ names.length then some (names.zip items) else none
  | _ => none

/-- Reads a field that has to be there. -/
def required? {α : Type} (fields : List (String × Json)) (name : String)
    (value? : Json → Option α) : Option α :=
  (fields.lookup name).bind value?

/-- Reads a field that has a default value. -/
def optional? {α : Type} (fields : List (String × Json)) (name : String) (default : α)
    (value? : Json → Option α) : Option α :=
  match fields.lookup name with
  | none => some default
  | some value => value? value

/-- Reads a value that may also be null. -/
def nullable? {α : Type} (value? : Json → Option α) : Json → Option (Option α)
  | null => some none
  | value => (value? value).map some

end Json

end FacetSearch
