import Reimport.Binary64

/-!
# Configuration values

What a TOML document holds: texts, numbers, truth values, moments, arrays, and
tables of named values in the order in which they were written.
-/
namespace Reimport.Toml

/-- A value of a TOML document. -/
inductive Value where
  /-- A text. -/
  | text (text : Text)
  /-- A whole number. -/
  | integer (value : Int)
  /-- A number with a point or an exponent. -/
  | real (value : Binary64)
  /-- A truth value. -/
  | boolean (value : Bool)
  /-- A date, a time or both, as it is written. -/
  | moment (written : Text)
  /-- Values in order. -/
  | array (items : List Value)
  /-- Values by name. -/
  | table (entries : List (Text × Value))
  deriving Repr

/-- A table: its values by name. -/
abbrev Table := List (Text × Value)

/-- The value of a name. -/
def Table.get? (table : Table) (name : Text) : Option Value := table.lookup name

/-- The names that have a value. -/
def Table.names (table : Table) : List Text := table.map Prod.fst

end Reimport.Toml
