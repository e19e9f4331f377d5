/-
Values of a configuration file.

A document is a table; tables keep their keys in the order in which they were written.  A number
that no reader can make sense of is a value like any other as long as nobody reads it.  A point in
time reads as a table that has its text under one key.
-/
namespace CheckMatrix.Toml

/-- A value of a document. -/
inductive Value
  | string (text : String)
  | integer (value : Int)
  | float (text : String)
  | boolean (value : Bool)
  | unreadable
  | datetime (text : String)
  | array (items : List Value)
  | table (entries : List (String × Value))
  deriving Repr, Inhabited

mutual

/-- Every number in the value can be read. -/
def Value.isReadable : Value → Bool
  | .unreadable => false
  | .array items => areReadable items
  | .table entries => entriesReadable entries
  | _ => true

/-- Every number in the values can be read. -/
def areReadable : List Value → Bool
  | [] => true
  | v :: rest => v.isReadable && areReadable rest

/-- Every number in the entries can be read. -/
def entriesReadable : List (String × Value) → Bool
  | [] => true
  | (_, v) :: rest => v.isReadable && entriesReadable rest

end

namespace Value

/-- The key under which a point in time has its text. -/
def timeKey : String := "$__toml_private_datetime"

/-- The text of a string. -/
def text? : Value → Option String
  | .string text => some text
  | _ => none

/-- The items of an array, each read in the same way. -/
def list? {α : Type} (item? : Value → Option α) : Value → Option (List α)
  | .array items => items.mapM item?
  | _ => none

/-- The entries of a table of strings. -/
def texts? : Value → Option (List (String × String))
  | .table entries => entries.mapM fun e => e.2.text?.map fun text => (e.1, text)
  | .datetime text => some [(timeKey, text)]
  | _ => none

/-- The entries of a table that mean nothing to a record can be read past.  A record that is written
as an array is read no further than its parts. -/
def strangersReadable (v : Value) (names : List String) : Bool :=
  match v with
  | .table entries => entriesReadable (entries.filter fun e => !names.contains e.1)
  | _ => true

/-- A part of a record: by its name when the record is written as a table, by its position when
it is written as an array. -/
def field? (v : Value) (name : String) (position : Nat) : Option (Option Value) :=
  match v with
  | .table entries => some (entries.lookup name)
  | .array items => some items[position]?
  | _ => none

/-- A part of a record that has to be there. -/
def required? {α : Type} (v : Value) (name : String) (position : Nat)
    (value? : Value → Option α) : Option α :=
  match v.field? name position with
  | some (some part) => value? part
  | _ => none

/-- A part of a record that may be left out. -/
def optional? {α : Type} (v : Value) (name : String) (position : Nat) (absent : α)
    (value? : Value → Option α) : Option α :=
  match v.field? name position with
  | some (some part) => value? part
  | some none => some absent
  | none => none

end Value

/-! ### Building tables -/

/-- One entry of a table. -/
def entry (name : String) (value : Value) : List (String × Value) :=
  [(name, value)]

/-- An entry that is left out when there is nothing to write. -/
def entryIf (present : Bool) (name : String) (value : Value) : List (String × Value) :=
  if present then [(name, value)] else []

/-- An array of strings. -/
def ofTexts (texts : List String) : Value :=
  .array (texts.map .string)

end CheckMatrix.Toml
