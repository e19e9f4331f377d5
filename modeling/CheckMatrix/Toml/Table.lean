/-
Tables while they are read.

A document defines its tables piece by piece: under headers, by dotted keys, and item after item of
an array of tables.  What may still be added to a table depends on how it came about, so a table
keeps that until the document is complete.  Every refusal means that something is defined twice.
-/
import CheckMatrix.Toml.Value

namespace CheckMatrix.Toml

mutual

/-- What a key of a table stands for: a finished value, a table, or an array of tables with the last
one first. -/
inductive Node
  | leaf (value : Value)
  | table (t : Table)
  | tables (reversed : List Table)

/-- A table that is being read.  It is implicit if only tables inside it were named so far, and
dotted if it came about through a dotted key. -/
inductive Table
  | mk (isImplicit : Bool) (isDotted : Bool) (entries : List (String × Node))

end

namespace Table

/-- Only tables inside it were named so far. -/
def isImplicit : Table → Bool
  | mk isImplicit _ _ => isImplicit

/-- It came about through a dotted key. -/
def isDotted : Table → Bool
  | mk _ isDotted _ => isDotted

/-- What is in it, in the order in which it was written. -/
def entries : Table → List (String × Node)
  | mk _ _ entries => entries

/-- A table that a header or an array of tables opens. -/
def empty : Table := mk false false []

/-- The table with other entries. -/
def withEntries (t : Table) (entries : List (String × Node)) : Table :=
  mk t.isImplicit t.isDotted entries

/-- What a key stands for. -/
def get? (t : Table) (key : String) : Option Node :=
  t.entries.lookup key

/-- The entries with another node under a key, which keeps its place. -/
def replace (key : String) (node : Node) : List (String × Node) → List (String × Node)
  | [] => [(key, node)]
  | (k, old) :: rest => if k = key then (k, node) :: rest else (k, old) :: replace key node rest

/-- The table with a node under a key. -/
def put (t : Table) (key : String) (node : Node) : Table :=
  t.withEntries (replace key node t.entries)

/-- Changes the table that a path of keys leads to.  Missing tables are made on the way; `dotted`
tells whether the path is that of a dotted key, which may not reopen a table that has a header. -/
def descend (dotted : Bool) : List String → Table → (Table → Option Table) → Option Table
  | [], t, change => change t
  | key :: path, t, change =>
    match t.get? key with
    | none =>
      (descend dotted path (mk true dotted []) change).map fun inner => t.put key (.table inner)
    | some (.leaf _) => none
    | some (.tables []) => none
    | some (.tables (last :: before)) =>
      (descend dotted path last change).map fun inner => t.put key (.tables (inner :: before))
    | some (.table inner) =>
      if dotted && !inner.isImplicit then none
      else (descend dotted path inner change).map fun inner => t.put key (.table inner)

/-- Opens the table that a header names, the last key of its path apart. -/
def open? (path : List String) (key : String) (root : Table) : Option Table :=
  root.descend false path fun t =>
    match t.get? key with
    | none => some (t.put key (.table empty))
    | some (.table inner) =>
      if inner.isImplicit && !inner.isDotted then
        some (t.put key (.table (mk false false inner.entries)))
      else none
    | some _ => none

/-- Adds an item to the array of tables that a header names. -/
def openItem? (path : List String) (key : String) (root : Table) : Option Table :=
  root.descend false path fun t =>
    match t.get? key with
    | none => some (t.put key (.tables [empty]))
    | some (.tables reversed) => some (t.put key (.tables (empty :: reversed)))
    | some _ => none

/-- Adds a value under a key, behind a path of dotted keys, to the table that was opened last. -/
def insert? (path : List String) (key : String) (value : Value) (opened : Table) : Option Table :=
  opened.descend true path fun t =>
    if t.isDotted == path.isEmpty then none
    else
      match t.get? key with
      | none => some (t.put key (.leaf value))
      | some _ => none

end Table

mutual

/-- The finished value of a node. -/
def Node.toValue : Node → Value
  | .leaf value => value
  | .table (.mk _ _ entries) => .table (valuesOfEntries entries)
  | .tables reversed => .array (valuesOfTables reversed).reverse

/-- The finished entries of a table. -/
def valuesOfEntries : List (String × Node) → List (String × Value)
  | [] => []
  | (key, node) :: rest => (key, node.toValue) :: valuesOfEntries rest

/-- The finished items of an array of tables, in the order given. -/
def valuesOfTables : List Table → List Value
  | [] => []
  | .mk _ _ entries :: rest => .table (valuesOfEntries entries) :: valuesOfTables rest

end

/-- The finished value of a table. -/
def Table.toValue (t : Table) : Value :=
  .table (valuesOfEntries t.entries)

end CheckMatrix.Toml
