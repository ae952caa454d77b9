import Narrative.Data.Value

/-!
Tables of a TOML document while it is read. A table is begun by a header of its own, by a header further
down, or by a key with dots, and each of these decides what may be added later: a header begins a table
at most once, a key with dots reaches only into tables that no header names, and a value that is written
out is never added to. The table that a key with dots is added to has to be begun by such a key.
-/
namespace Narrative.Toml

/-- How a table came to be. -/
inductive Origin where
  /-- By a header that names it. -/
  | header
  /-- By a header of a table inside it. -/
  | implied
  /-- By a key with dots. -/
  | dotted
  deriving DecidableEq

/-- What stands under a key. -/
inductive Node where
  | leaf (value : Value)
  | table (origin : Origin) (entries : List (String × Node))
  /-- Tables under one header that repeats, the latest first. -/
  | series (tables : List (List (String × Node)))

/-- The entries of a table that is being read. -/
abbrev Entries := List (String × Node)

/-- The entries with what stands under a key changed, unless `change` refuses it. -/
def alter (key : String) (change : Option Node → Option Node) : Entries → Option Entries
  | [] => (change none).map fun node => [(key, node)]
  | (k, node) :: rest =>
    if k == key then (change (some node)).map fun node => (k, node) :: rest
    else (alter key change rest).map ((k, node) :: ·)

/-- Changes the table at the end of a path of headers; tables on the way are begun where they are
missing, and of a series the latest counts. -/
def reach (change : Entries → Option Entries) : List String → Entries → Option Entries
  | [], entries => change entries
  | key :: path, entries =>
    alter key (fun
      | none => (reach change path []).map (.table .implied)
      | some (.table origin inner) => (reach change path inner).map (.table origin)
      | some (.series (latest :: earlier)) => (reach change path latest).map fun t => .series (t :: earlier)
      | some _ => none) entries

/-- Adds a value under a key with dots. -/
def assign (value : Value) : List String → Entries → Option Entries
  | [], _ => none
  | [key], entries =>
    alter key (fun
      | none => some (.leaf value)
      | some _ => none) entries
  | key :: path, entries =>
    alter key (fun
      | none => (assign value path []).map (.table .dotted)
      | some (.table .dotted inner) => (assign value path inner).map (.table .dotted)
      | some (.table .implied inner) =>
        if path.length ≤ 1 then none else (assign value path inner).map (.table .implied)
      | some (.series (latest :: earlier)) =>
        if path.length ≤ 1 then none else (assign value path latest).map fun t => .series (t :: earlier)
      | some _ => none) entries

/-- Begins the table that a header names. -/
def beginTable (key : String) : Entries → Option Entries :=
  alter key fun
    | none => some (.table .header [])
    | some (.table .implied inner) => some (.table .header inner)
    | some _ => none

/-- Begins a further table of the series that a header names. -/
def beginNext (key : String) : Entries → Option Entries :=
  alter key fun
    | none => some (.series [[]])
    | some (.series tables) => some (.series ([] :: tables))
    | some _ => none

mutual

/-- What stands under a key, as a value. -/
def Node.value : Node → Value
  | .leaf value => value
  | .table _ entries => .table (entryValues entries)
  | .series tables => .list (tableValues tables).reverse

/-- The entries of a table, as values. -/
def entryValues : Entries → List (String × Value)
  | [] => []
  | (key, node) :: rest => (key, node.value) :: entryValues rest

/-- Tables, as values. -/
def tableValues : List Entries → List Value
  | [] => []
  | entries :: rest => .table (entryValues entries) :: tableValues rest

end

end Narrative.Toml
