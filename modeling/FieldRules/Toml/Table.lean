import FieldRules.Dict
import FieldRules.Toml.Basic

/-! How headers and dotted keys make tables.

While a document is read, a table remembers how it came to be. It is implicit when
something beneath it was named first, and dotted when that was a dotted key. A
header may name an implicit table once, if it is not dotted; a dotted key may add
to tables that dotted keys made, and to no others. -/
namespace FieldRules.Toml

inductive Node where
  | value (v : Toml)
  | table (implicit dotted : Bool) (entries : List (String × Node))
  /-- The tables of an array, the last one first. -/
  | tables (items : List (List (String × Node)))

namespace Node

/-- Changes the entries of the table at the end of a path, making the tables that
are missing on the way. The change is told whether the table is dotted; of an
array of tables the last one is meant. -/
def alter (byDots : Bool) (change : Bool → Dict Node → Option (Dict Node)) :
    List String → Bool → Dict Node → Option (Dict Node)
  | [], dotted, entries => change dotted entries
  | key :: path, _, entries =>
    match Dict.get? entries key with
    | none =>
      (alter byDots change path byDots []).map fun inner =>
        Dict.put entries key (table true byDots inner)
    | some (value _) => none
    | some (tables []) => none
    | some (tables (last :: before)) =>
      (alter byDots change path false last).map fun last =>
        Dict.put entries key (tables (last :: before))
    | some (table implicit dotted inner) =>
      if byDots && !implicit then none
      else
        (alter byDots change path dotted inner).map fun inner =>
          Dict.put entries key (table implicit dotted inner)

/-- The entries with a value under a key and the keys before it. -/
def insert (path : List String) (key : String) (v : Toml) (entries : Dict Node) :
    Option (Dict Node) :=
  alter true (fun dotted entries =>
    if dotted = path.isEmpty || Dict.contains entries key then none
    else some (Dict.put entries key (value v))) path false entries

/-- The entries with the table of a header. -/
def openTable (path : List String) (key : String) (entries : Dict Node) : Option (Dict Node) :=
  alter false (fun _ entries =>
    match Dict.get? entries key with
    | none => some (Dict.put entries key (table false false []))
    | some (table true false inner) => some (Dict.put entries key (table false false inner))
    | some _ => none) path false entries

/-- The entries with one more table in the array of a header. -/
def openElement (path : List String) (key : String) (entries : Dict Node) : Option (Dict Node) :=
  alter false (fun _ entries =>
    match Dict.get? entries key with
    | none => some (Dict.put entries key (tables [[]]))
    | some (tables items) => some (Dict.put entries key (tables ([] :: items)))
    | some _ => none) path false entries

mutual

/-- What the node is when the document is complete. -/
def toml : Node → Toml
  | value v => v
  | table _ _ entries => .table (tomlEntries entries)
  | tables items => .array (tomlTables items).reverse

def tomlEntries : List (String × Node) → List (String × Toml)
  | [] => []
  | (key, node) :: rest => (key, node.toml) :: tomlEntries rest

def tomlTables : List (List (String × Node)) → List Toml
  | [] => []
  | entries :: rest => .table (tomlEntries entries) :: tomlTables rest

end

end Node
end FieldRules.Toml
