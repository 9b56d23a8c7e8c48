import MarkdownDialects.Data.Value
import MarkdownDialects.Toml.Number

/-!
# Trees of tables

While a document is read, its tables remember how they came into being, because that decides what
may still be added to them.
-/

namespace MarkdownDialects

namespace Toml

/-- How a table came into being. -/
inductive TableKind where
  /-- By a header of a table inside it. -/
  | implied
  /-- By a key with full stops. -/
  | dotted
  /-- By a header of its own. -/
  | explicit
deriving DecidableEq

/-- What stands under a key. -/
inductive Item where
  | value (v : Value)
  | table (kind : TableKind) (entries : List (Text × Item))
  | tables (elements : List (List (Text × Item)))

/-- The entries of a table. -/
abbrev Entries := List (Text × Item)

namespace Entries

/-- What stands under a key. -/
def item? (es : Entries) (key : Text) : Option Item := (es.find? (·.1 == key)).map Prod.snd

/-- Put an item under a key. -/
def put (es : Entries) (key : Text) (item : Item) : Entries :=
  if es.any (·.1 == key) then es.map fun e => if e.1 == key then (key, item) else e
  else es ++ [(key, item)]

/-- Change the table under a path; tables that are missing come into being.  With `dotted` the path
is a key with full stops, which may not pass through tables that have headers.  The change sees how
the table came into being. -/
def changeAt? (dotted : Bool) (change : TableKind → Entries → Option Entries) :
    List Text → TableKind → Entries → Option Entries
  | [], kind, es => change kind es
  | key :: path, _, es =>
    match es.item? key with
    | none => do
      let kind := if dotted then .dotted else .implied
      let inner ← changeAt? dotted change path kind []
      return es.put key (.table kind inner)
    | some (.value _) => none
    | some (.table kind inner) =>
      if dotted && kind = .explicit then none
      else do return es.put key (.table kind (← changeAt? dotted change path kind inner))
    | some (.tables elements) => do
      let last ← elements.getLast?
      let last ← changeAt? dotted change path .explicit last
      return es.put key (.tables (elements.dropLast ++ [last]))

/-- Put a value under a key, whose parts but the last name tables. -/
def define? (path : List Text) (v : Value) (es : Entries) : Option Entries := do
  let key ← path.getLast?
  let tables := path.dropLast
  let insert (kind : TableKind) (es : Entries) : Option Entries :=
    if (!tables.isEmpty && kind != .dotted) || (es.item? key).isSome then none
    else some (es.put key (.value v))
  changeAt? true insert tables .explicit es

/-- The header of a table.  A table that was only implied before is now the last of its
neighbours. -/
def openTable? (path : List Text) (es : Entries) : Option Entries := do
  let key ← path.getLast?
  let insert (_ : TableKind) (es : Entries) : Option Entries :=
    match es.item? key with
    | none => some (es.put key (.table .explicit []))
    | some (.table .implied inner) =>
      some (es.filter (·.1 != key) ++ [(key, .table .explicit inner)])
    | some _ => none
  changeAt? false insert path.dropLast .explicit es

/-- The header of one more table of a list. -/
def openElement? (path : List Text) (es : Entries) : Option Entries := do
  let key ← path.getLast?
  let insert (_ : TableKind) (es : Entries) : Option Entries :=
    match es.item? key with
    | none => some (es.put key (.tables [[]]))
    | some (.tables elements) => some (es.put key (.tables (elements ++ [[]])))
    | some _ => none
  changeAt? false insert path.dropLast .explicit es

/-- Put a value under a key in the table of a header. -/
def defineIn? (header path : List Text) (v : Value) (es : Entries) : Option Entries :=
  changeAt? false (fun _ => define? path v) header .explicit es

end Entries

/-- The key that marks a table as a moment. -/
def momentKey : Text := "$__toml_private_datetime".toList

/-- The value of a table.  A table whose first key marks a moment is that moment, whatever else it
holds; under the key a string must describe it. -/
def tableValue? : List (Text × Value) → Option Value
  | [] => some (.table [])
  | (key, v) :: rest =>
    if key = momentKey then
      match v with
      | .text t => if describesMoment t then some (.moment t) else none
      | _ => none
    else some (.table ((key, v) :: rest))

mutual

/-- The value that an item stands for. -/
def Item.toValue? : Item → Option Value
  | .value v => some v
  | .table _ entries => do tableValue? (← toValues? entries)
  | .tables elements => do return .list (← tablesToValues? elements)

/-- The values that the entries of a table stand for. -/
def toValues? : List (Text × Item) → Option (List (Text × Value))
  | [] => some []
  | (key, item) :: rest => do return (key, ← item.toValue?) :: (← toValues? rest)

/-- The values that the tables of a list stand for. -/
def tablesToValues? : List (List (Text × Item)) → Option (List Value)
  | [] => some []
  | entries :: rest => do
    return (← tableValue? (← toValues? entries)) :: (← tablesToValues? rest)

end

end Toml

end MarkdownDialects
