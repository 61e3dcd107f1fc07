import MessageTemplate.Number.Binary64

/-!
# TOML documents

A document is a tree of tables. A table may come into being in several ways, and how it did decides
what may be added to it later.

* `Toml.Item`: values, tables, and arrays of tables.
* `Toml.Origin`: how a table came into being.
* `Toml.Entries.descend`: goes along a path of keys, making tables on the way, and applies a change
  to the table at its end.
* `Toml.Entries.setValue`, `Toml.Entries.openTable`, `Toml.Entries.openElement`: the changes that
  lines of a document make.
-/

namespace MessageTemplate.Toml

/-- How a table came into being. -/
inductive Origin where
  /-- By a header of its own. -/
  | header
  /-- By the header of a table inside it. -/
  | implied
  /-- By a dotted key. -/
  | dotted
  /-- As a value between braces. -/
  | inline
deriving DecidableEq, Repr

/-- Whether later lines may still add to a table by dotted keys. -/
def Origin.isOpen : Origin → Bool
  | .implied | .dotted => true
  | .header | .inline => false

/-- What a key stands for. The entries of a table have a name and a place: that of the value, of
the header, or of the key that made the table. -/
inductive Item where
  | string (s : String)
  | integer (n : Int64)
  | float (x : Binary64)
  | boolean (b : Bool)
  | dateTime (text : String)
  | array (items : List Item)
  | table (origin : Origin) (entries : List (String × Nat × Item))
  | tables (elements : List (List (String × Nat × Item)))

/-- A key of a path, with its place. -/
structure Key where
  name : String
  start : Nat
deriving DecidableEq, Repr

/-- The entries of a table, in order. -/
abbrev Entries := List (String × Nat × Item)

namespace Entries

/-- What a name stands for, with its place. -/
def find? (name : String) : Entries → Option (Nat × Item)
  | [] => none
  | (n, entry) :: rest => if n = name then some entry else find? name rest

/-- The entries with another item for a name that is among them. -/
def set (name : String) (item : Item) : Entries → Entries
  | [] => []
  | (n, start, old) :: rest =>
    if n = name then (n, start, item) :: rest else (n, start, old) :: set name item rest

/-- The entries without a name. -/
def remove (name : String) : Entries → Entries
  | [] => []
  | (n, entry) :: rest => if n = name then rest else (n, entry) :: remove name rest

/-- The entries with one more at the end. -/
def push (name : String) (start : Nat) (item : Item) (entries : Entries) : Entries :=
  entries ++ [(name, start, item)]

/-- Changes the table at the end of a path. Tables that are not there are made, as ones of dotted
keys if `dotted` is set. Dotted keys do not enter tables that are complete, and no path goes on
below a value; of an array of tables the last one is entered. -/
def descend (dotted : Bool) (change : Origin → Entries → Option Entries) :
    List Key → Origin → Entries → Option Entries
  | [], origin, entries => change origin entries
  | key :: path, _, entries =>
    match entries.find? key.name with
    | none => do
      let origin := if dotted then .dotted else .implied
      let inner ← descend dotted change path origin []
      some (entries.push key.name key.start (.table origin inner))
    | some (_, .table origin inner) =>
      if origin = .inline || (dotted && !origin.isOpen) then none
      else do
        let inner ← descend dotted change path origin inner
        some (entries.set key.name (.table origin inner))
    | some (_, .tables elements) =>
      match elements.getLast? with
      | none => none
      | some element => do
        let element ← descend dotted change path .header element
        some (entries.set key.name (.tables (elements.dropLast ++ [element])))
    | some _ => none

/-- Adds a value. The name must be new, and a dotted path must end in a table of dotted keys. -/
def setValue (path : List Key) (key : Key) (start : Nat) (item : Item) (origin : Origin)
    (entries : Entries) : Option Entries :=
  descend true (fun origin entries =>
    if (origin == .dotted) == path.isEmpty || (entries.find? key.name).isSome then none
    else some (entries.push key.name start item)) path origin entries

/-- Makes the table of a header. One that is only implied so far becomes it. -/
def openTable (path : List Key) (key : Key) (start : Nat) (entries : Entries) : Option Entries :=
  descend false (fun _ entries =>
    match entries.find? key.name with
    | none => some (entries.push key.name start (.table .header []))
    | some (_, .table .implied inner) =>
      some ((entries.remove key.name).push key.name start (.table .header inner))
    | some _ => none) path .header entries

/-- Adds a table to an array of tables, a new one if there is none. -/
def openElement (path : List Key) (key : Key) (start : Nat) (entries : Entries) :
    Option Entries :=
  descend false (fun _ entries =>
    match entries.find? key.name with
    | none => some (entries.push key.name start (.tables [[]]))
    | some (_, .tables elements) => some (entries.set key.name (.tables (elements ++ [[]])))
    | some _ => none) path .header entries

end Entries

end MessageTemplate.Toml
