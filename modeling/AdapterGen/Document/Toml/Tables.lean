import AdapterGen.Document

/-!
# TOML tables

Tables under construction. A table is defined once: by a header, or by the
dotted keys of one block; a header may name a table that longer headers implied.
-/

namespace AdapterGen.Document.Toml

/-- How a table came about. -/
inductive TableKind where
  | implied
  | header
  | dotted
  deriving DecidableEq

/-- A value under construction. The last of several tables is the open one. -/
inductive Node where
  | value (document : Document)
  | table (kind : TableKind) (entries : List (String × Node))
  | tables (items : List (List (String × Node)))

/-- The entries of a table under construction. -/
abbrev Entries := List (String × Node)

/-- Puts a node under a key, in place of the one that is there. -/
def setKey (entries : Entries) (key : String) (node : Node) : Entries :=
  if entries.any (·.1 == key) then
    entries.map fun entry => if entry.1 == key then (key, node) else entry
  else entries ++ [(key, node)]

/-- Puts a value under a dotted key. The key passes tables that no header defined, and ends in
the block's own table or in one that dotted keys made. -/
def insertDotted (isOpen : Bool) (entries : Entries) (document : Document) :
    List String → Option Entries
  | [] => none
  | [key] =>
      if isOpen && (entries.lookup key).isNone then some (setKey entries key (.value document))
      else none
  | key :: path =>
      match entries.lookup key with
      | none => do
          let inner ← insertDotted true [] document path
          return setKey entries key (.table .dotted inner)
      | some (.table kind inner) =>
          if kind == .header then none
          else do
            let changed ← insertDotted (kind == .dotted) inner document path
            return setKey entries key (.table kind changed)
      | some _ => none

/-- Changes the node at a path, making the tables on the way. -/
def change (entries : Entries) (edit : Option Node → Option Node) : List String → Option Entries
  | [] => none
  | [key] => (edit (entries.lookup key)).map (setKey entries key)
  | key :: path =>
      match entries.lookup key with
      | none => (change [] edit path).map fun inner => setKey entries key (.table .implied inner)
      | some (.table kind inner) =>
          (change inner edit path).map fun inner => setKey entries key (.table kind inner)
      | some (.tables items) =>
          (change (items.getLastD []) edit path).map fun inner =>
            setKey entries key (.tables (items.dropLast ++ [inner]))
      | some (.value _) => none

/-- Opens the table of a header. -/
def openTable : Option Node → Option Node
  | none => some (.table .header [])
  | some (.table .implied entries) => some (.table .header entries)
  | _ => none

/-- Opens one more table of a list of tables. -/
def openItem : Option Node → Option Node
  | none => some (.tables [[]])
  | some (.tables items) => some (.tables (items ++ [[]]))
  | _ => none

/-- Puts a value under a dotted key of an open table. -/
def insertInto (document : Document) (key : List String) : Option Node → Option Node
  | some (.table kind entries) => (insertDotted true entries document key).map (.table kind)
  | some (.tables items) =>
      (insertDotted true (items.getLastD []) document key).map fun entries =>
        .tables (items.dropLast ++ [entries])
  | _ => none

mutual

/-- The finished value of a node. -/
def Node.finish : Node → Document
  | .value document => document
  | .table _ entries => .table (finishEntries entries)
  | .tables items => .list (finishItems items)

/-- The finished entries of a table. -/
def finishEntries : List (String × Node) → List (String × Document)
  | [] => []
  | (key, node) :: rest => (key, node.finish) :: finishEntries rest

/-- The finished tables of a list. -/
def finishItems : List (List (String × Node)) → List Document
  | [] => []
  | entries :: rest => .table (finishEntries entries) :: finishItems rest

end

/-- A line of a document. -/
inductive Statement where
  | header (path : List String)
  | itemHeader (path : List String)
  | entry (key : List String) (document : Document)

/-- Adds statements to a document, the table at a path being open. -/
def addStatements (entries : Entries) (path : List String) : List Statement → Option Entries
  | [] => some entries
  | .header target :: rest => do
      addStatements (← change entries openTable target) target rest
  | .itemHeader target :: rest => do
      addStatements (← change entries openItem target) target rest
  | .entry key document :: rest => do
      let changed ←
        if path = [] then insertDotted true entries document key
        else change entries (insertInto document key) path
      addStatements changed path rest

end AdapterGen.Document.Toml
