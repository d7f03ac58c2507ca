/-!
# Documents

The value that a data file holds, and how settings are taken from it. A table
gives named settings, and a list may give the same settings in their order.
-/

namespace AdapterGen

/-- A value of a data file. `unreadable` is a text that its escapes leave without a value. -/
inductive Document where
  | null
  | boolean (value : Bool)
  | number
  | text (value : String)
  | unreadable
  | list (items : List Document)
  | table (entries : List (String × Document))

namespace Document

/-- The only value under a key, if there is one; a repeated key fails. -/
def setting (entries : List (String × Document)) (key : String) : Option (Option Document) :=
  match entries.filter (·.1 == key) with
  | [] => some none
  | [entry] => some (some entry.2)
  | _ => none

/-- The settings of some keys. Items of a list stand for them in order; more items than keys are
an error unless they are allowed. -/
def settings (allowMore : Bool) (keys : List String) : Document → Option (List (Option Document))
  | table entries => keys.mapM (setting entries)
  | list items =>
      if items.length ≤ keys.length ∨ allowMore then
        some ((List.range keys.length).map (items[·]?))
      else none
  | _ => none

/-- A text. -/
def asText : Document → Option String
  | text value => some value
  | _ => none

/-- A truth value. -/
def asBool : Document → Option Bool
  | boolean value => some value
  | _ => none

/-- A text that null leaves out. -/
def asText? : Document → Option (Option String)
  | null => some none
  | text value => some (some value)
  | _ => none

/-- A list of values that are all read alike. -/
def asList {α : Type} (read : Document → Option α) : Document → Option (List α)
  | list items => items.mapM read
  | _ => none

/-- A setting that has a value of its own when it is absent. -/
def withDefault {α : Type} (default : α) (read : Document → Option α) :
    Option Document → Option α
  | none => some default
  | some document => read document

/-- A setting that must be there. -/
def required {α : Type} (read : Document → Option α) : Option Document → Option α
  | none => none
  | some document => read document

end Document

end AdapterGen
