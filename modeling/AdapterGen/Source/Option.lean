import AdapterGen.Source.Grammar.Whole
import AdapterGen.Target

/-!
# Options in attributes

What the attributes of records, modules and fields ask for. Keys that are not
known, that repeat or that lack a value of their kind make an attribute invalid.
-/

namespace AdapterGen.Source

open Parse (next expect accept require)
open Lookahead (punct)

/-! ### Lists of options -/

/-- What is said about an option. -/
inductive OptionBody where
  | word
  | list (trees : List TokenTree)
  | boolean (value : Bool)
  | text (value : String)
  | other

/-- An option: the names of its path, and what is said about it. -/
structure OptionEntry where
  path : List String
  body : OptionBody

/-- The literal that is the value of an option, with nothing after it but a comma. -/
def optionValue : Parse OptionBody := do
  let trees := (← get).trees
  Parse.literal
  require (← next (Lookahead.either [Lookahead.done, punct ","]))
  match trees with
  | .name text :: _ => return .boolean (text == "true")
  | .literal (.text value) _ :: _ => return .text value
  | _ => return .other

/-- One option of a list. A truth value is the name of one only where a value follows. -/
def optionEntry : Parse OptionEntry := do
  require (!(← next fun trees =>
    Lookahead.anyWord ["true", "false"] trees && !Lookahead.second (punct "=") trees))
  let path ← Grammar.plainNames Lookahead.anyName
  if ← next Grammar.startsGroup then
    let (_, trees) ← Parse.anyGroup
    return ⟨path, .list trees⟩
  else if ← accept "=" then return ⟨path, ← optionValue⟩
  else return ⟨path, .word⟩

/-- The options of a list. -/
def optionEntries? (trees : List TokenTree) : Option (List OptionEntry) :=
  parseAll? (fun _ => Parse.listed optionEntry) trees

/-- The options of a list, each at most once and of a known name. -/
def knownOptions? (known : List String) (trees : List TokenTree) : Option (List OptionEntry) := do
  let entries ← optionEntries? trees
  if entries.all (fun e => known.any (e.path == [·])) && (entries.map (·.path)).Nodup then
    some entries
  else none

/-- What is said about an option of a name, if anything. -/
def optionNamed? (name : String) (entries : List OptionEntry) : Option OptionBody :=
  (entries.find? (·.path == [name])).map (·.body)

/-- The value of an option that is on or off. -/
def OptionBody.switch? : OptionBody → Option Bool
  | word => some true
  | boolean value => some value
  | text value => if value = "true" then some true else if value = "false" then some false else none
  | _ => none

/-- The value of an option that is a text. -/
def OptionBody.text? : OptionBody → Option String
  | text value => some value
  | _ => none

/-- The value of an option that lists paths, each by its names. -/
def OptionBody.paths? : OptionBody → Option (List (List String))
  | list trees => do
      (← optionEntries? trees).mapM fun entry =>
        match entry.body with
        | .word => some entry.path
        | _ => none
  | _ => none

/-- The value of an option that may be absent. -/
def optionOr {α : Type} (fallback : α) (read : OptionBody → Option α) (name : String)
    (entries : List OptionEntry) : Option α :=
  match optionNamed? name entries with
  | some body => read body
  | none => some fallback

/-! ### Records and modules -/

/-- The flags of a record that is marked for generation. -/
def Attribute.flags? (marker : Attribute) : Option GenerateFlags :=
  match marker.body with
  | .word => some {}
  | .value => none
  | .list trees => do
      let entries ← knownOptions? ["generate_factory", "generate_writer", "debug_logs"] trees
      return {
        generateFactory := ← optionOr false OptionBody.switch? "generate_factory" entries
        generateWriter := ← optionOr true OptionBody.switch? "generate_writer" entries
        debugLogs := ← optionOr false OptionBody.switch? "debug_logs" entries }

/-- What an attribute says about a factory. -/
structure FactoryOptions where
  types : List (List String)
  targetClassName : Option String
  targetPackage : Option String

/-- The factory that an attribute describes. -/
def Attribute.factory? (marker : Attribute) : Option FactoryOptions :=
  match marker.body with
  | .list trees => do
      let entries ← knownOptions? ["types", "target_class_name", "target_package"] trees
      return {
        types := ← (← optionNamed? "types" entries).paths?
        targetClassName := ← optionOr none (·.text?.map some) "target_class_name" entries
        targetPackage := ← optionOr none (·.text?.map some) "target_package" entries }
  | _ => none

/-- The package that an attribute names: a single text. -/
def Attribute.packageName? (marker : Attribute) : Option String :=
  match marker.body with
  | .list trees => parseAll? (fun _ => Parse.text) trees
  | _ => none

/-! ### Fields -/

/-- The key that an attribute for it names. -/
def Attribute.key? (marker : Attribute) : Option String :=
  match marker.body with
  | .list trees => do
      let entries ← knownOptions? ["name"] trees
      (← optionNamed? "name" entries).text?
  | _ => none

/-- The path of a setting: whether it is rooted, and its names. -/
def settingPath : Parse (Bool × List String) := Grammar.plainPath Lookahead.anyName

/-- A new name in one direction; only the one for reading is given back. -/
def directedName : Parse (Option String) := do
  let path ← settingPath
  expect "="
  let value ← Parse.text
  return if path == (false, ["deserialize"]) then some value else none

/-- One setting of a serialized field: its new name, if it gives one. -/
def fieldSetting (g : Grammar) : Parse (Option String) := do
  let path ← settingPath
  let renames := path == (false, ["rename"])
  if ← accept "=" then
    if renames then return some (← Parse.text)
    g.value
    return none
  else if renames then
    Parse.inGroup .parenthesis do
      require (!(← next Lookahead.done))
      return (← Parse.listed directedName).reverse.findSome? id
  else if ← next (Lookahead.group .parenthesis) then
    let _ ← Parse.anyGroup
    return none
  else return none

/-- The new name that the settings of a serialized field give, the last one counting; it is an
error when they cannot be read. -/
def Attribute.renaming? (marker : Attribute) : Option (Option String) :=
  match marker.body with
  | .list trees =>
      (parseAll? (fun g => Parse.listed (fieldSetting g)) trees).map
        fun names => names.reverse.findSome? id
  | _ => none

end AdapterGen.Source
