import AdapterGen.Source.Parse

/-!
# Lists in angle brackets

Arguments and parameters in angle brackets. Lifetimes are printed before
everything else, wherever they stand.
-/

namespace AdapterGen.Source.Grammar

open Parse (next expect)
open Lookahead (punct)

/-- An entry of a list: how it is printed, and whether a comma follows it. -/
structure AngleEntry (α : Type) where
  value : α
  isLifetime : Bool
  printed : List Lexeme
  comma : Bool

/-- The comma between entries. -/
def commaLexeme : Lexeme := ⟨",", false⟩

/-- An entry with its comma. -/
def AngleEntry.lexemes {α : Type} (self : AngleEntry α) : List Lexeme :=
  self.printed ++ if self.comma then [commaLexeme] else []

/-- Entries as they are printed: the lifetimes before all others. -/
def arranged {α : Type} (entries : List (AngleEntry α)) : List Lexeme :=
  let lifetimes := entries.filter (·.isLifetime)
  let others := entries.filter (!·.isLifetime)
  let gap :=
    if others.isEmpty || (lifetimes.getLast?.map (·.comma)).getD true then [] else [commaLexeme]
  lifetimes.flatMap (·.lexemes) ++ gap ++ others.flatMap (·.lexemes)

/-- One entry with its comma, unless the closing bracket follows. -/
def angleEntry {α : Type} (entry : Parse (Bool × α)) : Parse (AngleEntry α) := do
  let ((isLifetime, value), printed) ← Parse.captured entry
  if ← next (punct ">") then return ⟨value, isLifetime, printed, false⟩
  Parse.unprinted (expect ",")
  return ⟨value, isLifetime, printed, true⟩

/-- A list of entries, each of which may be a lifetime. -/
def angleList {α : Type} (entry : Parse (Bool × α)) : Parse (List α) := do
  expect "<"
  let entries ← Parse.upTo (punct ">") (angleEntry entry)
  Parse.emit (arranged entries)
  expect ">"
  return entries.map (·.value)

end AdapterGen.Source.Grammar
