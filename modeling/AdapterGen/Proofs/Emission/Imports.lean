import AdapterGen.Proofs.Decoder.Handles
import AdapterGen.Proofs.Emission.Accepted
import AdapterGen.Proofs.Emission.Phrases
import AdapterGen.Proofs.Text.Ascending

/-!
# Imports

Generated code names its helper classes by their simple names. Every helper that the emitter itself
writes is declared as an import, and a declared import is printed unless it lives in the package of
the file.

## Implementation notes

Imports are declared once for a class, from what its plan needs as a whole, and uses arise line by
line. What is tracked from a line to the class around it are the names that the emitter does not
write there: those that are not imported. Names and types that come with the target do not count,
and neither do string literals.
-/

namespace AdapterGen

open Code

namespace Emission

/-! ### What the emitter writes -/

/-- The classes that generated code names by their simple names. -/
def helperClasses : List String :=
  [jsonAdapterClass, jsonReaderClass, jsonWriterClass, moshiClass, ioExceptionClass,
    annotationClass, reflectTypeClass, setClass, TypeExpr.helperClass, levelClass, loggerClass]

/-- Whether a text of code has a word. -/
def HasWord (text word : String) : Prop :=
  word.toList ∈ Text.segmentsBy (fun c => !Java.isWordChar c) text.toList

instance (text word : String) : Decidable (HasWord text word) := inferInstanceAs (Decidable (_ ∈ _))

/-- The text of a piece that the emitter writes of itself. -/
@[simp] def Piece.own? : Piece → Option String
  | .own text => some text
  | .given _ | .literal _ => none

namespace Phrase

/-- What the emitter writes of itself in a text of code. -/
def ownTexts (phrase : Phrase) : List String := phrase.filterMap Piece.own?

@[simp] theorem ownTexts_nil : ownTexts [] = [] := rfl

@[simp] theorem ownTexts_own (text : String) (phrase : Phrase) :
    ownTexts (.own text :: phrase) = text :: ownTexts phrase := rfl

@[simp] theorem ownTexts_given (text : String) (phrase : Phrase) :
    ownTexts (.given text :: phrase) = ownTexts phrase := rfl

@[simp] theorem ownTexts_literal (value : String) (phrase : Phrase) :
    ownTexts (.literal value :: phrase) = ownTexts phrase := rfl

@[simp] theorem ownTexts_append (front back : Phrase) :
    ownTexts (front ++ back) = ownTexts front ++ ownTexts back :=
  List.filterMap_append

/-- Whether the emitter itself writes a class by its simple name. -/
def Writes (phrase : Phrase) (className : String) : Prop :=
  ∃ text ∈ phrase.ownTexts, HasWord text (Naming.simpleName className)

/-- Whether the emitter itself calls a method of the helper of reflective types. -/
def CallsTypes (phrase : Phrase) : Prop :=
  ∃ text ∈ phrase.ownTexts, HasWord text "Types" ∧ TypeExpr.CallsHelper text

end Phrase

/-! ### Names that code lacks -/

namespace Phrase

/-- A text of code in which the emitter itself writes none of some words, as an abbreviation, so
that it is decided where the pieces are known. -/
abbrev Lacks (names : List String) (phrase : Phrase) : Prop :=
  ∀ text ∈ phrase.ownTexts, ∀ name ∈ names, ¬HasWord text name

theorem Lacks.append {names : List String} {front back : Phrase} (lacks : front.Lacks names)
    (backLacks : back.Lacks names) : Lacks names (front ++ back) := by
  unfold Lacks
  rw [ownTexts_append]
  exact List.forall_mem_append.mpr ⟨lacks, backLacks⟩

theorem Lacks.anti {names fewer : List String} {phrase : Phrase} (subset : fewer ⊆ names)
    (lacks : phrase.Lacks names) : phrase.Lacks fewer :=
  fun text found name isName => lacks text found name (subset isName)

end Phrase

/-- Code in which the emitter itself writes none of some words. -/
abbrev Lack (names : List String) (phrases : List Phrase) : Prop :=
  ∀ phrase ∈ phrases, phrase.Lacks names

section

variable {names fewer : List String} {phrase : Phrase} {phrases others : List Phrase}

theorem Lack.nil : Lack names [] := List.forall_mem_nil _

theorem Lack.cons (lacks : phrase.Lacks names) (lack : Lack names phrases) :
    Lack names (phrase :: phrases) :=
  List.forall_mem_cons.mpr ⟨lacks, lack⟩

theorem Lack.append (lack : Lack names phrases) (othersLack : Lack names others) :
    Lack names (phrases ++ others) :=
  List.forall_mem_append.mpr ⟨lack, othersLack⟩

theorem Lack.flatMap {α : Type} {parts : List α} {write : α → List Phrase}
    (lack : ∀ part ∈ parts, Lack names (write part)) : Lack names (parts.flatMap write) := by
  intro phrase found
  obtain ⟨part, isPart, found⟩ := List.mem_flatMap.mp found
  exact lack part isPart phrase found

theorem Lack.anti (subset : fewer ⊆ names) (lack : Lack names phrases) : Lack fewer phrases :=
  fun phrase found => (lack phrase found).anti subset

end

/-! ### Lines of an adapter -/

/-- The names that are imported on demand. -/
def optionalNames : List String := ["Types", "Level", "Logger"]

/-- The names that are not imported for an adapter. -/
def unimported (usesTypes debugLogs : Bool) : List String :=
  (if usesTypes then [] else ["Types"]) ++ (if debugLogs then [] else ["Level", "Logger"])

theorem unimported_subset (usesTypes debugLogs : Bool) :
    unimported usesTypes debugLogs ⊆ optionalNames := by
  cases usesTypes <;> cases debugLogs <;> simp [unimported, optionalNames]

theorem unimported_anti {usesTypes needsTypes : Bool} (debugLogs : Bool)
    (implies : usesTypes = true → needsTypes = true) :
    unimported needsTypes debugLogs ⊆ unimported usesTypes debugLogs := by
  cases usesTypes <;> cases needsTypes <;> simp_all [unimported]

section

variable {names : List String} {phrase : Phrase} {phrases : List Phrase}

namespace Phrase.Lacks

theorem inCall {opening : String} (subset : names ⊆ optionalNames)
    (opens : Phrase.Lacks names [.own opening]) (lacksArgs : phrase.Lacks names) :
    (Phrase.inCall opening phrase).Lacks names := by
  have closes : Phrase.Lacks optionalNames [.own ")"] := by decide_cbv
  exact opens.append (lacksArgs.append (closes.anti subset))

theorem statement (subset : names ⊆ optionalNames) (lacks : phrase.Lacks names) :
    phrase.statement.Lacks names := by
  have ends : Phrase.Lacks optionalNames [.own ";"] := by decide_cbv
  exact lacks.append (ends.anti subset)

theorem opening (subset : names ⊆ optionalNames) (lacks : phrase.Lacks names) :
    phrase.opening.Lacks names := by
  have opens : Phrase.Lacks optionalNames [.own " \x7b"] := by decide_cbv
  exact lacks.append (opens.anti subset)

end Phrase.Lacks

theorem lacks_closingPhrase : closingPhrase.Lacks optionalNames := by decide_cbv

theorem Lack.flow (subset : names ⊆ optionalNames) (lacks : phrase.Lacks names)
    (lack : Lack names phrases) : Lack names (flowPhrases phrase phrases) :=
  .cons (lacks.opening subset) (lack.append (.cons (lacks_closingPhrase.anti subset) .nil))

theorem Lack.block (subset : names ⊆ optionalNames) (lack : Lack names phrases) :
    Lack names (blockPhrases phrases) := by
  have opens : Phrase.Lacks optionalNames [.own "\x7b"] := by decide_cbv
  exact .cons (opens.anti subset) (lack.append (.cons (lacks_closingPhrase.anti subset) .nil))

end

mutual

/-- The expression of a type names no class of the log. -/
theorem lacks_handlePhrase : ∀ expr : TypeExpr, (handlePhrase expr).Lacks ["Level", "Logger"]
  | .classLiteral type => by decide_cbv
  | .parameterized raw args => by
      have opens : Phrase.Lacks ["Level", "Logger"] [.own "Types.newParameterizedType("] := by
        decide_cbv
      have first : Phrase.Lacks ["Level", "Logger"] [.given raw, .own ".class"] := by decide_cbv
      rw [handlePhrase]
      exact opens.inCall (by simp [optionalNames]) (first.append (lacks_restPhrase args))
  | .arrayOf component => by
      have opens : Phrase.Lacks ["Level", "Logger"] [.own "Types.arrayOf("] := by decide_cbv
      rw [handlePhrase]
      exact opens.inCall (by simp [optionalNames]) (lacks_handlePhrase component)

theorem lacks_restPhrase : ∀ args : List TypeExpr,
    (restPhrase args).Lacks ["Level", "Logger"]
  | [] => List.forall_mem_nil _
  | arg :: args => by
      have comma : Phrase.Lacks ["Level", "Logger"] [.own ", "] := by decide_cbv
      rw [restPhrase]
      exact comma.append ((lacks_handlePhrase arg).append (lacks_restPhrase args))

end

/-- The expression of a type names the helper of reflective types only if it uses it. -/
theorem lacks_handle (expr : TypeExpr) (debugLogs : Bool) :
    (handlePhrase expr).Lacks (unimported expr.usesHelper debugLogs) := by
  cases expr with
  | classLiteral type =>
      have plain : (handlePhrase (.classLiteral type)).Lacks optionalNames := by decide_cbv
      exact plain.anti (unimported_subset _ _)
  | parameterized raw args =>
      refine (lacks_handlePhrase _).anti ?_
      cases debugLogs <;> simp [unimported, TypeExpr.usesHelper]
  | arrayOf component =>
      refine (lacks_handlePhrase _).anti ?_
      cases debugLogs <;> simp [unimported, TypeExpr.usesHelper]

theorem lack_logPhrases {args : Phrase} (lacksArgs : args.Lacks optionalNames)
    (usesTypes debugLogs : Bool) :
    Lack (unimported usesTypes debugLogs) (logPhrases debugLogs args) := by
  cases debugLogs with
  | false => exact .nil
  | true =>
      have subset : ["Types"] ⊆ optionalNames := by simp [optionalNames]
      have opens : Phrase.Lacks ["Types"] [.own "LOGGER.log(Level.FINE, "] := by decide_cbv
      have line : Lack ["Types"] (logPhrases true args) :=
        .cons ((opens.inCall subset (lacksArgs.anti subset)).statement subset) .nil
      refine line.anti ?_
      cases usesTypes <;> simp [unimported]

theorem lacks_keyword (kind : PrimitiveKind) : Phrase.Lacks optionalNames [.own kind.keyword] := by
  have all : ∀ kind ∈ PrimitiveKind.all, Phrase.Lacks optionalNames [.own kind.keyword] := by
    decide_cbv
  exact all kind kind.mem_all

theorem lacks_boxedName (kind : PrimitiveKind) :
    Phrase.Lacks optionalNames [.own kind.boxedName] := by
  have all : ∀ kind ∈ PrimitiveKind.all, Phrase.Lacks optionalNames [.own kind.boxedName] := by
    decide_cbv
  exact all kind kind.mem_all

theorem lacks_scalarPhrase (method : ReadMethod) (narrowTo : Option PrimitiveKind) :
    (scalarPhrase method narrowTo).Lacks optionalNames := by
  cases narrowTo with
  | none => cases method <;> decide_cbv
  | some kind =>
      have opens : Phrase.Lacks optionalNames [.own "("] := by decide_cbv
      have call : Phrase.Lacks optionalNames [.own ") reader.", .own method.name, .own "()"] := by
        cases method <;> decide_cbv
      exact (opens.append (lacks_keyword kind)).append call

theorem lacks_unlessNullPhrase {className : String} {read : Phrase}
    (lacksClass : Phrase.Lacks optionalNames [.own className])
    (lacksRead : read.Lacks optionalNames) :
    (unlessNullPhrase className read).Lacks optionalNames := by
  have test : Phrase.Lacks optionalNames
      [.own "(reader.peek() == JsonReader.Token.NULL) ? reader.<"] := by decide_cbv
  have null : Phrase.Lacks optionalNames [.own ">nextNull() : "] := by decide_cbv
  exact ((test.append lacksClass).append null).append lacksRead

theorem lacks_assignPhrase (target : String) {value : Phrase}
    (lacksValue : value.Lacks optionalNames) : (assignPhrase target value).Lacks optionalNames := by
  have front : Phrase.Lacks optionalNames [.given target, .own " = "] := by decide_cbv
  exact (front.append lacksValue).statement (List.Subset.refl _)

theorem lacks_declareAdapterPhrase (type : TypeDescriptor) (expr : TypeExpr) (debugLogs : Bool) :
    (declareAdapterPhrase type expr).Lacks (unimported expr.usesHelper debugLogs) := by
  have subset := unimported_subset expr.usesHelper debugLogs
  have front : Phrase.Lacks optionalNames
      [.own "final JsonAdapter<", .given type.toBoxed.render] := by decide_cbv
  have opens : Phrase.Lacks optionalNames [.own "> _adapter = moshi.adapter("] := by decide_cbv
  have call := (opens.anti subset).inCall subset (lacks_handle expr debugLogs)
  exact ((front.anti subset).append call).statement subset

/-- A read names an optional import only for its strategy or the log. -/
theorem lack_readPhrases (plan : FieldPlan) (target : String) (debugLogs : Bool) :
    Lack (unimported plan.strategy.usesTypesHelper debugLogs)
      (readPhrases plan target debugLogs) := by
  have subset := unimported_subset plan.strategy.usesTypesHelper debugLogs
  obtain ⟨field, strategy⟩ := plan
  cases strategy with
  | primitive kind method narrowTo =>
      refine .cons ((lacks_assignPhrase target ?_).anti subset) .nil
      have read := lacks_scalarPhrase method narrowTo
      cases field.nullable with
      | false => exact read
      | true =>
          have opens : Phrase.Lacks optionalNames [.own ".valueOf("] := by decide_cbv
          have call := opens.inCall (List.Subset.refl _) read
          exact lacks_unlessNullPhrase (lacks_boxedName kind) ((lacks_boxedName kind).append call)
  | string =>
      refine .cons ((lacks_assignPhrase target ?_).anti subset) .nil
      have read : Phrase.Lacks optionalNames [.own "reader.nextString()"] := by decide_cbv
      cases field.nullable with
      | false => exact read
      | true => exact lacks_unlessNullPhrase (by decide_cbv) read
  | delegated type expr =>
      have assigns : Lack optionalNames
          [Phrase.statement [.given target, .own " = _adapter.fromJson(reader)"]] := by decide_cbv
      refine .block subset (.append (.append (.append ?_ ?_) (assigns.anti subset)) ?_)
      · exact .cons (lacks_declareAdapterPhrase type expr debugLogs) .nil
      · exact lack_logPhrases (by decide_cbv) _ _
      · exact lack_logPhrases (by decide_cbv) _ _

theorem lack_armPhrases (locals : List (String × String)) {plan : DecodePlan} {p : FieldPlan}
    (isField : p ∈ plan.fields) (debugLogs : Bool) :
    Lack (unimported plan.usesTypesHelper debugLogs) (armPhrases locals debugLogs p) := by
  have subset := unimported_subset plan.usesTypesHelper debugLogs
  have label : Phrase.Lacks optionalNames [.own "case ", .literal p.field.jsonName, .own ":"] := by
    decide_cbv
  have read : Lack (unimported plan.usesTypesHelper debugLogs)
      (readPhrases p (localOf locals p.field) debugLogs) := by
    refine (lack_readPhrases p _ debugLogs).anti (unimported_anti debugLogs fun uses => ?_)
    exact List.any_eq_true.mpr ⟨p, isField, uses⟩
  have leaves : Lack optionalNames [Phrase.statement [.own "break"]] := by decide_cbv
  exact .cons (label.anti subset) (read.append (leaves.anti subset))

theorem lack_loopPhrases (locals : List (String × String)) (plan : DecodePlan)
    (debugLogs : Bool) :
    Lack (unimported plan.usesTypesHelper debugLogs) (loopPhrases locals debugLogs plan) := by
  have subset := unimported_subset plan.usesTypesHelper debugLogs
  have arms : Lack (unimported plan.usesTypesHelper debugLogs)
      (plan.fields.flatMap (armPhrases locals debugLogs)) :=
    .flatMap fun p isField => lack_armPhrases locals isField debugLogs
  have skips : Lack optionalNames skipPhrases := by decide_cbv
  have switch : Phrase.Lacks optionalNames [.own "switch (_name)"] := by decide_cbv
  have names : Lack optionalNames
      [Phrase.statement [.own "final String _name = reader.nextName()"]] := by decide_cbv
  have loop : Phrase.Lacks optionalNames [.own "while (reader.hasNext())"] := by decide_cbv
  refine .flow subset (loop.anti subset) (.append (.append (names.anti subset) ?_) ?_)
  · exact lack_logPhrases (by decide_cbv) _ _
  · exact .flow subset (switch.anti subset) (arms.append (skips.anti subset))

theorem lack_requirePhrases (locals : List (String × String)) (field : Field) :
    Lack optionalNames (requirePhrases locals field) := by
  have test (name : String) : Phrase.Lacks optionalNames
      [.own "if (", .given name, .own " == null)"] := by decide_cbv
  have throws (message : String) : Phrase.Lacks optionalNames
      (Phrase.inCall "throw new IOException(" [.literal message]) := by decide_cbv
  have subset := List.Subset.refl optionalNames
  exact .flow subset (test _) (.cons ((throws _).statement subset) .nil)

/-- A decoder names an optional import only for its plan or the log. -/
theorem lack_decoderPhrases (targetName : String) (plan : DecodePlan) (debugLogs : Bool) :
    Lack (unimported plan.usesTypesHelper debugLogs)
      (decoderPhrases targetName plan debugLogs) := by
  have plain {phrases : List Phrase} (lack : Lack optionalNames phrases) :
      Lack (unimported plan.usesTypesHelper debugLogs) phrases :=
    lack.anti (unimported_subset _ _)
  have declares (type name : String) : Phrase.Lacks optionalNames
      (Phrase.statement [.given type, .own " ", .given name, .own " = null"]) := by decide_cbv
  have returns (args : String) : Lack optionalNames
      [Phrase.statement
        (.own "return new " :: .given targetName :: Phrase.inCall "(" [.given args])] := by
    decide_cbv
  refine .append (.append (.append (.append (.append (.append ?_ ?_) ?_) ?_) ?_) ?_) ?_
  · exact lack_logPhrases (by decide_cbv) _ _
  · exact plain (List.forall_mem_map.mpr fun field _ => declares _ _)
  · exact plain (by decide_cbv)
  · exact lack_loopPhrases _ plan debugLogs
  · exact plain (by decide_cbv)
  · exact plain (.flatMap fun field _ => lack_requirePhrases _ field)
  · exact plain (returns _)

/-- An adapter names an optional import only for its plan or the log. -/
theorem lack_adapterPhrases (config : Config) (target : Target) (package : String)
    (plan : DecodePlan) :
    Lack (unimported plan.usesTypesHelper target.flags.debugLogs)
      ((adapterPhrases config target package plan).heads ++
        (adapterPhrases config target package plan).bodies) := by
  have plain {phrases : List Phrase} (lack : Lack optionalNames phrases) :
      Lack (unimported plan.usesTypesHelper target.flags.debugLogs) phrases :=
    lack.anti (unimported_subset _ _)
  have extends_ (name : String) : Lack optionalNames
      [[.own "JsonAdapter<", .given name, .own ">"]] := by decide_cbv
  have constructs (message : String) : Phrase.Lacks optionalNames [.literal message] := by
    decide_cbv
  have logger (name : String) : Lack ["Types"]
      [[.own "Logger"], Phrase.inCall "Logger.getLogger(" [.literal name]] := by decide_cbv
  have fieldTypes : Lack optionalNames fieldTypePhrases := by decide_cbv
  have decodes (name : String) : Lack optionalNames
      [[.own "Override"], [.given name], [.own "JsonReader"], [.own "IOException"]] := by
    decide_cbv
  have encodes (name : String) : Lack optionalNames
      [[.own "Override"], [.own "void"], [.own "JsonWriter"], [.given name],
        [.own "IOException"]] := by decide_cbv
  refine .append (.append (.append (.append (.append (.append ?_ ?_) ?_) ?_) ?_) ?_)
    (.append (.append (.append ?_ ?_) ?_) ?_)
  · exact plain (extends_ _)
  · cases target.flags.debugLogs with
    | false => exact .nil
    | true =>
        refine (logger _).anti ?_
        cases plan.usesTypesHelper <;> simp [unimported]
  · exact plain fieldTypes
  · exact plain fieldTypes
  · exact plain (decodes _)
  · exact plain (encodes _)
  · exact lack_logPhrases (constructs _) _ _
  · exact plain (by decide_cbv)
  · exact lack_decoderPhrases _ plan _
  · exact plain (by decide_cbv)

/-! ### Calls of the helper of reflective types -/

theorem callsTypes_declareAdapterPhrase (type : TypeDescriptor) {expr : TypeExpr}
    (calls : (handlePhrase expr).CallsTypes) : (declareAdapterPhrase type expr).CallsTypes := by
  obtain ⟨text, isOwn, call⟩ := calls
  refine ⟨text, ?_, call⟩
  simp [declareAdapterPhrase, Phrase.statement, Phrase.inCall, isOwn]

theorem callsTypes_handlePhrase {expr : TypeExpr} (uses : expr.usesHelper = true) :
    (handlePhrase expr).CallsTypes := by
  cases expr with
  | classLiteral type => contradiction
  | parameterized raw args =>
      exact ⟨"Types.newParameterizedType(", by simp [handlePhrase, Phrase.inCall], by decide_cbv,
        .inl (List.infix_refl _)⟩
  | arrayOf component =>
      exact ⟨"Types.arrayOf(", by simp [handlePhrase, Phrase.inCall], by decide_cbv,
        .inr (List.infix_refl _)⟩

/-- A decoder whose plan uses the helper of reflective types calls it in some line. -/
theorem exists_callsTypes (targetName : String) {plan : DecodePlan} (debugLogs : Bool)
    (uses : plan.usesTypesHelper = true) :
    ∃ line ∈ decoderPhrases targetName plan debugLogs, line.CallsTypes := by
  obtain ⟨p, isField, uses⟩ := List.any_eq_true.mp uses
  have inRead (target : String) : ∃ line ∈ readPhrases p target debugLogs, line.CallsTypes := by
    obtain ⟨field, strategy⟩ := p
    cases strategy with
    | primitive | string => contradiction
    | delegated type expr =>
        exact ⟨declareAdapterPhrase type expr, by simp [readPhrases, blockPhrases],
          callsTypes_declareAdapterPhrase type (callsTypes_handlePhrase uses)⟩
  have inArms (locals : List (String × String)) :
      ∃ line ∈ plan.fields.flatMap (armPhrases locals debugLogs), line.CallsTypes := by
    obtain ⟨line, found, calls⟩ := inRead (localOf locals p.field)
    refine ⟨line, List.mem_flatMap.mpr ⟨p, isField, ?_⟩, calls⟩
    exact List.mem_cons_of_mem _ (List.mem_append_left _ found)
  obtain ⟨line, found, calls⟩ := inArms (localNames targetName (plan.fields.map (·.field)))
  have inLoop : line ∈ loopPhrases (localNames targetName (plan.fields.map (·.field))) debugLogs
      plan := by
    unfold loopPhrases switchPhrases flowPhrases
    simp only [List.mem_append, List.mem_cons]
    tauto
  refine ⟨line, ?_, calls⟩
  unfold decoderPhrases
  simp only [List.mem_append]
  tauto

/-! ### The lines of a factory -/

/-- The names that are not imported for a factory. -/
def factoryUnimported : List String :=
  ["JsonReader", "JsonWriter", "IOException", "Types", "Level", "Logger"]

/-- A factory names no class that only adapters import. -/
theorem lack_factoryPhrases (package : String) (adapters : List AdapterRef) :
    Lack factoryUnimported
      ((factoryPhrases package adapters).heads ++ (factoryPhrases package adapters).bodies) := by
  have heads : Lack factoryUnimported (factoryPhrases "" []).heads := by decide_cbv
  have dispatches (type adapter : String) : Lack factoryUnimported
      (flowPhrases [.own "if (type == ", .given type, .own ".class)"]
        [Phrase.statement [.own "return new ", .given adapter,
          .own "(moshi, this, type, annotations)"]]) := by decide_cbv
  have ends : Lack factoryUnimported [[.own "return null;"]] := by decide_cbv
  exact .append heads (.append (.flatMap fun ref _ => dispatches _ _) ends)

/-! ### Emitted files -/

/-- A file whose code, in pieces, finds its helpers by their simple names. -/
structure FindsHelpers (file : SourceFile) (phrases : ClassPhrases) (debugLogs : Bool) : Prop where
  /-- The pieces make up the code of the file. -/
  code : phrases.MakeUp file.decl
  /-- A helper that the emitter writes is imported, or it lives in the package of the file. -/
  found : ∀ phrase ∈ phrases.heads ++ phrases.bodies, ∀ helper ∈ helperClasses,
    phrase.Writes helper →
      helper ∈ file.printedImports ∨ Naming.packageOf? helper = some file.package
  types : TypeExpr.helperClass ∈ file.decl.imports ↔ ∃ line ∈ phrases.bodies, line.CallsTypes
  level : levelClass ∈ file.decl.imports ↔ debugLogs = true
  logger : loggerClass ∈ file.decl.imports ↔ debugLogs = true
  ascends : file.printedImports.Pairwise (· < ·)
  printed : ∀ name, name ∈ file.printedImports ↔
    name ∈ file.decl.imports ∧ Naming.packageOf? name ≠ some file.package
  /-- The printed imports are the import lines of the file. -/
  rendered : ∀ indent, file.render indent =
    file.renderPackage ++
      Text.concat (file.printedImports.map fun name => "import " ++ name ++ ";\n") ++
      (if file.printedImports = [] then "" else "\n") ++ file.decl.render indent

theorem mem_printedImports {file : SourceFile} {name : String} : name ∈ file.printedImports ↔
    name ∈ file.decl.imports ∧ Naming.packageOf? name ≠ some file.package := by
  simp [SourceFile.printedImports]

theorem FindsHelpers.of_imports {file : SourceFile} {phrases : ClassPhrases} {debugLogs : Bool}
    {imports : List String} (isImports : file.decl.imports = Text.ascending imports)
    (code : phrases.MakeUp file.decl)
    (declared : ∀ phrase ∈ phrases.heads ++ phrases.bodies, ∀ helper ∈ helperClasses,
      phrase.Writes helper → helper ∈ imports)
    (types : TypeExpr.helperClass ∈ imports ↔ ∃ line ∈ phrases.bodies, line.CallsTypes)
    (level : levelClass ∈ imports ↔ debugLogs = true)
    (logger : loggerClass ∈ imports ↔ debugLogs = true) : FindsHelpers file phrases debugLogs := by
  have member (name : String) : name ∈ file.decl.imports ↔ name ∈ imports := by
    rw [isImports, Text.mem_ascending]
  refine ⟨code, fun phrase isCode helper isHelper writes => ?_, (member _).trans types,
    (member _).trans level, (member _).trans logger, ?_, fun _ => mem_printedImports,
    fun indent => ?_⟩
  · by_cases own : Naming.packageOf? helper = some file.package
    · exact .inr own
    · have isImport := (member helper).mpr (declared phrase isCode helper isHelper writes)
      exact .inl (mem_printedImports.mpr ⟨isImport, own⟩)
  · rw [SourceFile.printedImports, isImports]
    exact (Text.pairwise_ascending imports).filter _
  · unfold SourceFile.render SourceFile.renderImports
    split
    · rename_i none
      simp [none, Text.concat]
    · simp [String.append_assoc]

/-- Code that lacks a name does not write the class of that name. -/
theorem Lack.not_writes {names : List String} {phrases : List Phrase} (lack : Lack names phrases)
    {phrase : Phrase} (isCode : phrase ∈ phrases) {helper : String}
    (isName : Naming.simpleName helper ∈ names) : ¬phrase.Writes helper := by
  rintro ⟨text, isOwn, has⟩
  exact lack phrase isCode text isOwn _ isName has

/-- The imports of an adapter that depend on its target. -/
theorem mem_adapterImports (usesTypes debugLogs : Bool) :
    (TypeExpr.helperClass ∈ adapterImports usesTypes debugLogs ↔ usesTypes = true) ∧
    (levelClass ∈ adapterImports usesTypes debugLogs ↔ debugLogs = true) ∧
    (loggerClass ∈ adapterImports usesTypes debugLogs ↔ debugLogs = true) := by
  cases usesTypes <;> cases debugLogs <;> decide_cbv

theorem imported_or_unimported (usesTypes debugLogs : Bool) : ∀ helper ∈ helperClasses,
    helper ∈ adapterImports usesTypes debugLogs ∨
      Naming.simpleName helper ∈ unimported usesTypes debugLogs := by
  cases usesTypes <;> cases debugLogs <;> decide_cbv

theorem findsHelpers_adapterClass (config : Config) (target : Target) (package : String)
    (plan : DecodePlan) :
    FindsHelpers ⟨package, adapterClass config target package plan⟩
      (adapterPhrases config target package plan) target.flags.debugLogs := by
  have lack := lack_adapterPhrases config target package plan
  obtain ⟨types, level, logger⟩ := mem_adapterImports plan.usesTypesHelper target.flags.debugLogs
  refine .of_imports rfl (makeUp_adapterClass config target package plan) ?_ (types.trans ?_)
    level logger
  · intro phrase isCode helper isHelper writes
    rcases imported_or_unimported plan.usesTypesHelper target.flags.debugLogs helper isHelper with
      isImport | isName
    · exact isImport
    · exact absurd writes (lack.not_writes isCode isName)
  · constructor
    · intro uses
      obtain ⟨line, found, calls⟩ :=
        exists_callsTypes target.qualifiedName target.flags.debugLogs uses
      exact ⟨line, List.mem_append_left _ (List.mem_append_right _ found), calls⟩
    · rintro ⟨line, found, text, isOwn, named, -⟩
      by_contra notUsed
      have unimportedName : "Types" ∈ unimported plan.usesTypesHelper target.flags.debugLogs := by
        simp [unimported, notUsed]
      exact lack line (List.mem_append_right _ found) text isOwn "Types" unimportedName named

theorem imported_or_factoryUnimported : ∀ helper ∈ helperClasses,
    helper ∈ [jsonAdapterClass, moshiClass, annotationClass, reflectTypeClass, setClass] ∨
      Naming.simpleName helper ∈ factoryUnimported := by
  decide_cbv

theorem findsHelpers_factoryClass (config : Config) (name package : String)
    (adapters : List AdapterRef) :
    FindsHelpers ⟨package, factoryClass config name package adapters⟩
      (factoryPhrases package adapters) false := by
  have lack := lack_factoryPhrases package adapters
  refine .of_imports rfl (makeUp_factoryClass config name package adapters) ?_ ?_
    (by decide_cbv) (by decide_cbv)
  · intro phrase isCode helper isHelper writes
    rcases imported_or_factoryUnimported helper isHelper with isImport | isName
    · exact isImport
    · exact absurd writes (lack.not_writes isCode isName)
  · refine iff_of_false (by decide_cbv) ?_
    rintro ⟨line, found, text, isOwn, named, -⟩
    exact lack line (List.mem_append_right _ found) text isOwn "Types" (by decide_cbv) named

/-- The code of the units of a target, in pieces. -/
def unitPhrases (config : Config) (target : Target) (package : String) (plan : DecodePlan) :
    UnitKind → ClassPhrases
  | .adapter => adapterPhrases config target package plan
  | .factory | .aggregateFactory => factoryPhrases package [ownRef config target package]

/-- The adapters that the factory of a registration refers to. -/
def registeredRefs (config : Config) (known : List Target) (registration : Registration) :
    List AdapterRef :=
  registration.types.map fun type => ⟨type, registeredAdapter config known type⟩

/-- Whether a unit of a target writes to a log. -/
def logs (target : Target) : UnitKind → Bool
  | .adapter => target.flags.debugLogs
  | .factory | .aggregateFactory => false

/-- Every emitted file finds its helpers: each that the emitter writes is imported or lives in the
file's package. The helper of reflective types is imported exactly when it is called, and the log
exactly in the adapters of targets that ask for it. -/
theorem emitted_files_find_helpers (config : Config) :
    (∀ (target : Target) (package : String) (emitted : EmittedTarget),
      target.package = some package → emitTarget config target = .ok emitted →
        ∀ unit ∈ emitted.units, unit.file.package = package ∧
          FindsHelpers unit.file (unitPhrases config target package emitted.plan unit.kind)
            (logs target unit.kind)) ∧
    (∀ (known : List Target) (registration : Registration) (package : String),
      registration.resolvedPackage? = some package →
        ∃ unit, emitRegistration config known registration = .ok unit ∧
          unit.file.package = package ∧
          FindsHelpers unit.file
            (factoryPhrases package (registeredRefs config known registration)) false) := by
  refine ⟨fun target package emitted inPackage accepted unit isUnit => ?_,
    fun known registration package resolved => ?_⟩
  · rcases eq_of_mem_units inPackage accepted isUnit with rfl | rfl
    · exact ⟨rfl, findsHelpers_adapterClass config target package emitted.plan⟩
    · exact ⟨rfl, findsHelpers_factoryClass config _ package _⟩
  · refine ⟨⟨.aggregateFactory, package, factoryClass config registration.targetClassName package
      (registeredRefs config known registration)⟩, ?_, rfl, findsHelpers_factoryClass _ _ _ _⟩
    simp only [emitRegistration, resolved, registeredRefs]

/-- A target that asks for a log and a factory, and whose field has a type with arguments. -/
def taggedTarget : Target where
  qualifiedName := "a.User"
  package := some "a"
  constructors := [[{ name := "tags", type := .reference "java.util.List" [.string] }]]
  flags := { generateFactory := true, debugLogs := true }

/-- A registration of the target. -/
def taggedRegistration : Registration where
  declaredIn := some "a"
  types := ["a.User"]

theorem emitted_files_of_tagged_target :
    ∃ emitted, emitTarget {} taggedTarget = .ok emitted ∧
      emitted.units.map (·.kind) = [.adapter, .factory] ∧
      (∀ unit ∈ emitted.units, unit.file.package = "a" ∧
        FindsHelpers unit.file (unitPhrases {} taggedTarget "a" emitted.plan unit.kind)
          (logs taggedTarget unit.kind)) ∧
      ∃ unit, emitRegistration {} [taggedTarget] taggedRegistration = .ok unit ∧
        unit.file.package = "a" ∧
        FindsHelpers unit.file
          (factoryPhrases "a" (registeredRefs {} [taggedTarget] taggedRegistration)) false := by
  obtain ⟨ofTargets, ofRegistrations⟩ := emitted_files_find_helpers {}
  exact ⟨_, rfl, rfl, ofTargets taggedTarget "a" _ rfl rfl,
    ofRegistrations [taggedTarget] taggedRegistration "a" rfl⟩

/-- The log is not imported in every unit of a target that asks for it: a factory writes to no
log. -/
theorem factory_of_tagged_target_imports_no_log :
    ¬∀ (config : Config) (target : Target) (package : String) (emitted : EmittedTarget),
      target.package = some package → emitTarget config target = .ok emitted →
        ∀ unit ∈ emitted.units,
          FindsHelpers unit.file (unitPhrases config target package emitted.plan unit.kind)
            target.flags.debugLogs := by
  intro all
  have units := all {} taggedTarget "a" _ rfl rfl
  have imported := (units _ (List.mem_cons_of_mem _ List.mem_cons_self)).level.mpr rfl
  revert imported
  decide_cbv

end Emission

end AdapterGen
