import AdapterGen.Emission
import AdapterGen.Proofs.Java.Lines

/-!
# Who wrote the code

The code of a generated class in pieces: those that the emitter writes of itself, string literals,
and the names and types that come with the target. The pieces of a line make up its text, so that a
word can be asked for its origin.

## Implementation notes

A class of the target may have the name of a helper, such as `Type`, and a JSON key may read like
code. The texts alone do not tell these from what the emitter writes.
-/

namespace AdapterGen

open Code

/-! ### The code of a declaration -/

namespace Code

/-- The texts of a method's head that may name classes. -/
def MethodDecl.headTexts (method : MethodDecl) : List String :=
  method.annotations ++ method.returns.toList ++ method.parameters.map (·.type) ++ method.throws

/-- The texts of a declaration that may name classes, outside of the bodies of its methods. -/
def ClassDecl.headTexts (decl : ClassDecl) : List String :=
  decl.superclass.toList ++ decl.interfaces ++
    decl.fields.flatMap (fun field => field.type :: field.initializer.toList) ++
    decl.methods.flatMap (·.headTexts)

/-- The lines of the bodies of a declaration's methods. -/
def ClassDecl.bodyTexts (decl : ClassDecl) : List String :=
  decl.methods.flatMap (·.body.texts)

end Code

namespace Emission

/-! ### Pieces -/

/-- A piece of a text of code. -/
inductive Piece where
  /-- What the emitter writes of itself. -/
  | own (text : String)
  /-- A name or a type that comes with the target. -/
  | given (text : String)
  /-- The literal of a string, which names no class. -/
  | literal (value : String)

/-- The text of a piece. -/
def Piece.text : Piece → String
  | own text | given text => text
  | literal value => stringLiteral value

/-- A text of code in pieces. -/
abbrev Phrase := List Piece

namespace Phrase

/-- The text that pieces make up. -/
def text (phrase : Phrase) : String := Text.concat (phrase.map Piece.text)

@[simp] theorem text_nil : text [] = "" := rfl

@[simp] theorem text_own (written : String) (phrase : Phrase) :
    text (.own written :: phrase) = written ++ text phrase := rfl

@[simp] theorem text_given (name : String) (phrase : Phrase) :
    text (.given name :: phrase) = name ++ text phrase := rfl

@[simp] theorem text_literal (value : String) (phrase : Phrase) :
    text (.literal value :: phrase) = stringLiteral value ++ text phrase := rfl

theorem text_singleton (written : String) : text [.own written] = written := by simp

@[simp] theorem text_append (front back : Phrase) :
    text (front ++ back) = text front ++ text back := by
  simp [text, Text.concat_append]

/-- The arguments of a call behind its opening, which ends with the parenthesis. -/
def inCall (opening : String) (args : Phrase) : Phrase := .own opening :: (args ++ [Piece.own ")"])

@[simp] theorem text_inCall (opening : String) (args : Phrase) :
    text (inCall opening args) = opening ++ text args ++ ")" := by
  simp [inCall, String.append_assoc]

/-- The line of a statement. -/
def statement (phrase : Phrase) : Phrase := phrase ++ [Piece.own ";"]

/-- The line that opens a block behind its header. -/
def opening (header : Phrase) : Phrase := header ++ [Piece.own " \x7b"]

end Phrase

/-- The line that closes a block. -/
def closingPhrase : Phrase := [.own "\x7d"]

/-- The lines of a block behind its header. -/
def flowPhrases (header : Phrase) (body : List Phrase) : List Phrase :=
  header.opening :: (body ++ [closingPhrase])

/-- The lines of a block without a header. -/
def blockPhrases (body : List Phrase) : List Phrase := [.own "\x7b"] :: (body ++ [closingPhrase])

/-! ### Steps in pieces -/

/-- Phrases that are the lines which steps write. -/
def WrittenAs (steps : List Step) (phrases : List Phrase) : Prop :=
  textsOf steps = phrases.map Phrase.text

namespace WrittenAs

theorem nil : WrittenAs [] [] := rfl

theorem append {steps more : List Step} {phrases others : List Phrase}
    (front : WrittenAs steps phrases) (back : WrittenAs more others) :
    WrittenAs (steps ++ more) (phrases ++ others) := by
  rw [WrittenAs, textsOf_append, front, back, List.map_append]

theorem flatMap {α : Type} (parts : List α) {write : α → List Step} {phrases : α → List Phrase}
    (written : ∀ part, WrittenAs (write part) (phrases part)) :
    WrittenAs (parts.flatMap write) (parts.flatMap phrases) := by
  induction parts with
  | nil => exact .nil
  | cons part parts ih => exact (written part).append ih

theorem map {α : Type} (parts : List α) {write : α → Step} {phrase : α → Phrase}
    (written : ∀ part, WrittenAs [write part] [phrase part]) :
    WrittenAs (parts.map write) (parts.map phrase) := by
  rw [List.map_eq_flatMap, List.map_eq_flatMap]
  exact flatMap parts written

theorem line {text : String} {phrase : Phrase} (isText : phrase.text = text) :
    WrittenAs [.line text] [phrase] := by
  simp [WrittenAs, textsOf, Step.texts, isText]

theorem statement {text : String} {phrase : Phrase} (isText : phrase.text = text) :
    WrittenAs [.statement text] [phrase.statement] := by
  simp [WrittenAs, textsOf, Step.texts, Phrase.statement, isText]

theorem indented {body : List Step} {phrases : List Phrase} (written : WrittenAs body phrases) :
    WrittenAs (Code.indented body) phrases := by
  rw [WrittenAs, textsOf_indented, written]

theorem flow {header : String} {phrase : Phrase} {body : List Step} {phrases : List Phrase}
    (nonempty : header ≠ "") (isHeader : phrase.text = header) (written : WrittenAs body phrases) :
    WrittenAs (Code.flow header body) (flowPhrases phrase phrases) := by
  rw [WrittenAs, textsOf_flow, written]
  simp [Block.openingText, nonempty, isHeader, flowPhrases, Phrase.opening, closingPhrase]

theorem block {body : List Step} {phrases : List Phrase} (written : WrittenAs body phrases) :
    WrittenAs (Code.flow "" body) (blockPhrases phrases) := by
  rw [WrittenAs, textsOf_flow, written]
  simp [Block.openingText, blockPhrases, closingPhrase]

end WrittenAs

/-! ### Expressions -/

mutual

/-- The pieces of the expression that yields a type. -/
def handlePhrase : TypeExpr → Phrase
  | .classLiteral type => [.given type, .own ".class"]
  | .parameterized raw args =>
      Phrase.inCall "Types.newParameterizedType(" (.given raw :: .own ".class" :: restPhrase args)
  | .arrayOf component => Phrase.inCall "Types.arrayOf(" (handlePhrase component)

/-- The pieces of arguments, each behind a comma. -/
def restPhrase : List TypeExpr → Phrase
  | [] => []
  | arg :: args => .own ", " :: (handlePhrase arg ++ restPhrase args)

end

mutual

theorem text_handlePhrase : ∀ expr : TypeExpr, (handlePhrase expr).text = expr.render
  | .classLiteral type => by
      rw [handlePhrase, TypeExpr.render_classLiteral]
      simp
  | .parameterized raw args => by
      rw [handlePhrase, TypeExpr.render_parameterized, ← text_restPhrase args]
      simp [String.append_assoc]
  | .arrayOf component => by
      rw [handlePhrase, TypeExpr.render_arrayOf, ← text_handlePhrase component]
      simp [String.append_assoc]

theorem text_restPhrase : ∀ args : List TypeExpr,
    (restPhrase args).text = TypeExpr.renderRest args
  | [] => rfl
  | arg :: args => by
      rw [restPhrase, TypeExpr.renderRest_cons, ← text_handlePhrase arg, ← text_restPhrase args]
      simp [String.append_assoc]

end

/-- The pieces of the read of a scalar. -/
def scalarPhrase (method : ReadMethod) : (narrowTo : Option PrimitiveKind) → Phrase
  | some kind => [.own "(", .own kind.keyword, .own ") reader.", .own method.name, .own "()"]
  | none => [.own "reader.", .own method.name, .own "()"]

theorem text_scalarPhrase (method : ReadMethod) (narrowTo : Option PrimitiveKind) :
    (scalarPhrase method narrowTo).text = scalarRead method narrowTo := by
  cases narrowTo <;> simp [scalarPhrase, scalarRead, String.append_assoc]

/-- The pieces of a read that is made unless the value is null. -/
def unlessNullPhrase (className : String) (read : Phrase) : Phrase :=
  .own "(reader.peek() == JsonReader.Token.NULL) ? reader.<" :: .own className ::
    .own ">nextNull() : " :: read

theorem text_unlessNullPhrase (className : String) (read : Phrase) :
    (unlessNullPhrase className read).text = readUnlessNull className read.text := by
  unfold unlessNullPhrase readUnlessNull
  rw [Phrase.text_own, Phrase.text_own, Phrase.text_own, String.append_assoc, String.append_assoc]

/-! ### The body of the decoder -/

/-- The line of a log statement, which is none without logging. -/
def logPhrases (debugLogs : Bool) (args : Phrase) : List Phrase :=
  if debugLogs then [(Phrase.inCall "LOGGER.log(Level.FINE, " args).statement] else []

theorem writtenAs_whenLogging (debugLogs : Bool) {args : String} {phrase : Phrase}
    (isText : phrase.text = args) :
    WrittenAs (whenLogging debugLogs [logStep args]) (logPhrases debugLogs phrase) := by
  cases debugLogs with
  | false => exact .nil
  | true => exact .statement (by simp [isText, String.append_assoc])

/-- The line that assigns a value. -/
def assignPhrase (target : String) (value : Phrase) : Phrase :=
  Phrase.statement (.given target :: .own " = " :: value)

/-- The line that looks up the adapter of a field's type. -/
def declareAdapterPhrase (type : TypeDescriptor) (expr : TypeExpr) : Phrase :=
  Phrase.statement
    (.own "final JsonAdapter<" :: .given type.toBoxed.render ::
      Phrase.inCall "> _adapter = moshi.adapter(" (handlePhrase expr))

/-- The lines that read one field. -/
def readPhrases (plan : FieldPlan) (target : String) (debugLogs : Bool) : List Phrase :=
  match plan.strategy with
  | .primitive kind method narrowTo =>
      let read := scalarPhrase method narrowTo
      [assignPhrase target
        (if plan.field.nullable then
          unlessNullPhrase kind.boxedName (.own kind.boxedName :: Phrase.inCall ".valueOf(" read)
        else read)]
  | .string =>
      let read := [.own "reader.nextString()"]
      [assignPhrase target
        (if plan.field.nullable then unlessNullPhrase "String" read else read)]
  | .delegated type expr =>
      blockPhrases
        ([declareAdapterPhrase type expr] ++
          logPhrases debugLogs [.literal "\tGot delegate adapter: \x7b0\x7d", .own ", _adapter"] ++
          [Phrase.statement [.given target, .own " = _adapter.fromJson(reader)"]] ++
          logPhrases debugLogs [.literal "\tGot model data: \x7b0\x7d", .own ", ", .given target])

theorem writtenAs_readSteps (plan : FieldPlan) (target : String) (debugLogs : Bool) :
    WrittenAs (readSteps plan target debugLogs) (readPhrases plan target debugLogs) := by
  obtain ⟨field, strategy⟩ := plan
  cases strategy with
  | primitive kind method narrowTo =>
    refine .statement ?_
    cases field.nullable <;> simp [text_unlessNullPhrase, text_scalarPhrase, String.append_assoc]
  | string =>
    refine .statement ?_
    cases field.nullable <;> simp [text_unlessNullPhrase, String.append_assoc]
  | delegated type expr =>
    refine .block (.append (.append (.append (.statement ?_) ?_) (.statement ?_)) ?_)
    · simp [text_handlePhrase, String.append_assoc]
    · exact writtenAs_whenLogging debugLogs (by simp)
    · simp
    · exact writtenAs_whenLogging debugLogs (by simp [String.append_assoc])

/-- The lines of one arm of the switch over keys. -/
def armPhrases (locals : List (String × String)) (debugLogs : Bool) (plan : FieldPlan) :
    List Phrase :=
  [.own "case ", .literal plan.field.jsonName, .own ":"] ::
    (readPhrases plan (localOf locals plan.field) debugLogs ++ [Phrase.statement [.own "break"]])

theorem writtenAs_armSteps (locals : List (String × String)) (debugLogs : Bool)
    (plan : FieldPlan) :
    WrittenAs (armSteps locals debugLogs plan) (armPhrases locals debugLogs plan) := by
  have label : WrittenAs [.line ("case " ++ stringLiteral plan.field.jsonName ++ ":")]
      [[.own "case ", .literal plan.field.jsonName, .own ":"]] :=
    .line (by simp [String.append_assoc])
  exact label.append
    (.indented (.append (writtenAs_readSteps plan _ debugLogs) (.statement (by simp))))

/-- The lines that check that a required field's key occurred. -/
def requirePhrases (locals : List (String × String)) (field : Field) : List Phrase :=
  flowPhrases [.own "if (", .given (localOf locals field), .own " == null)"]
    [(Phrase.inCall "throw new IOException("
      [.literal (missingFieldMessage field.jsonName)]).statement]

theorem writtenAs_requireSteps (locals : List (String × String)) (field : Field) :
    WrittenAs (requireSteps locals field) (requirePhrases locals field) := by
  refine .flow (by simp) ?_ (.statement ?_)
  · simp [String.append_assoc]
  · simp [String.append_assoc]

/-- The line that declares a field's local. -/
def declarePhrase (locals : List (String × String)) (field : Field) : Phrase :=
  Phrase.statement
    [.given field.type.toBoxed.render, .own " ", .given (localOf locals field), .own " = null"]

theorem writtenAs_declareStep (locals : List (String × String)) (field : Field) :
    WrittenAs [declareStep locals field] [declarePhrase locals field] :=
  .statement (by simp [String.append_assoc])

/-- The lines that skip the value of an unknown key. -/
def skipPhrases : List Phrase :=
  [[.own "default:"], Phrase.statement [.own "reader.skipValue()"]]

/-- The lines of the switch over keys. -/
def switchPhrases (locals : List (String × String)) (debugLogs : Bool) (plan : DecodePlan) :
    List Phrase :=
  flowPhrases [.own "switch (_name)"]
    (plan.fields.flatMap (armPhrases locals debugLogs) ++ skipPhrases)

theorem writtenAs_switch (locals : List (String × String)) (debugLogs : Bool)
    (plan : DecodePlan) :
    WrittenAs
      (flow "switch (_name)"
        (plan.fields.flatMap (armSteps locals debugLogs) ++
          .line "default:" :: indented [.statement "reader.skipValue()"]))
      (switchPhrases locals debugLogs plan) := by
  have skips : WrittenAs ([.line "default:"] ++ indented [.statement "reader.skipValue()"])
      skipPhrases :=
    .append (.line (Phrase.text_singleton _)) (.indented (.statement (Phrase.text_singleton _)))
  have arms := WrittenAs.flatMap plan.fields (writtenAs_armSteps locals debugLogs)
  exact .flow (by simp) (Phrase.text_singleton _) (arms.append skips)

/-- The lines of the loop over keys. -/
def loopPhrases (locals : List (String × String)) (debugLogs : Bool) (plan : DecodePlan) :
    List Phrase :=
  flowPhrases [.own "while (reader.hasNext())"]
    ([Phrase.statement [.own "final String _name = reader.nextName()"]] ++
      logPhrases debugLogs [.literal "\tGot name: \x7b0\x7d", .own ", _name"] ++
      switchPhrases locals debugLogs plan)

theorem writtenAs_loop (locals : List (String × String)) (debugLogs : Bool) (plan : DecodePlan) :
    WrittenAs
      (flow "while (reader.hasNext())"
        ([.statement "final String _name = reader.nextName()"] ++
          whenLogging debugLogs [logStep (stringLiteral "\tGot name: \x7b0\x7d" ++ ", _name")] ++
          flow "switch (_name)"
            (plan.fields.flatMap (armSteps locals debugLogs) ++
              .line "default:" :: indented [.statement "reader.skipValue()"])))
      (loopPhrases locals debugLogs plan) := by
  refine .flow (by simp) (Phrase.text_singleton _)
    (.append (.append (.statement (Phrase.text_singleton _)) ?_)
      (writtenAs_switch locals debugLogs plan))
  exact writtenAs_whenLogging debugLogs (by simp)

/-- The lines of the decoder. -/
def decoderPhrases (targetName : String) (plan : DecodePlan) (debugLogs : Bool) : List Phrase :=
  let fields := plan.fields.map (·.field)
  let locals := localNames targetName fields
  logPhrases debugLogs [.own "\"Reading json\""] ++
    fields.map (declarePhrase locals) ++
    [Phrase.statement [.own "reader.beginObject()"]] ++
    loopPhrases locals debugLogs plan ++
    [Phrase.statement [.own "reader.endObject()"]] ++
    plan.requiredFields.flatMap (requirePhrases locals) ++
    [Phrase.statement (.own "return new " :: .given targetName ::
      Phrase.inCall "(" [.given (Text.join ", " (fields.map (localOf locals)))])]

theorem writtenAs_decoderSteps (targetName : String) (plan : DecodePlan) (debugLogs : Bool) :
    WrittenAs (decoderSteps targetName plan debugLogs)
      (decoderPhrases targetName plan debugLogs) := by
  refine .append (.append (.append (.append (.append (.append ?_ ?_) ?_) ?_) ?_) ?_) ?_
  · exact writtenAs_whenLogging debugLogs (Phrase.text_singleton _)
  · exact .map _ (writtenAs_declareStep _)
  · exact .statement (Phrase.text_singleton _)
  · exact writtenAs_loop _ debugLogs plan
  · exact .statement (Phrase.text_singleton _)
  · exact .flatMap _ (writtenAs_requireSteps _)
  · exact .statement (by simp [String.append_assoc])

/-! ### Declarations -/

/-- The code of a declaration in pieces. -/
structure ClassPhrases where
  heads : List Phrase
  bodies : List Phrase

/-- A declaration whose code is made up of pieces. -/
structure ClassPhrases.MakeUp (phrases : ClassPhrases) (decl : ClassDecl) : Prop where
  heads : decl.headTexts = phrases.heads.map Phrase.text
  bodies : decl.bodyTexts = phrases.bodies.map Phrase.text

/-- The pieces of the declared type of the annotations of a type. -/
def annotationsPhrase : Phrase := [.own "Set<? extends Annotation>"]

/-- The declared types of what an adapter keeps. -/
def fieldTypePhrases : List Phrase :=
  [[.own "Moshi"], [.own "JsonAdapter.Factory"], [.own "Type"], annotationsPhrase]

/-- The lines of the adapter's constructor. -/
def constructorPhrases (name : String) (debugLogs : Bool) : List Phrase :=
  logPhrases debugLogs [.literal ("Constructing " ++ name)] ++
    [[Piece.own "this.moshi = moshi;"], [.own "this.factory = factory;"],
      [.own "this.type = type;"], [.own "this.annotations = annotations;"]]

theorem writtenAs_constructorSteps (name : String) (debugLogs : Bool) :
    WrittenAs (constructorSteps name debugLogs) (constructorPhrases name debugLogs) :=
  .append (writtenAs_whenLogging debugLogs (by simp)) rfl

/-- The code of an adapter in pieces. -/
def adapterPhrases (config : Config) (target : Target) (package : String) (plan : DecodePlan) :
    ClassPhrases :=
  let name := adapterName config target.simpleName
  let debugLogs := target.flags.debugLogs
  let targetName := target.qualifiedName
  { heads :=
      [[Piece.own "JsonAdapter<", .given targetName, .own ">"]] ++
        (if debugLogs then
          [[Piece.own "Logger"],
            Phrase.inCall "Logger.getLogger(" [.literal (Naming.qualify package name)]]
        else []) ++
        -- The types of the fields, then those of the constructor's parameters.
        fieldTypePhrases ++ fieldTypePhrases ++
        [[Piece.own "Override"], [.given targetName], [.own "JsonReader"], [.own "IOException"]] ++
        [[Piece.own "Override"], [.own "void"], [.own "JsonWriter"], [.given targetName],
          [.own "IOException"]]
    bodies :=
      constructorPhrases name debugLogs ++ decoderPhrases targetName plan debugLogs ++
        [[Piece.own "moshi.nextAdapter(factory, type, annotations).toJson(writer, value);"]] }

theorem makeUp_adapterClass (config : Config) (target : Target) (package : String)
    (plan : DecodePlan) :
    (adapterPhrases config target package plan).MakeUp
      (adapterClass config target package plan) where
  heads := by
    unfold adapterPhrases adapterClass ClassDecl.headTexts
    cases target.flags.debugLogs <;>
      simp [MethodDecl.headTexts, adapterConstructor, decoder, encoder, finalField, loggerField,
        fieldTypePhrases, annotationsPhrase, annotationsType, String.append_assoc]
  bodies := by
    have lines : (adapterClass config target package plan).bodyTexts =
        textsOf (constructorSteps (adapterName config target.simpleName) target.flags.debugLogs ++
          decoderSteps target.qualifiedName plan target.flags.debugLogs ++ encoderSteps) := by
      simp [ClassDecl.bodyTexts, adapterClass, adapterConstructor, decoder, encoder,
        Block.texts_ofSteps, textsOf_append]
    have encodes : WrittenAs encoderSteps
        [[.own "moshi.nextAdapter(factory, type, annotations).toJson(writer, value);"]] := rfl
    rw [lines]
    exact ((writtenAs_constructorSteps _ _).append (writtenAs_decoderSteps _ _ _)).append encodes

/-- The lines that test for one type. -/
def dispatchPhrases (package : String) (ref : AdapterRef) : List Phrase :=
  flowPhrases [.own "if (type == ", .given ref.target, .own ".class)"]
    [Phrase.statement [.own "return new ", .given (localReference package ref.adapter),
      .own "(moshi, this, type, annotations)"]]

theorem writtenAs_dispatchSteps (package : String) (ref : AdapterRef) :
    WrittenAs (dispatchSteps package ref) (dispatchPhrases package ref) := by
  refine .flow (by simp) ?_ (.statement ?_)
  · simp [String.append_assoc]
  · simp [String.append_assoc]

/-- The code of a factory in pieces. -/
def factoryPhrases (package : String) (adapters : List AdapterRef) : ClassPhrases where
  heads :=
    [[.own "JsonAdapter.Factory"], [.own "Override"], [.own "JsonAdapter<?>"], [.own "Type"],
      annotationsPhrase, [.own "Moshi"]]
  bodies := adapters.flatMap (dispatchPhrases package) ++ [[Piece.own "return null;"]]

theorem makeUp_factoryClass (config : Config) (name package : String)
    (adapters : List AdapterRef) :
    (factoryPhrases package adapters).MakeUp (factoryClass config name package adapters) where
  heads := rfl
  bodies := by
    have lines : (factoryClass config name package adapters).bodyTexts =
        textsOf (createSteps package adapters) := by
      simp [ClassDecl.bodyTexts, factoryClass, createMethod, Block.texts_ofSteps]
    have ends : WrittenAs [.statement "return null"] [[.own "return null;"]] := rfl
    rw [lines]
    exact (WrittenAs.flatMap adapters (writtenAs_dispatchSteps package)).append ends

end Emission

end AdapterGen
