import AdapterGen.Proofs.Code.Nesting
import AdapterGen.Proofs.Decoder.Program
import AdapterGen.Proofs.Emission.Accepted

/-!
# Logging adds log statements alone

An adapter that logs is the adapter that does not, with log statements between its lines, a logger
among its fields and two more imports. Whether a target is accepted does not depend on logging.

## Implementation notes

Only lines that begin with a declared type or with a local could be taken for a log statement. They
have a blank before any parenthesis.
-/

namespace AdapterGen

open Code

/-! ### Without log statements -/

namespace Code

/-- Whether a text begins like a log statement. -/
def IsLogText (text : String) : Prop := "LOGGER.log(".toList <+: text.toList

instance (text : String) : Decidable (IsLogText text) :=
  inferInstanceAs (Decidable (_ <+: _))

/-- A block without its log statements. -/
def Block.withoutLogs (block : Block) : Block :=
  { block with lines := block.lines.filter fun line => ¬IsLogText line.text }

/-- A method without the log statements of its body. -/
def MethodDecl.withoutLogs (method : MethodDecl) : MethodDecl :=
  { method with body := method.body.withoutLogs }

/-- A class without log statements, logger, and the imports for them. -/
def ClassDecl.withoutLogs (decl : ClassDecl) : ClassDecl :=
  { decl with
    fields := decl.fields.filter (·.name ≠ "LOGGER")
    methods := decl.methods.map (·.withoutLogs)
    imports := decl.imports.filter (· ∉ [Emission.levelClass, Emission.loggerClass]) }

theorem not_isLogText_of_head {text : String} (other : text.toList.head? ≠ some 'L') :
    ¬IsLogText text := by
  rintro ⟨rest, shape⟩
  rw [← shape] at other
  exact other rfl

theorem not_isLogText_append {front back : String} (other : front.toList.head? ≠ some 'L')
    (alsoOther : back.toList.head? ≠ some 'L') : ¬IsLogText (front ++ back) := by
  apply not_isLogText_of_head
  rw [String.toList_append, List.head?_append]
  cases first : front.toList.head? with
  | none => exact alsoOther
  | some c =>
      rw [first] at other
      exact other

/-- A log statement has no blank before its parenthesis. -/
theorem not_isLogText_of_blank {front rest : String} (noCall : '(' ∉ front.toList)
    (blank : rest.toList.head? = some ' ') : ¬IsLogText (front ++ rest) := by
  intro begins
  obtain ⟨behind, shape⟩ := List.head?_eq_some_iff.mp blank
  have whole : (front ++ rest).toList = front.toList ++ [' '] ++ behind := by simp [shape]
  have alsoBegins : front.toList ++ [' '] <+: (front ++ rest).toList := ⟨behind, whole.symm⟩
  rcases List.prefix_or_prefix_of_prefix begins alsoBegins with within | around
  · have found : '(' ∈ front.toList ++ [' '] := within.subset (by decide)
    exact noCall (by simpa using found)
  · have found : ' ' ∈ "LOGGER.log(".toList := around.subset (by simp)
    exact absurd found (by decide)

/-- Steps with others that write the same lines without the log statements. -/
structure StripsTo (steps plain : List Step) : Prop where
  depth : ∀ depth, depthAfter depth steps = depthAfter depth plain
  lines : ∀ depth, (markedOf depth steps).filter (fun marked => ¬IsLogText marked.line.text) =
    markedOf depth plain

/-- Steps that write no log statement. -/
abbrev LogFree (steps : List Step) : Prop := StripsTo steps steps

namespace StripsTo

variable {steps plain more morePlain : List Step}

theorem nil : LogFree [] := ⟨fun _ => rfl, fun _ => rfl⟩

theorem append (front : StripsTo steps plain) (back : StripsTo more morePlain) :
    StripsTo (steps ++ more) (plain ++ morePlain) where
  depth depth := by
    rw [depthAfter_append, depthAfter_append, front.depth, back.depth]
  lines depth := by
    rw [markedOf_append, markedOf_append, List.filter_append, front.lines, back.lines, front.depth]

theorem flatMap {α : Type} {parts : List α} {write writePlain : α → List Step}
    (each : ∀ part ∈ parts, StripsTo (write part) (writePlain part)) :
    StripsTo (parts.flatMap write) (parts.flatMap writePlain) := by
  induction parts with
  | nil => exact nil
  | cons part parts ih =>
      obtain ⟨first, later⟩ := List.forall_mem_cons.mp each
      exact first.append (ih later)

theorem single {step : Step}
    (free : ∀ depth, ∀ marked ∈ step.marked depth, ¬IsLogText marked.line.text) :
    LogFree [step] where
  depth _ := rfl
  lines depth := by
    rw [markedOf, markedOf, List.append_nil]
    exact List.filter_eq_self.mpr fun marked found => decide_eq_true (free depth marked found)

theorem line {text : String} (other : text.toList.head? ≠ some 'L') : LogFree [.line text] :=
  single fun _ => List.forall_mem_singleton.mpr (not_isLogText_of_head other)

theorem statement {text : String} (other : text.toList.head? ≠ some 'L') :
    LogFree [.statement text] :=
  single fun _ => List.forall_mem_singleton.mpr (not_isLogText_append other (by decide))

/-- A statement that begins with a name or a type, and goes on behind a blank. -/
theorem statement_of_blank {front rest : String} (noCall : '(' ∉ front.toList)
    (blank : rest.toList.head? = some ' ') : LogFree [.statement (front ++ rest)] := by
  have stillBlank : (rest ++ ";").toList.head? = some ' ' := by
    rw [String.toList_append, List.head?_append, blank]
    rfl
  have free := not_isLogText_of_blank noCall stillBlank
  rw [← String.append_assoc] at free
  exact single fun _ => List.forall_mem_singleton.mpr free

theorem flow {header : String} (other : header.toList.head? ≠ some 'L')
    (body : StripsTo steps plain) : StripsTo (Code.flow header steps) (Code.flow header plain) := by
  have opens : ¬IsLogText (Block.openingText header) := by
    unfold Block.openingText
    split
    · decide
    · exact not_isLogText_append other (by decide)
  have closes : ¬IsLogText "\x7d" := by decide
  have opening : LogFree [.beginFlow header] := single fun _ => List.forall_mem_singleton.mpr opens
  have closing : LogFree [.endFlow] := single fun _ => List.forall_mem_singleton.mpr closes
  exact (opening.append body).append closing

theorem indented (body : StripsTo steps plain) :
    StripsTo (Code.indented steps) (Code.indented plain) := by
  have deeper : LogFree [.indent] := single fun _ _ found => nomatch found
  have back : LogFree [.unindent] := single fun _ _ found => nomatch found
  exact (deeper.append body).append back

theorem withoutLogs_ofSteps (strips : StripsTo steps plain) :
    (Block.ofSteps steps).withoutLogs = Block.ofSteps plain := by
  rw [Block.ofSteps, Block.ofSteps, Block.applyAll_eq, Block.applyAll_eq, ← strips.lines,
    ← strips.depth, Block.withoutLogs]
  simp only [List.nil_append, List.filter_map]
  rfl

end StripsTo

end Code

/-- A target with logging on or off. -/
def Target.withLogging (target : Target) (debugLogs : Bool) : Target :=
  { target with flags := { target.flags with debugLogs := debugLogs } }

namespace Emission

open TypeDescriptor (WellFormed wellFormed_of_parse)

/-! ### Lines that begin with a type or a local -/

theorem not_mem_renderRest {args : List TypeDescriptor}
    (each : ∀ arg ∈ args, '(' ∉ arg.render.toList) :
    '(' ∉ (TypeDescriptor.renderRest args).toList := by
  induction args with
  | nil => simp [TypeDescriptor.renderRest]
  | cons arg args ih =>
      obtain ⟨first, later⟩ := List.forall_mem_cons.mp each
      simp [TypeDescriptor.renderRest, first, ih later]

/-- The text of a type has no parenthesis. -/
theorem not_mem_render {isArgument : Bool} {type : TypeDescriptor}
    (wellFormed : WellFormed isArgument type) : '(' ∉ type.render.toList := by
  induction wellFormed with
  | primitive kind | boxed kind => cases kind <;> decide
  | string => decide
  | @reference _ name args valid _ ih =>
      have noCall : '(' ∉ name.toList := fun found => absurd (valid.nameChars _ found) (by decide)
      cases args with
      | nil => exact noCall
      | cons arg args =>
          obtain ⟨first, later⟩ := List.forall_mem_cons.mp ih
          simp [TypeDescriptor.render, noCall, first, not_mem_renderRest later]
  | wildcard _ ih =>
      unfold TypeDescriptor.render
      split
      · decide
      · simpa using ih
  | array _ ih => simpa [TypeDescriptor.render] using ih

/-- The local of a field whose name is one of the language has no parenthesis. -/
theorem not_mem_localOf {targetName : String} {fields : List Field} {field : Field}
    (found : field ∈ fields) (isIdentifier : Java.IsIdentifier field.name) :
    '(' ∉ (localOf (localNames targetName fields) field).toList := by
  obtain ⟨⟨n, same⟩, -⟩ := localOf_spec targetName found
  rw [same]
  intro isIn
  have word := (isIdentifier_withUnderscores isIdentifier n).wordChars _ isIn
  exact absurd word (by decide)

/-! ### The methods of an adapter -/

/-- Log statements are left out. -/
theorem stripsTo_whenLogging (args : String) :
    StripsTo (whenLogging true [logStep args]) (whenLogging false [logStep args]) where
  depth _ := rfl
  lines depth := by
    have isLog : IsLogText ("LOGGER.log(Level.FINE, " ++ args ++ ")" ++ ";") := by
      refine ⟨("Level.FINE, " ++ args ++ ")" ++ ";").toList, ?_⟩
      simp
    have logged : markedOf depth (whenLogging true [logStep args]) =
        [⟨.plain, depth, "LOGGER.log(Level.FINE, " ++ args ++ ")" ++ ";"⟩] := rfl
    rw [logged, List.filter_cons_of_neg (by simpa using isLog)]
    rfl

theorem stripsTo_readSteps (plan : FieldPlan) {x : String} (noCall : '(' ∉ x.toList) :
    StripsTo (readSteps plan x true) (readSteps plan x false) := by
  have assign (value : String) : LogFree [.statement (x ++ " = " ++ value)] := by
    rw [String.append_assoc]
    exact .statement_of_blank noCall (by simp)
  have handle (type expr : String) : LogFree
      [.statement ("final JsonAdapter<" ++ type ++ "> _adapter = moshi.adapter(" ++ expr ++ ")")] :=
    .statement (by simp)
  have read : LogFree [.statement (x ++ " = _adapter.fromJson(reader)")] :=
    .statement_of_blank noCall (by simp)
  unfold readSteps
  split
  · exact assign _
  · exact assign _
  · exact .flow (by simp) ((((handle _ _).append (stripsTo_whenLogging _)).append read).append
      (stripsTo_whenLogging _))

theorem stripsTo_armSteps {locals : List (String × String)} {plan : FieldPlan}
    (noCall : '(' ∉ (localOf locals plan.field).toList) :
    StripsTo (armSteps locals true plan) (armSteps locals false plan) := by
  have label (key : String) : LogFree [.line ("case " ++ key ++ ":")] := .line (by simp)
  have leave : LogFree [.statement "break"] := .statement (by simp)
  exact (label _).append ((stripsTo_readSteps plan noCall).append leave).indented

theorem logFree_declareStep (locals : List (String × String)) {field : Field}
    (wellFormed : WellFormed false field.type) : LogFree [declareStep locals field] := by
  have noCall := not_mem_render (wellFormed_toBoxed wellFormed)
  rw [declareStep, String.append_assoc, String.append_assoc]
  exact .statement_of_blank noCall (by simp)

/-- A decoder that logs is the one that does not, with log statements between its lines. -/
theorem stripsTo_decoderSteps (targetName : String) {plan : DecodePlan}
    (names : ∀ p ∈ plan.fields, Java.IsIdentifier p.field.name)
    (types : ∀ p ∈ plan.fields, WellFormed false p.field.type) :
    StripsTo (decoderSteps targetName plan true) (decoderSteps targetName plan false) := by
  have noCall : ∀ p ∈ plan.fields,
      '(' ∉ (localOf (localNames targetName (plan.fields.map (·.field))) p.field).toList :=
    fun p isPlan => not_mem_localOf (List.mem_map_of_mem isPlan) (names p isPlan)
  unfold decoderSteps
  dsimp only
  generalize localNames targetName (plan.fields.map (·.field)) = locals at noCall ⊢
  have declarations : LogFree ((plan.fields.map (·.field)).map (declareStep locals)) := by
    rw [List.map_map, List.map_eq_flatMap]
    exact .flatMap fun p isPlan => logFree_declareStep locals (types p isPlan)
  have arms : StripsTo (plan.fields.flatMap (armSteps locals true))
      (plan.fields.flatMap (armSteps locals false)) :=
    .flatMap fun p isPlan => stripsTo_armSteps (noCall p isPlan)
  have skip : LogFree (.line "default:" :: Code.indented [.statement "reader.skipValue()"]) :=
    .append (.line (by simp)) (StripsTo.statement (by simp)).indented
  have switch : StripsTo (Code.flow "switch (_name)" _) (Code.flow "switch (_name)" _) :=
    .flow (by simp) (arms.append skip)
  have name : LogFree [.statement "final String _name = reader.nextName()"] :=
    .statement (by simp)
  have loop : StripsTo (Code.flow "while (reader.hasNext())" _)
      (Code.flow "while (reader.hasNext())" _) :=
    .flow (by simp) ((name.append
      (stripsTo_whenLogging (stringLiteral "\tGot name: \x7b0\x7d" ++ ", _name"))).append switch)
  have checks : LogFree (plan.requiredFields.flatMap (requireSteps locals)) :=
    .flatMap fun field _ => .flow (by simp) (.statement (by simp))
  exact ((((((stripsTo_whenLogging _).append declarations).append (.statement (by simp))).append
    loop).append (.statement (by simp))).append checks).append (.statement (by simp))

theorem stripsTo_constructorSteps (name : String) :
    StripsTo (constructorSteps name true) (constructorSteps name false) := by
  have assigns : LogFree
      [.statement "this.moshi = moshi", .statement "this.factory = factory",
        .statement "this.type = type", .statement "this.annotations = annotations"] :=
    .append (.statement (by simp)) (.append (.statement (by simp))
      (.append (.statement (by simp)) (.statement (by simp))))
  exact (stripsTo_whenLogging _).append assigns

/-! ### The classes of a target -/

/-- A unit without log statements; only adapters have any. -/
def EmittedUnit.withoutLogs (unit : EmittedUnit) : EmittedUnit :=
  match unit.kind with
  | .adapter => { unit with file := { unit.file with decl := unit.file.decl.withoutLogs } }
  | .factory | .aggregateFactory => unit

/-- What is emitted for a target, with its adapter without log statements. -/
def EmittedTarget.withoutLogs (emitted : EmittedTarget) : EmittedTarget :=
  { emitted with units := emitted.units.map (·.withoutLogs) }

theorem ascending_adapterImports (usesTypes : Bool) :
    (Text.ascending (adapterImports usesTypes true)).filter (· ∉ [levelClass, loggerClass]) =
      Text.ascending (adapterImports usesTypes false) := by
  cases usesTypes <;> decide_cbv

/-- An adapter that logs is the one that does not, and what is for logging. -/
theorem withoutLogs_adapterClass (config : Config) (target : Target) (package : String)
    {plan : DecodePlan} (names : ∀ p ∈ plan.fields, Java.IsIdentifier p.field.name)
    (types : ∀ p ∈ plan.fields, WellFormed false p.field.type) :
    (adapterClass config (target.withLogging true) package plan).withoutLogs =
      adapterClass config (target.withLogging false) package plan := by
  have constructor (name : String) :
      (adapterConstructor name true).withoutLogs = adapterConstructor name false :=
    congrArg (fun body => { adapterConstructor name false with body := body })
      (stripsTo_constructorSteps name).withoutLogs_ofSteps
  have decoder : (decoder target.qualifiedName plan true).withoutLogs =
      decoder target.qualifiedName plan false :=
    congrArg (fun body => { decoder target.qualifiedName plan false with body := body })
      (stripsTo_decoderSteps target.qualifiedName names types).withoutLogs_ofSteps
  have encoder : (encoder target.qualifiedName).withoutLogs = encoder target.qualifiedName := by
    have free : LogFree encoderSteps := .statement (by simp)
    exact congrArg (fun body => { encoder target.qualifiedName with body := body })
      free.withoutLogs_ofSteps
  have imports := ascending_adapterImports plan.usesTypesHelper
  simp only [ClassDecl.withoutLogs, adapterClass, Target.withLogging, Target.simpleName,
    List.map_cons, List.map_nil, constructor, decoder, encoder, imports]
  rfl

theorem withoutLogs_unitsOf (config : Config) (target : Target) (package : String)
    {plan : DecodePlan} (names : ∀ p ∈ plan.fields, Java.IsIdentifier p.field.name)
    (types : ∀ p ∈ plan.fields, WellFormed false p.field.type) :
    (unitsOf config (target.withLogging true) package plan).map (·.withoutLogs) =
      unitsOf config (target.withLogging false) package plan := by
  have adapter := withoutLogs_adapterClass config target package names types
  have unit : EmittedUnit.withoutLogs
      ⟨.adapter, package, adapterClass config (target.withLogging true) package plan⟩ =
      ⟨.adapter, package, adapterClass config (target.withLogging false) package plan⟩ :=
    congrArg (fun decl => (⟨.adapter, package, decl⟩ : EmittedUnit)) adapter
  unfold unitsOf
  by_cases asked : target.flags.generateFactory = true
  · have askedOf (debugLogs : Bool) :
        (target.withLogging debugLogs).flags.generateFactory = true := asked
    rw [if_pos (askedOf true), if_pos (askedOf false), List.map_cons, unit]
    rfl
  · have notAsked (debugLogs : Bool) :
        ¬(target.withLogging debugLogs).flags.generateFactory = true := asked
    rw [if_neg (notAsked true), if_neg (notAsked false), List.map_cons, unit]
    rfl

/-- The fields of a plan have names of the language and well-formed types if the parameters that
they are made from have such names, and parsed types. -/
theorem names_and_types_of_build {config : Config} {target : Target} {fields : List Field}
    {plan : DecodePlan}
    (declared : ∀ parameters ∈ target.constructors, ∀ parameter ∈ parameters,
      Java.IsIdentifier parameter.name ∧
        ∃ input, TypeDescriptor.parse input = .ok parameter.type)
    (isFields : target.fields config = .ok fields)
    (planned : DecodePlan.build target.qualifiedName fields = .ok plan) :
    ∀ p ∈ plan.fields, Java.IsIdentifier p.field.name ∧ WellFormed false p.field.type := by
  obtain ⟨parameters, single, -, rfl⟩ := Target.fields_eq_ok_iff.mp isFields
  obtain ⟨-, plans⟩ := DecodePlan.build_eq_ok_iff.mp planned
  intro p isPlan
  obtain ⟨parameter, isParameter, same⟩ := plans.exists_parameter isPlan
  have isDeclared : parameters ∈ target.constructors := single ▸ List.mem_singleton_self _
  obtain ⟨named, input, read⟩ := declared parameters isDeclared parameter isParameter
  exact same ▸ ⟨named, wellFormed_of_parse read⟩

/-- A target whose parameters have names of the language and parsed types is accepted with logging
if it is without, and refused for the same reason. The two plans are the same, and so are the two
factories; the adapter that does not log is the other one without its log statements, its logger
and the imports for them. -/
theorem emitTarget_without_logging (config : Config) (target : Target)
    (declared : ∀ parameters ∈ target.constructors, ∀ parameter ∈ parameters,
      Java.IsIdentifier parameter.name ∧
        ∃ input, TypeDescriptor.parse input = .ok parameter.type) :
    emitTarget config (target.withLogging false) =
      (emitTarget config (target.withLogging true)).map EmittedTarget.withoutLogs := by
  have steps (debugLogs : Bool) : emitTarget config (target.withLogging debugLogs) = (do
      target.checkVisibility
      let package ← target.requirePackage
      let fields ← target.fields config
      let plan ← DecodePlan.build target.qualifiedName fields
      return ⟨plan, unitsOf config (target.withLogging debugLogs) package plan⟩) := rfl
  rw [steps, steps]
  refine bind_eq_map_bind fun _ _ => bind_eq_map_bind fun package _ =>
    bind_eq_map_bind fun fields isFields => bind_eq_map_bind fun plan planned => ?_
  have sound := names_and_types_of_build declared isFields planned
  have units := withoutLogs_unitsOf config target package
    (fun p isPlan => (sound p isPlan).1) fun p isPlan => (sound p isPlan).2
  exact congrArg (fun units => Except.ok (⟨plan, units⟩ : EmittedTarget)) units.symm

/-- A parameter called like the logger, and one that is read by another adapter. -/
theorem emitTarget_without_logging_order :
    let order : Target :=
      { qualifiedName := "demo.Order", package := some "demo", flags := { generateFactory := true }
        constructors :=
          [[{ name := "LOGGER", type := .string },
            { name := "lines", type := .reference "java.util.List" [.string] }]] }
    ∃ plain logging, emitTarget {} (order.withLogging false) = .ok plain ∧
      emitTarget {} (order.withLogging true) = .ok logging ∧ plain = logging.withoutLogs := by
  intro order
  have logging : emitTarget {} (order.withLogging true) = .ok _ := rfl
  have listName : TypeDescriptor.IsClassName "java.util.List" :=
    ⟨TypeDescriptor.isTypeName_iff.mp (by decide), List.all_eq_true.mp rfl,
      TypeDescriptor.isReference_iff.mpr (by decide)⟩
  have list : WellFormed false (.reference "java.util.List" [.string]) :=
    .reference listName (List.forall_mem_singleton.mpr .string)
  have plain := emitTarget_without_logging {} order <| List.forall_mem_singleton.mpr <|
    List.forall_mem_cons.mpr ⟨⟨by decide, _, TypeDescriptor.parse_render .string⟩,
      List.forall_mem_singleton.mpr ⟨by decide, _, TypeDescriptor.parse_render list⟩⟩
  rw [logging] at plain
  exact ⟨_, _, plain, logging, rfl⟩

end Emission

end AdapterGen
