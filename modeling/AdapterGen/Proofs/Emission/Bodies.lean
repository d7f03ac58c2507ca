import AdapterGen.Emission.Adapter
import AdapterGen.Emission.Factory
import AdapterGen.Proofs.Code.Flows

/-!
# Bodies of emitted methods

The bodies of an adapter's methods and of a factory's are written by well-nested steps, and what a
line of them does to flows is seen from its text.

## Implementation notes

Names and types of a target may be any texts, braces included. A line with such a text ends in a
semicolon, or in the brace of the flow that it opens.
-/

namespace AdapterGen

open Code

namespace Emission

/-! ### The methods of an adapter -/

/-- Steps that are well nested and whose lines are read by their texts. -/
structure Tidy (steps : List Step) : Prop where
  nested : WellNested steps
  legible : Legible steps

namespace Tidy

variable {steps more : List Step}

theorem append (front : Tidy steps) (back : Tidy more) : Tidy (steps ++ more) :=
  ⟨front.nested.append back.nested, front.legible.append back.legible⟩

theorem flatMap {α : Type} (parts : List α) {write : α → List Step}
    (each : ∀ part, Tidy (write part)) : Tidy (parts.flatMap write) :=
  ⟨.flatMap fun part _ => (each part).nested, .flatMap fun part _ => (each part).legible⟩

theorem map {α : Type} (parts : List α) {write : α → Step} (each : ∀ part, Tidy [write part]) :
    Tidy (parts.map write) := by
  rw [List.map_eq_flatMap]
  exact flatMap parts each

theorem statement (text : String) : Tidy [.statement text] := ⟨.statement text, .statement text⟩

theorem label (front : String) : Tidy [.line (front ++ ":")] := ⟨.line _, .label front⟩

theorem indented (body : Tidy steps) : Tidy (Code.indented steps) :=
  ⟨body.nested.indented, body.legible.indented⟩

theorem flow {header : String} (noBrace : header.toList.head? ≠ some '}') (body : Tidy steps) :
    Tidy (Code.flow header steps) :=
  ⟨body.nested.flow header, .flow noBrace body.legible⟩

theorem whenLogging (debugLogs : Bool) (body : Tidy steps) :
    Tidy (Emission.whenLogging debugLogs steps) := by
  cases debugLogs with
  | false => exact ⟨.nil, .nil⟩
  | true => exact body

theorem nestedBody (tidy : Tidy steps) : NestedBody (Block.ofSteps steps) steps :=
  nestedBody_ofSteps tidy.nested tidy.legible

end Tidy

theorem tidy_readSteps (plan : FieldPlan) (x : String) (debugLogs : Bool) :
    Tidy (readSteps plan x debugLogs) := by
  unfold readSteps
  split
  · exact .statement _
  · exact .statement _
  · have log (args : String) : Tidy (whenLogging debugLogs [logStep args]) :=
      .whenLogging debugLogs (.statement _)
    exact .flow (by decide) ((((Tidy.statement _).append (log _)).append (.statement _)).append
      (log _))

theorem tidy_armSteps (locals : List (String × String)) (debugLogs : Bool) (plan : FieldPlan) :
    Tidy (armSteps locals debugLogs plan) := by
  have body := (tidy_readSteps plan (localOf locals plan.field) debugLogs).append
    (.statement "break")
  exact (Tidy.label ("case " ++ stringLiteral plan.field.jsonName)).append body.indented

theorem tidy_requireSteps (locals : List (String × String)) (field : Field) :
    Tidy (requireSteps locals field) :=
  .flow (by simp) (.statement _)

theorem tidy_decoderSteps (targetName : String) (plan : DecodePlan) (debugLogs : Bool) :
    Tidy (decoderSteps targetName plan debugLogs) := by
  have log (args : String) : Tidy (whenLogging debugLogs [logStep args]) :=
    .whenLogging debugLogs (.statement _)
  have arms (locals : List (String × String)) :
      Tidy (plan.fields.flatMap (armSteps locals debugLogs) ++
        .line "default:" :: Code.indented [.statement "reader.skipValue()"]) :=
    (Tidy.flatMap plan.fields (tidy_armSteps locals debugLogs)).append
      ((Tidy.label "default").append (Tidy.statement _).indented)
  have loop (locals : List (String × String)) : Tidy (Code.flow "while (reader.hasNext())" _) :=
    .flow (by decide) (((Tidy.statement "final String _name = reader.nextName()").append
      (log (stringLiteral "\tGot name: \x7b0\x7d" ++ ", _name"))).append
        (Tidy.flow (by decide) (arms locals) : Tidy (Code.flow "switch (_name)" _)))
  exact ((((((log _).append (.map _ fun field => .statement _)).append (.statement _)).append
    (loop _)).append (.statement _)).append (.flatMap _ (tidy_requireSteps _))).append
    (.statement _)

theorem tidy_constructorSteps (name : String) (debugLogs : Bool) :
    Tidy (constructorSteps name debugLogs) :=
  (Tidy.whenLogging debugLogs (.statement _)).append
    ((Tidy.statement _).append ((Tidy.statement _).append
      ((Tidy.statement _).append (.statement _))))

theorem tidy_encoderSteps : Tidy encoderSteps := .statement _

/-- The constructor, the decoder and the encoder of an adapter are written by their own steps. -/
theorem nestedBodies_adapterClass (config : Config) (target : Target) (package : String)
    (plan : DecodePlan) :
    List.Forall₂ (fun method steps => NestedBody method.body steps)
      (adapterClass config target package plan).methods
      [constructorSteps (adapterName config target.simpleName) target.flags.debugLogs,
        decoderSteps target.qualifiedName plan target.flags.debugLogs, encoderSteps] :=
  .cons (tidy_constructorSteps _ _).nestedBody
    (.cons (tidy_decoderSteps _ _ _).nestedBody (.cons tidy_encoderSteps.nestedBody .nil))

/-! ### The method of a factory -/

theorem tidy_createSteps (package : String) (adapters : List AdapterRef) :
    Tidy (createSteps package adapters) :=
  (Tidy.flatMap adapters fun ref => .flow (by simp) (.statement _)).append (.statement _)

theorem nestedBodies_factoryClass (config : Config) (name package : String)
    (adapters : List AdapterRef) :
    List.Forall₂ (fun method steps => NestedBody method.body steps)
      (factoryClass config name package adapters).methods [createSteps package adapters] :=
  .cons (tidy_createSteps package adapters).nestedBody .nil

/-! ### Nesting of all code -/

/-- Well-nested steps find every level that they take away and leave the depth of a block as it was.
In the lines that they write, each flow is closed at the depth of the line that opens it, and the
lines of the flow are deeper. The steps of an adapter's constructor, decoder and encoder and those
of a factory's method are well nested, and their bodies, at depth zero in the end, open and close
equally many flows by the texts of their lines. -/
theorem code_nests :
    (∀ steps, WellNested steps → ∀ block : Block,
      FindLevels block.depth steps ∧
      (block.applyAll steps).depth = block.depth ∧
      (block.applyAll steps).lines = block.lines ++ (markedOf block.depth steps).map (·.line) ∧
      FlowsEnclosed (markedOf block.depth steps) ∧
      Balanced ((markedOf block.depth steps).map (·.mark))) ∧
    (∀ config target package plan,
      List.Forall₂ (fun method steps => NestedBody method.body steps)
        (adapterClass config target package plan).methods
        [constructorSteps (adapterName config target.simpleName) target.flags.debugLogs,
          decoderSteps target.qualifiedName plan target.flags.debugLogs, encoderSteps]) ∧
    ∀ config name package adapters,
      List.Forall₂ (fun method steps => NestedBody method.body steps)
        (factoryClass config name package adapters).methods [createSteps package adapters] := by
  refine ⟨fun steps nested block => ?_, nestedBodies_adapterClass, nestedBodies_factoryClass⟩
  have fits := nested.fits block.depth
  have written := Block.applyAll_eq block steps
  have depth : (block.applyAll steps).depth = block.depth := by
    rw [written]
    exact nested.depthAfter_eq block.depth
  exact ⟨nested.findLevels block.depth, depth, congrArg Block.lines written, fits.flowsEnclosed,
    fits.balanced⟩

theorem code_nests_branches :
    let steps : List Step :=
      [.beginFlow "if (a)", .splice [.beginFlow "", .statement "b()", .endFlow],
        .nextFlow "else", .indent, .line "c", .unindent, .endFlow]
    WellNested steps ∧ ((⟨[], 1⟩ : Block).applyAll steps).depth = 1 ∧
      FlowsEnclosed (markedOf 1 steps) ∧
      (markedOf 1 steps).map (·.line) =
        [⟨1, "if (a) \x7b"⟩, ⟨2, "\x7b"⟩, ⟨3, "b();"⟩, ⟨2, "\x7d"⟩, ⟨1, "\x7d else \x7b"⟩,
          ⟨3, "c"⟩, ⟨1, "\x7d"⟩] := by
  intro steps
  have inner : WellNested [.beginFlow "", .statement "b()", .endFlow] :=
    .flow "" (.statement "b()")
  have nested : WellNested steps :=
    .beginFlow (.splice inner (.nextFlow (.indent (.line (.unindent (.endFlow .nil))))))
  obtain ⟨-, depth, -, enclosed, -⟩ := code_nests.1 steps nested ⟨[], 1⟩
  exact ⟨nested, depth, enclosed, by decide⟩

end Emission

end AdapterGen
