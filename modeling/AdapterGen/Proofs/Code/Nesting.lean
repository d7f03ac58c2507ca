import AdapterGen.Code.Block

/-!
# Nested code

Steps are well nested when they close what they open, the last opened first. Such steps find a
level wherever they take one away and leave the depth as it was. Steps that find their levels write
the same lines below every base, further to the right.

## Implementation notes

Texts are arbitrary, so a line is known to open or to close a flow by the step that wrote it.
-/

namespace AdapterGen.Code

/-! ### Well-nested steps -/

/-- What steps open: a braced flow, or an indentation without braces. -/
inductive Bracket where
  | flow
  | indent
  deriving DecidableEq, Repr

/-- Steps with what is open before and behind them, the innermost first. What is closed is the
innermost, a flow goes on only while it is the innermost, and a spliced block closes all it
opens. -/
inductive Nests : List Bracket → List Step → List Bracket → Prop
  | nil {opened : List Bracket} : Nests opened [] opened
  | line {opened last : List Bracket} {text : String} {rest : List Step} :
      Nests opened rest last → Nests opened (.line text :: rest) last
  | statement {opened last : List Bracket} {text : String} {rest : List Step} :
      Nests opened rest last → Nests opened (.statement text :: rest) last
  | beginFlow {opened last : List Bracket} {header : String} {rest : List Step} :
      Nests (.flow :: opened) rest last → Nests opened (.beginFlow header :: rest) last
  | nextFlow {opened last : List Bracket} {header : String} {rest : List Step} :
      Nests (.flow :: opened) rest last →
        Nests (.flow :: opened) (.nextFlow header :: rest) last
  | endFlow {opened last : List Bracket} {rest : List Step} :
      Nests opened rest last → Nests (.flow :: opened) (.endFlow :: rest) last
  | indent {opened last : List Bracket} {rest : List Step} :
      Nests (.indent :: opened) rest last → Nests opened (.indent :: rest) last
  | unindent {opened last : List Bracket} {rest : List Step} :
      Nests opened rest last → Nests (.indent :: opened) (.unindent :: rest) last
  | splice {opened last : List Bracket} {inner rest : List Step} :
      Nests [] inner [] → Nests opened rest last → Nests opened (.splice inner :: rest) last

/-- Steps that close what they open, and nothing else. -/
def WellNested (steps : List Step) : Prop := Nests [] steps []

variable {opened middle last : List Bracket} {steps more : List Step}

theorem Nests.append (front : Nests opened steps middle) (back : Nests middle more last) :
    Nests opened (steps ++ more) last := by
  induction front with
  | nil => exact back
  | line _ ih => exact .line (ih back)
  | statement _ ih => exact .statement (ih back)
  | beginFlow _ ih => exact .beginFlow (ih back)
  | nextFlow _ ih => exact .nextFlow (ih back)
  | endFlow _ ih => exact .endFlow (ih back)
  | indent _ ih => exact .indent (ih back)
  | unindent _ ih => exact .unindent (ih back)
  | splice inner _ _ ih => exact .splice inner (ih back)

/-- What is open around steps does not matter to them. -/
theorem Nests.within (nests : Nests opened steps last) (around : List Bracket) :
    Nests (opened ++ around) steps (last ++ around) := by
  induction nests with
  | nil => exact .nil
  | line _ ih => exact .line ih
  | statement _ ih => exact .statement ih
  | beginFlow _ ih => exact .beginFlow ih
  | nextFlow _ ih => exact .nextFlow ih
  | endFlow _ ih => exact .endFlow ih
  | indent _ ih => exact .indent ih
  | unindent _ ih => exact .unindent ih
  | splice inner _ _ ih => exact .splice inner ih

namespace WellNested

theorem nil : WellNested [] := Nests.nil

theorem line (text : String) : WellNested [.line text] := Nests.line .nil

theorem statement (text : String) : WellNested [.statement text] := Nests.statement .nil

theorem append (front : WellNested steps) (back : WellNested more) : WellNested (steps ++ more) :=
  Nests.append front back

theorem flatMap {α : Type} {parts : List α} {write : α → List Step}
    (each : ∀ part ∈ parts, WellNested (write part)) : WellNested (parts.flatMap write) := by
  induction parts with
  | nil => exact nil
  | cons part parts ih =>
      obtain ⟨first, later⟩ := List.forall_mem_cons.mp each
      exact first.append (ih later)

theorem flow (header : String) (body : WellNested steps) : WellNested (Code.flow header steps) :=
  Nests.beginFlow ((Nests.within body [.flow]).append (.endFlow .nil))

theorem indented (body : WellNested steps) : WellNested (Code.indented steps) :=
  Nests.indent ((Nests.within body [.indent]).append (.unindent .nil))

end WellNested

/-! ### Depths -/

/-- The depth behind a step. -/
def Step.depthAfter (depth : Nat) : Step → Nat
  | .line _ | .statement _ | .splice _ => depth
  | .beginFlow _ | .indent => depth + 1
  | .nextFlow _ => depth - 1 + 1
  | .endFlow | .unindent => depth - 1

/-- The depth behind steps. -/
def depthAfter (depth : Nat) (steps : List Step) : Nat := steps.foldl Step.depthAfter depth

theorem depthAfter_cons (depth : Nat) (step : Step) (steps : List Step) :
    depthAfter depth (step :: steps) = depthAfter (step.depthAfter depth) steps := rfl

theorem depthAfter_append (depth : Nat) (steps more : List Step) :
    depthAfter depth (steps ++ more) = depthAfter (depthAfter depth steps) more :=
  List.foldl_append

/-- Each open bracket is one level. -/
theorem Nests.depthAfter_eq (nests : Nests opened steps last) (base : Nat) :
    depthAfter (base + opened.length) steps = base + last.length := by
  induction nests with
  | nil => rfl
  | line _ ih | statement _ ih | beginFlow _ ih | nextFlow _ ih => exact ih
  | endFlow _ ih | indent _ ih | unindent _ ih | splice _ _ _ ih => exact ih

mutual

/-- Whether a step that takes a level away finds one at a depth, also within a spliced block. -/
def Step.FindsLevel (depth : Nat) : Step → Prop
  | .line _ | .statement _ | .beginFlow _ | .indent => True
  | .nextFlow _ | .endFlow | .unindent => 0 < depth
  | .splice steps => FindLevels 0 steps

/-- Whether each of the steps that take a level away finds one, from a depth on. -/
def FindLevels (depth : Nat) : List Step → Prop
  | [] => True
  | step :: steps => step.FindsLevel depth ∧ FindLevels (step.depthAfter depth) steps

end

theorem Nests.findLevels (nests : Nests opened steps last) (base : Nat) :
    FindLevels (base + opened.length) steps := by
  induction nests generalizing base with
  | nil => trivial
  | line _ ih | statement _ ih | beginFlow _ ih | indent _ ih => exact ⟨trivial, ih base⟩
  | nextFlow _ ih | endFlow _ ih | unindent _ ih => exact ⟨Nat.succ_pos _, ih base⟩
  | splice _ _ within ih => exact ⟨within 0, ih base⟩

/-- Well-nested steps leave every depth as it was. -/
theorem WellNested.depthAfter_eq (nested : WellNested steps) (depth : Nat) :
    depthAfter depth steps = depth :=
  Nests.depthAfter_eq nested depth

/-- Well-nested steps find their levels at every depth, the lowest included. -/
theorem WellNested.findLevels (nested : WellNested steps) (depth : Nat) : FindLevels depth steps :=
  Nests.findLevels nested depth

/-! ### Lines and what they do -/

/-- What a line does to flows. -/
inductive Mark where
  | plain
  | opens
  | continues
  | closes
  deriving DecidableEq, Repr

/-- A line with what it does. -/
structure MarkedLine where
  mark : Mark
  line : Line
  deriving DecidableEq, Repr

/-- A line further to the right. -/
def MarkedLine.below (base : Nat) (marked : MarkedLine) : MarkedLine :=
  { marked with line := ⟨base + marked.line.depth, marked.line.text⟩ }

mutual

/-- The lines that a step writes at a depth. -/
def Step.marked (depth : Nat) : Step → List MarkedLine
  | .line text => [⟨.plain, depth, text⟩]
  | .statement text => [⟨.plain, depth, text ++ ";"⟩]
  | .beginFlow header => [⟨.opens, depth, Block.openingText header⟩]
  | .nextFlow header => [⟨.continues, depth - 1, "\x7d " ++ header ++ " \x7b"⟩]
  | .endFlow => [⟨.closes, depth - 1, "\x7d"⟩]
  | .indent | .unindent => []
  | .splice steps => (markedOf 0 steps).map (.below depth)

/-- The lines that steps write, from a depth on. -/
def markedOf (depth : Nat) : List Step → List MarkedLine
  | [] => []
  | step :: steps => step.marked depth ++ markedOf (step.depthAfter depth) steps

end

theorem markedOf_append (depth : Nat) (steps more : List Step) :
    markedOf depth (steps ++ more) =
      markedOf depth steps ++ markedOf (depthAfter depth steps) more := by
  induction steps generalizing depth with
  | nil => rfl
  | cons step steps ih =>
      rw [List.cons_append, markedOf, markedOf, ih, List.append_assoc, depthAfter_cons]

mutual

theorem Block.apply_eq (block : Block) : ∀ step : Step, block.apply step =
    ⟨block.lines ++ (step.marked block.depth).map (·.line), step.depthAfter block.depth⟩
  | .line _ | .statement _ | .beginFlow _ | .nextFlow _ | .endFlow => by
      simp [apply, addLine, Step.marked, Step.depthAfter]
  | .indent | .unindent => by simp [apply, Step.marked, Step.depthAfter]
  | .splice steps => by
      simp [apply, append, applyAll_eq {} steps, Step.marked, Step.depthAfter, MarkedLine.below,
        Function.comp_def]

/-- A block behind steps: their lines behind those before, at the depth behind the steps. -/
theorem Block.applyAll_eq (block : Block) : ∀ steps : List Step, block.applyAll steps =
    ⟨block.lines ++ (markedOf block.depth steps).map (·.line), depthAfter block.depth steps⟩
  | [] => by simp [applyAll, markedOf, depthAfter]
  | step :: steps => by
      rw [applyAll, applyAll_eq (block.apply step) steps, apply_eq block step, markedOf,
        depthAfter_cons, List.map_append, List.append_assoc]

end

section

variable {depth : Nat}

theorem Step.depthAfter_add {step : Step} (finds : step.FindsLevel depth) (base : Nat) :
    step.depthAfter (base + depth) = base + step.depthAfter depth := by
  cases step with
  | line | statement | beginFlow | indent | splice => rfl
  | nextFlow | endFlow | unindent =>
      have positive : 0 < depth := finds
      simp only [depthAfter]
      omega

theorem Step.marked_add {step : Step} (finds : step.FindsLevel depth) (base : Nat) :
    step.marked (base + depth) = (step.marked depth).map (.below base) := by
  cases step with
  | line | statement | beginFlow | indent | unindent => rfl
  | nextFlow | endFlow =>
      have positive : 0 < depth := finds
      simp [marked, MarkedLine.below, Nat.add_sub_assoc positive]
  | splice steps =>
      simp [marked, MarkedLine.below, Nat.add_assoc]

/-- Steps that find their levels write the same lines below every base, further to the right. -/
theorem markedOf_add (find : FindLevels depth steps) (base : Nat) :
    markedOf (base + depth) steps = (markedOf depth steps).map (.below base) := by
  induction steps generalizing depth with
  | nil => rfl
  | cons step steps ih =>
      obtain ⟨finds, others⟩ := find
      rw [markedOf, markedOf, List.map_append, step.marked_add finds, step.depthAfter_add finds,
        ih others]

end

end AdapterGen.Code
