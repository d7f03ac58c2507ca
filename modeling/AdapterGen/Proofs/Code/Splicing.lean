import AdapterGen.Proofs.Code.Nesting
import Mathlib.Logic.Function.Iterate

/-!
# Splicing and printing

A spliced block prints what it prints by itself, below the base and the depth at which it is
spliced in. Splicing is associative once the depth at which a block ends is made up for, and steps
one after another print their texts one after another.

## Implementation notes

The text of steps is defined on the steps, without lines. A spliced block moves its base and starts
at depth 0 again, because levels that it takes away are no levels of the block around it.
-/

namespace AdapterGen.Code

variable {indent : String} {base : Nat}

/-! ### Printing blocks -/

theorem renderLine_add (indent : String) (base depth : Nat) (line : Line) :
    Block.renderLine indent base ⟨depth + line.depth, line.text⟩ =
      Block.renderLine indent (base + depth) line := by
  simp only [Block.renderLine, Nat.add_assoc]

namespace Block

theorem render_lines_append (lines more : List Line) (depth last : Nat) :
    render ⟨lines ++ more, last⟩ indent base =
      render ⟨lines, depth⟩ indent base ++ render ⟨more, 0⟩ indent base := by
  simp only [render, List.map_append, Text.concat_append]

theorem render_addLine (block : Block) (text : String) (last : Nat) :
    render { block.addLine text with depth := last } indent base =
      block.render indent base ++ renderLine indent base ⟨block.depth, text⟩ := by
  calc
    render { block.addLine text with depth := last } indent base
        = block.render indent base ++ render ⟨[⟨block.depth, text⟩], 0⟩ indent base :=
      render_lines_append block.lines _ block.depth last
    _ = block.render indent base ++ renderLine indent base ⟨block.depth, text⟩ := by
      simp [render, Text.concat]

/-- The lines of a spliced block are printed below the depth at which it is spliced in. -/
theorem render_append (block other : Block) (indent : String) (base : Nat) :
    (block.append other).render indent base =
      block.render indent base ++ other.render indent (base + block.depth) := by
  have moved : render ⟨other.lines.map fun l => ⟨block.depth + l.depth, l.text⟩, 0⟩ indent base =
      other.render indent (base + block.depth) := by
    simp only [render, List.map_map, Function.comp_def, renderLine_add]
  rw [← moved]
  exact render_lines_append block.lines _ block.depth block.depth

theorem append_append (a b c : Block) :
    a.append (b.append c) =
      { append { a.append b with depth := a.depth + b.depth } c with depth := a.depth } := by
  simp [append, Function.comp_def, Nat.add_assoc]

/-- Splicing piece by piece puts the last block where the first ends, and not where the one between
them does. -/
theorem append_assoc_iff (a b c : Block) :
    a.append (b.append c) = (a.append b).append c ↔ b.depth = 0 ∨ c.lines = [] := by
  rw [append_append]
  simp only [append, Block.mk.injEq, List.append_cancel_left_eq, and_true, List.map_inj_left,
    Line.mk.injEq]
  constructor
  · intro same
    refine or_iff_not_imp_right.mpr fun filled => ?_
    obtain ⟨line, more, shape⟩ := List.exists_cons_of_ne_nil filled
    have depths := same line (by simp [shape])
    omega
  · rintro (closed | empty)
    · simp [closed]
    · simp [empty]

end Block

/-! ### Steps further to the right -/

/-- Steps written some levels deeper: their block, from that depth on, ends as many levels higher. -/
theorem Block.applyAll_indented (block : Block) (steps : List Step) (levels : Nat) :
    block.applyAll (indented^[levels] steps) =
      let inner := applyAll { block with depth := block.depth + levels } steps
      { inner with depth := inner.depth - levels } := by
  induction levels generalizing block with
  | zero => rfl
  | succ levels ih =>
      have deeper : block.depth + (levels + 1) = block.depth + 1 + levels := by omega
      rw [Function.iterate_succ_apply', indented, List.cons_append, applyAll, applyAll_append, ih,
        deeper]
      simp [apply, applyAll, Nat.sub_sub]

theorem Block.apply_splice_append (block : Block) (steps more : List Step) :
    block.apply (.splice (steps ++ [.splice more])) =
      block.append ((ofSteps steps).append (ofSteps more)) := by
  rw [apply, applyAll_append]
  rfl

/-- A block spliced into a block that is spliced in stands as many levels deeper as the one between
them ends. -/
theorem Block.apply_splice_splice (block : Block) (steps more : List Step) :
    block.apply (.splice (steps ++ [.splice more])) =
      block.applyAll (.splice steps :: indented^[(ofSteps steps).depth] [.splice more]) := by
  rw [apply_splice_append, append_append, applyAll, applyAll_indented]
  simp [apply, applyAll, append, ofSteps]

/-! ### The text of steps -/

mutual

/-- The text that a step prints at a depth below a base. -/
def Step.text (indent : String) (base depth : Nat) : Step → String
  | .line text => Block.renderLine indent base ⟨depth, text⟩
  | .statement text => Block.renderLine indent base ⟨depth, text ++ ";"⟩
  | .beginFlow header => Block.renderLine indent base ⟨depth, Block.openingText header⟩
  | .nextFlow header => Block.renderLine indent base ⟨depth - 1, "\x7d " ++ header ++ " \x7b"⟩
  | .endFlow => Block.renderLine indent base ⟨depth - 1, "\x7d"⟩
  | .indent | .unindent => ""
  | .splice steps => textOf indent (base + depth) 0 steps

/-- The text that steps print from a depth on, below a base. -/
def textOf (indent : String) (base depth : Nat) : List Step → String
  | [] => ""
  | step :: steps => step.text indent base depth ++ textOf indent base (step.depthAfter depth) steps

end

theorem textOf_append (indent : String) (base depth : Nat) (steps more : List Step) :
    textOf indent base depth (steps ++ more) =
      textOf indent base depth steps ++ textOf indent base (depthAfter depth steps) more := by
  induction steps generalizing depth with
  | nil => simp [textOf, depthAfter]
  | cons step steps ih =>
      rw [List.cons_append, textOf, textOf, ih, depthAfter_cons, String.append_assoc]

theorem Block.depth_apply (block : Block) (step : Step) :
    (block.apply step).depth = step.depthAfter block.depth := by
  rw [apply_eq]

mutual

theorem Block.render_apply (indent : String) (base : Nat) (block : Block) :
    ∀ step : Step, (block.apply step).render indent base =
      block.render indent base ++ step.text indent base block.depth
  | .line _ | .statement _ | .beginFlow _ => render_addLine block ..
  | .nextFlow _ | .endFlow => render_addLine { block with depth := block.depth - 1 } ..
  | .indent | .unindent => by simp [apply, render, Step.text]
  | .splice steps => by
      rw [apply, render_append, render_applyAll indent (base + block.depth) {} steps, Step.text]
      simp [render, Text.concat]

/-- A block prints the text of further steps, from its depth on, behind its own. -/
theorem Block.render_applyAll (indent : String) (base : Nat) (block : Block) :
    ∀ steps : List Step, (block.applyAll steps).render indent base =
      block.render indent base ++ textOf indent base block.depth steps
  | [] => by simp [applyAll, textOf]
  | step :: steps => by
      rw [applyAll, render_applyAll indent base (block.apply step) steps,
        render_apply indent base block step, depth_apply, textOf, String.append_assoc]

end

theorem Block.render_ofSteps (indent : String) (base : Nat) (steps : List Step) :
    (ofSteps steps).render indent base = textOf indent base 0 steps := by
  rw [ofSteps, render_applyAll]
  simp [render, Text.concat]

/-- Splicing commutes with printing. A spliced block prints, behind what stands before it, what it
prints by itself below the depth it is spliced in at, and leaves that depth as it is wherever it
ends itself. What is spliced into it stands as many levels deeper as it ends, so splicing in turn
gives the same block just when it ends at depth 0 or nothing more is spliced in. Steps one after
another print their texts one after another, each from the depth the steps before it lead to. -/
theorem spliced_code_prints_in_place (first second third : List Step) (indent : String)
    (base : Nat) :
    let a := Block.ofSteps first
    let b := Block.ofSteps second
    let c := Block.ofSteps third
    ((a.apply (.splice second)).render indent base =
        a.render indent base ++ b.render indent (base + a.depth) ∧
      (a.apply (.splice second)).depth = a.depth) ∧
    (a.apply (.splice (second ++ [.splice third])) =
        a.applyAll (.splice second :: indented^[b.depth] [.splice third]) ∧
      (a.apply (.splice (second ++ [.splice third])) =
          a.applyAll [.splice second, .splice third] ↔
        b.depth = 0 ∨ c.lines = [])) ∧
    (a.render indent base = textOf indent base 0 first ∧
      (a.applyAll second).render indent base =
        a.render indent base ++ textOf indent base a.depth second ∧
      ∀ depth, textOf indent base depth [] = "" ∧
        textOf indent base depth (second ++ third) =
          textOf indent base depth second ++
            textOf indent base (depthAfter depth second) third) := by
  intro a b c
  have inTurn : a.applyAll [.splice second, .splice third] = (a.append b).append c := rfl
  refine ⟨⟨a.render_append b indent base, rfl⟩,
    ⟨a.apply_splice_splice second third, ?_⟩,
    Block.render_ofSteps indent base first, Block.render_applyAll indent base a second,
    fun depth => ⟨by rw [textOf], textOf_append indent base depth second third⟩⟩
  rw [inTurn, Block.apply_splice_append]
  exact Block.append_assoc_iff a b c

/-- The body of a label stands below it only when it is spliced in behind the label's indentation. -/
example :
    let label : List Step := [.line "default:", .indent]
    let body : List Step := [.statement "reader.skipValue()"]
    Block.ofSteps [.splice (label ++ [.splice body])] ≠
      Block.ofSteps [.splice label, .splice body] := by
  decide

end AdapterGen.Code
