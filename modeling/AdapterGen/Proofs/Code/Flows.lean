import AdapterGen.Proofs.Code.Nesting
import Mathlib.Data.List.Infix

/-!
# Lines of flows

In what well-nested steps write, the line that closes a flow stands at the depth of the line that
opens it. Between the two all lines are deeper, but for those that continue the flow, and there are
as many that open a flow as that close one.

## Implementation notes

The invariant is `Fits`: the depths of the flows that are open, and where the next line may stand.
The lines of a spliced block fit within the flows around it because they stand deeper than these.
-/

namespace AdapterGen.Code

variable {opened last : List Bracket} {steps : List Step}

/-! ### Lines within flows -/

/-- The least depth of a line within flows that are open at some depths, the innermost first, and
nowhere less deep than a floor. -/
def leastDepth (floor : Nat) : List Nat → Nat
  | [] => floor
  | depth :: _ => depth + 1

/-- Lines with the depths of the flows that are open before and behind them. A line that continues
or closes a flow stands at the flow's depth, and any other is deeper than all that is open. -/
inductive Fits (floor : Nat) : List Nat → List MarkedLine → List Nat → Prop
  | nil {flows : List Nat} : Fits floor flows [] flows
  | plain {flows last : List Nat} {line : Line} {rest : List MarkedLine} :
      leastDepth floor flows ≤ line.depth → Fits floor flows rest last →
        Fits floor flows (⟨.plain, line⟩ :: rest) last
  | opens {flows last : List Nat} {line : Line} {rest : List MarkedLine} :
      leastDepth floor flows ≤ line.depth → Fits floor (line.depth :: flows) rest last →
        Fits floor flows (⟨.opens, line⟩ :: rest) last
  | continues {depth : Nat} {flows last : List Nat} {line : Line} {rest : List MarkedLine} :
      line.depth = depth → Fits floor (depth :: flows) rest last →
        Fits floor (depth :: flows) (⟨.continues, line⟩ :: rest) last
  | closes {depth : Nat} {flows last : List Nat} {line : Line} {rest : List MarkedLine} :
      line.depth = depth → Fits floor flows rest last →
        Fits floor (depth :: flows) (⟨.closes, line⟩ :: rest) last

namespace Fits

variable {floor : Nat} {flows others final : List Nat} {lines rest : List MarkedLine}

theorem append (front : Fits floor flows lines others) (back : Fits floor others rest final) :
    Fits floor flows (lines ++ rest) final := by
  induction front with
  | nil => exact back
  | plain deep _ ih => exact .plain deep (ih back)
  | opens deep _ ih => exact .opens deep (ih back)
  | continues same _ ih => exact .continues same (ih back)
  | closes same _ ih => exact .closes same (ih back)

theorem exists_of_append (fits : Fits floor flows (lines ++ rest) final) :
    ∃ others, Fits floor flows lines others ∧ Fits floor others rest final := by
  induction lines generalizing flows with
  | nil => exact ⟨flows, .nil, fits⟩
  | cons marked lines ih =>
      cases fits with
      | plain deep fits =>
          obtain ⟨others, front, back⟩ := ih fits
          exact ⟨others, .plain deep front, back⟩
      | opens deep fits =>
          obtain ⟨others, front, back⟩ := ih fits
          exact ⟨others, .opens deep front, back⟩
      | continues same fits =>
          obtain ⟨others, front, back⟩ := ih fits
          exact ⟨others, .continues same front, back⟩
      | closes same fits =>
          obtain ⟨others, front, back⟩ := ih fits
          exact ⟨others, .closes same front, back⟩

/-- Lines that are deep enough fit within further flows. -/
theorem within {lower : Nat} {around : List Nat} (fits : Fits floor flows lines final)
    (deep : leastDepth lower around ≤ floor) :
    Fits lower (flows ++ around) lines (final ++ around) := by
  have least (flows : List Nat) :
      leastDepth lower (flows ++ around) ≤ leastDepth floor flows := by
    cases flows with
    | nil => exact deep
    | cons => exact Nat.le_refl _
  induction fits with
  | nil => exact .nil
  | plain enough _ ih => exact .plain ((least _).trans enough) ih
  | opens enough _ ih => exact .opens ((least _).trans enough) ih
  | continues same _ ih => exact .continues same ih
  | closes same _ ih => exact .closes same ih

end Fits

/-- The depths of the flows among what is open, when each open bracket is one level. -/
def flowDepths (base : Nat) : List Bracket → List Nat
  | [] => []
  | .flow :: opened => (base + opened.length) :: flowDepths base opened
  | .indent :: opened => flowDepths base opened

theorem leastDepth_flowDepths_le (base : Nat) (opened : List Bracket) :
    leastDepth base (flowDepths base opened) ≤ base + opened.length := by
  induction opened with
  | nil => exact Nat.le_refl _
  | cons bracket opened ih =>
      cases bracket with
      | flow => exact Nat.le_refl _
      | indent => exact ih.trans (Nat.le_succ _)

/-- The lines of nested steps fit the flows that are open around them. -/
theorem Nests.fits (nests : Nests opened steps last) (base : Nat) :
    Fits base (flowDepths base opened) (markedOf (base + opened.length) steps)
      (flowDepths base last) := by
  induction nests generalizing base with
  | nil => exact .nil
  | line _ ih | statement _ ih => exact .plain (leastDepth_flowDepths_le base _) (ih base)
  | beginFlow _ ih => exact .opens (leastDepth_flowDepths_le base _) (ih base)
  | nextFlow _ ih => exact .continues rfl (ih base)
  | endFlow _ ih => exact .closes rfl (ih base)
  | indent _ ih | unindent _ ih => exact ih base
  | @splice opened _ inner rest nested _ within ih =>
      have inPlace : (markedOf 0 inner).map (.below (base + opened.length)) =
          markedOf (base + opened.length) inner :=
        (markedOf_add (WellNested.findLevels nested 0) _).symm
      rw [markedOf, Step.marked, inPlace]
      exact ((within _).within (leastDepth_flowDepths_le base opened)).append (ih base)

theorem WellNested.fits (nested : WellNested steps) (depth : Nat) :
    Fits depth [] (markedOf depth steps) [] :=
  Nests.fits nested depth

/-- The lines between the one that opens a flow at a depth and the one that closes it, from where
some flows within it are open. A line that continues the flow itself stands at its depth, and all
others are deeper. -/
inductive Encloses (depth : Nat) : (inner : Nat) → List MarkedLine → Prop
  | nil : Encloses depth 0 []
  | own {line : Line} {rest : List MarkedLine} : line.depth = depth → Encloses depth 0 rest →
      Encloses depth 0 (⟨.continues, line⟩ :: rest)
  | plain {inner : Nat} {line : Line} {rest : List MarkedLine} : depth < line.depth →
      Encloses depth inner rest → Encloses depth inner (⟨.plain, line⟩ :: rest)
  | opens {inner : Nat} {line : Line} {rest : List MarkedLine} : depth < line.depth →
      Encloses depth (inner + 1) rest → Encloses depth inner (⟨.opens, line⟩ :: rest)
  | continues {inner : Nat} {line : Line} {rest : List MarkedLine} : depth < line.depth →
      Encloses depth (inner + 1) rest → Encloses depth (inner + 1) (⟨.continues, line⟩ :: rest)
  | closes {inner : Nat} {line : Line} {rest : List MarkedLine} : depth < line.depth →
      Encloses depth inner rest → Encloses depth (inner + 1) (⟨.closes, line⟩ :: rest)

/-- A flow that is open, with flows within it, is closed later, if not left open at the end. -/
theorem Fits.exists_closing {floor depth : Nat} {inner flows final : List Nat}
    {after : List MarkedLine} (fits : Fits floor (inner ++ depth :: flows) after final)
    (closed : final.length ≤ flows.length) (deeper : ∀ e ∈ inner, depth < e) :
    ∃ between closing rest, after = between ++ closing :: rest ∧ closing.mark = .closes ∧
      closing.line.depth = depth ∧ Encloses depth inner.length between := by
  generalize isOpen : inner ++ depth :: flows = opened at fits
  have least (inner : List Nat) (deeper : ∀ e ∈ inner, depth < e) :
      depth < leastDepth floor (inner ++ depth :: flows) := by
    cases inner with
    | nil => exact Nat.lt_succ_self depth
    | cons e inner => exact (deeper e List.mem_cons_self).trans (Nat.lt_succ_self e)
  induction fits generalizing inner with
  | nil =>
      have lengths := congrArg List.length isOpen
      simp only [List.length_append, List.length_cons] at lengths
      omega
  | plain deep _ ih =>
      subst isOpen
      obtain ⟨between, closing, rest, rfl, isClosing, same, encloses⟩ := ih closed deeper rfl
      exact ⟨_, closing, rest, rfl, isClosing, same,
        .plain ((least inner deeper).trans_le deep) encloses⟩
  | opens deep _ ih =>
      subst isOpen
      have below := (least inner deeper).trans_le deep
      have allDeeper : ∀ e ∈ _ :: inner, depth < e := List.forall_mem_cons.mpr ⟨below, deeper⟩
      obtain ⟨between, closing, rest, rfl, isClosing, same, encloses⟩ := ih closed allDeeper rfl
      exact ⟨_, closing, rest, rfl, isClosing, same, .opens below encloses⟩
  | continues same _ ih =>
      obtain ⟨between, closing, rest, rfl, isClosing, closes, encloses⟩ := ih closed deeper isOpen
      cases inner with
      | nil =>
          obtain ⟨rfl, rfl⟩ := List.cons.inj isOpen
          exact ⟨_, closing, rest, rfl, isClosing, closes, .own same encloses⟩
      | cons e inner =>
          obtain ⟨rfl, rfl⟩ := List.cons.inj isOpen
          have below := (deeper e List.mem_cons_self).trans_eq same.symm
          exact ⟨_, closing, rest, rfl, isClosing, closes, .continues below encloses⟩
  | closes same _ ih =>
      cases inner with
      | nil =>
          obtain ⟨rfl, rfl⟩ := List.cons.inj isOpen
          exact ⟨[], _, _, rfl, rfl, same, .nil⟩
      | cons e inner =>
          obtain ⟨rfl, rfl⟩ := List.cons.inj isOpen
          obtain ⟨deeperFirst, deeperInner⟩ := List.forall_mem_cons.mp deeper
          obtain ⟨between, closing, rest, rfl, isClosing, closes, encloses⟩ :=
            ih closed deeperInner rfl
          exact ⟨_, closing, rest, rfl, isClosing, closes,
            .closes (deeperFirst.trans_eq same.symm) encloses⟩

/-- Lines each of which that opens a flow is followed by the one that closes it, at its depth, with
the lines of the flow between the two. -/
def FlowsEnclosed (lines : List MarkedLine) : Prop :=
  ∀ before opening after, lines = before ++ opening :: after → opening.mark = .opens →
    ∃ between closing rest, after = between ++ closing :: rest ∧ closing.mark = .closes ∧
      closing.line.depth = opening.line.depth ∧ Encloses opening.line.depth 0 between

theorem Fits.flowsEnclosed {floor : Nat} {lines : List MarkedLine} (fits : Fits floor [] lines []) :
    FlowsEnclosed lines := by
  rintro before ⟨_, line⟩ after rfl rfl
  obtain ⟨flows, -, fits⟩ := fits.exists_of_append
  cases fits with
  | opens _ fits =>
      have noneWithin : ∀ e ∈ ([] : List Nat), line.depth < e := nofun
      exact fits.exists_closing (Nat.zero_le _) noneWithin

/-! ### Counting lines -/

/-- Marks of lines that close as many flows as they open, and never more than were opened before;
a line that continues a flow closes one first. -/
structure Balanced (marks : List Mark) : Prop where
  closed : ∀ front, front <+: marks → front.count .closes ≤ front.count .opens
  continued : ∀ front, front ++ [.continues] <+: marks → front.count .closes < front.count .opens
  all : marks.count .closes = marks.count .opens

namespace Fits

variable {floor : Nat} {flows final : List Nat} {lines : List MarkedLine}

theorem count_eq (fits : Fits floor flows lines final) :
    (lines.map (·.mark)).count .closes + final.length =
      (lines.map (·.mark)).count .opens + flows.length := by
  induction fits with
  | nil => rfl
  | plain _ _ ih | continues _ _ ih => simpa using ih
  | opens _ _ ih | closes _ _ ih =>
      simp only [List.map_cons, List.count_cons, List.length_cons] at ih ⊢
      simp only [beq_iff_eq, reduceCtorEq, if_false, if_true]
      omega

theorem balanced (fits : Fits floor [] lines []) : Balanced (lines.map (·.mark)) where
  closed := by
    rintro _ ⟨back, split⟩
    obtain ⟨front, behind, rfl, rfl, rfl⟩ := List.map_eq_append_iff.mp split.symm
    obtain ⟨flows, fitsFront, -⟩ := fits.exists_of_append
    exact (Nat.le_add_right _ _).trans_eq fitsFront.count_eq
  continued := by
    rintro _ ⟨back, split⟩
    rw [List.append_assoc] at split
    obtain ⟨front, behind, rfl, rfl, behindMarks⟩ := List.map_eq_append_iff.mp split.symm
    obtain ⟨⟨_, line⟩, rest, rfl, rfl, -⟩ := List.map_eq_cons_iff.mp behindMarks
    obtain ⟨flows, fitsFront, fitsBehind⟩ := fits.exists_of_append
    have counts := fitsFront.count_eq
    cases fitsBehind with
    | continues =>
        simp only [List.length_cons, List.length_nil] at counts
        omega
  all := fits.count_eq

end Fits

/-! ### Lines read by their texts -/

/-- What a line does to flows, as its text says: it opens one with its last brace, and closes one
with a brace alone or in front of the next flow. -/
def Mark.ofText (text : String) : Mark :=
  if text.toList.getLast? = some '{' then
    if text.toList.head? = some '}' then .continues else .opens
  else if text = "\x7d" then .closes else .plain

theorem Mark.ofText_of_getLast? {text : String} {c : Char} (ends : text.toList.getLast? = some c)
    (noBrace : c ≠ '{' ∧ c ≠ '}') : Mark.ofText text = .plain := by
  have notOpening : text.toList.getLast? ≠ some '{' := by simpa [ends] using noBrace.1
  have notClosing : text ≠ "\x7d" := by
    rintro rfl
    exact noBrace.2 (Option.some.inj ends).symm
  rw [ofText, if_neg notOpening, if_neg notClosing]

/-- Steps whose lines do to flows what their texts say. -/
def Legible (steps : List Step) : Prop :=
  ∀ depth, ∀ marked ∈ markedOf depth steps, Mark.ofText marked.line.text = marked.mark

namespace Legible

variable {steps more : List Step}

theorem nil : Legible [] := fun _ _ found => nomatch found

theorem append (front : Legible steps) (back : Legible more) : Legible (steps ++ more) := by
  intro depth marked found
  rw [markedOf_append] at found
  rcases List.mem_append.mp found with inFront | inBack
  · exact front _ marked inFront
  · exact back _ marked inBack

theorem flatMap {α : Type} {parts : List α} {write : α → List Step}
    (each : ∀ part ∈ parts, Legible (write part)) : Legible (parts.flatMap write) := by
  induction parts with
  | nil => exact nil
  | cons part parts ih =>
      obtain ⟨first, later⟩ := List.forall_mem_cons.mp each
      exact first.append (ih later)

theorem statement (text : String) : Legible [.statement text] := by
  intro depth marked found
  obtain rfl := List.mem_singleton.mp found
  have ends : (text ++ ";").toList.getLast? = some ';' := by simp
  exact Mark.ofText_of_getLast? ends (by decide)

/-- The line of a label. -/
theorem label (front : String) : Legible [.line (front ++ ":")] := by
  intro depth marked found
  obtain rfl := List.mem_singleton.mp found
  have ends : (front ++ ":").toList.getLast? = some ':' := by simp
  exact Mark.ofText_of_getLast? ends (by decide)

theorem indented (body : Legible steps) : Legible (Code.indented steps) := by
  intro depth marked found
  rw [Code.indented, List.cons_append, markedOf, markedOf_append] at found
  rcases List.mem_append.mp found with none | found
  · nomatch none
  · rcases List.mem_append.mp found with inBody | none
    · exact body _ marked inBody
    · nomatch none

theorem flow {header : String} (noBrace : header.toList.head? ≠ some '}') (body : Legible steps) :
    Legible (Code.flow header steps) := by
  have opening : Mark.ofText (Block.openingText header) = .opens := by
    by_cases bare : header = ""
    · subst bare
      decide
    · have ends : (header ++ " \x7b").toList.getLast? = some '{' := by simp
      have begins : (header ++ " \x7b").toList.head? ≠ some '}' := by
        obtain ⟨c, cs, isHeader⟩ :=
          List.exists_cons_of_ne_nil (mt String.toList_eq_nil_iff.mp bare)
        simpa [isHeader] using noBrace
      rw [Block.openingText, if_neg bare, Mark.ofText, if_pos ends, if_neg begins]
  have closing : Mark.ofText "\x7d" = .closes := by decide
  intro depth marked found
  rw [Code.flow, List.cons_append, markedOf, markedOf_append] at found
  rcases List.mem_append.mp found with isOpening | found
  · obtain rfl := List.mem_singleton.mp isOpening
    exact opening
  · rcases List.mem_append.mp found with inBody | isClosing
    · exact body _ marked inBody
    · obtain rfl := List.mem_singleton.mp isClosing
      exact closing

end Legible

/-- A body that well-nested steps write. It ends at the depth at which it began, and its lines open
and close equally many flows, as their texts say. -/
structure NestedBody (body : Block) (steps : List Step) : Prop where
  written : body = Block.ofSteps steps
  nested : WellNested steps
  depth : body.depth = 0
  balanced : Balanced (body.lines.map fun line => Mark.ofText line.text)

theorem nestedBody_ofSteps {steps : List Step} (nested : WellNested steps)
    (legible : Legible steps) : NestedBody (Block.ofSteps steps) steps where
  written := rfl
  nested := nested
  depth := by
    rw [Block.ofSteps, Block.applyAll_eq]
    exact nested.depthAfter_eq 0
  balanced := by
    have lines : (Block.ofSteps steps).lines = (markedOf 0 steps).map (·.line) := by
      rw [Block.ofSteps, Block.applyAll_eq]
      rfl
    have marks : (markedOf 0 steps).map (fun marked => Mark.ofText marked.line.text) =
        (markedOf 0 steps).map (·.mark) :=
      List.map_congr_left (legible 0)
    rw [lines, List.map_map]
    exact marks ▸ (nested.fits 0).balanced

end AdapterGen.Code
