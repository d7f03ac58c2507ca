import AdapterGen.Proofs.Java.Statement

/-!
# Steps that spell statements

The lines that steps write do not depend on the depth at which they stand. Steps
one after another spell the statements of each one after another, and a flow
around steps spells one statement around theirs.
-/

namespace AdapterGen

namespace Code

mutual

/-- The texts of the lines that a step writes. -/
def Step.texts : Step → List String
  | .line text => [text]
  | .statement text => [text ++ ";"]
  | .beginFlow header => [Block.openingText header]
  | .nextFlow header => ["\x7d " ++ header ++ " \x7b"]
  | .endFlow => ["\x7d"]
  | .indent | .unindent => []
  | .splice steps => textsOf steps

/-- The texts of the lines that steps write. -/
def textsOf : List Step → List String
  | [] => []
  | step :: steps => step.texts ++ textsOf steps

end

namespace Block

/-- The texts of the lines so far. -/
def texts (block : Block) : List String := block.lines.map (·.text)

mutual

theorem texts_apply (block : Block) :
    ∀ step : Step, (block.apply step).texts = block.texts ++ step.texts
  | .line text => by simp [apply, addLine, texts, Step.texts]
  | .statement text => by simp [apply, addLine, texts, Step.texts]
  | .beginFlow header => by simp [apply, addLine, texts, Step.texts]
  | .nextFlow header => by simp [apply, addLine, texts, Step.texts]
  | .endFlow => by simp [apply, addLine, texts, Step.texts]
  | .indent => by simp [apply, texts, Step.texts]
  | .unindent => by simp [apply, texts, Step.texts]
  | .splice steps => by
      have inner := texts_applyAll {} steps
      simp only [texts, List.map_nil, List.nil_append] at inner
      simp [apply, append, texts, Step.texts, Function.comp_def, inner]

theorem texts_applyAll (block : Block) :
    ∀ steps : List Step, (block.applyAll steps).texts = block.texts ++ textsOf steps
  | [] => by simp [applyAll, textsOf]
  | step :: steps => by
      rw [applyAll, texts_applyAll (block.apply step) steps, texts_apply block step, textsOf,
        List.append_assoc]

end

/-- The lines of a block written from nothing. -/
theorem texts_ofSteps (steps : List Step) : (ofSteps steps).texts = textsOf steps :=
  texts_applyAll {} steps

end Block

theorem textsOf_append (steps more : List Step) :
    textsOf (steps ++ more) = textsOf steps ++ textsOf more := by
  induction steps with
  | nil => rfl
  | cons step steps ih => simp [textsOf, ih]

theorem textsOf_flow (header : String) (body : List Step) :
    textsOf (flow header body) = Block.openingText header :: (textsOf body ++ ["\x7d"]) := by
  simp [flow, textsOf, textsOf_append, Step.texts]

theorem textsOf_indented (body : List Step) : textsOf (indented body) = textsOf body := by
  simp [indented, textsOf, textsOf_append, Step.texts]

/-- The end of a statement that is a call. -/
theorem append_call_end (front : String) : front ++ ")" ++ ";" = front ++ ");" := by
  rw [String.append_assoc]
  rfl

end Code

namespace Java

open Code

/-- Lines one after another, each with its line end. -/
def joinLines (texts : List String) : String := Text.concat (texts.map (· ++ "\n"))

theorem joinLines_append (texts more : List String) :
    joinLines (texts ++ more) = joinLines texts ++ joinLines more := by
  simp [joinLines, Text.concat_append]

theorem Closed.line {text : String} {ts : List Token} (closed : Closed text ts) :
    Closed (joinLines [text]) ts := by
  have ending : Closed "\n" [] := by decide
  simpa [joinLines, Text.concat] using closed.append ending

/-- Steps whose lines spell statements. -/
def Spelled (steps : List Step) (program : List Stmt) : Prop :=
  ∃ ts, Closed (joinLines (textsOf steps)) ts ∧ StmtsRead program ts

theorem Spelled.nil : Spelled [] [] := ⟨[], by decide, .nil⟩

theorem Spelled.append {steps more : List Step} {program others : List Stmt}
    (front : Spelled steps program) (back : Spelled more others) :
    Spelled (steps ++ more) (program ++ others) := by
  obtain ⟨ts, closed, read⟩ := front
  obtain ⟨us, closedBack, readBack⟩ := back
  refine ⟨ts ++ us, ?_, read.append readBack⟩
  rw [textsOf_append, joinLines_append]
  exact closed.append closedBack

/-- Parts that each spell statements spell them one after another. -/
theorem Spelled.flatMap {α : Type} {parts : List α} {write : α → List Step}
    {read : α → List Stmt} (spelled : ∀ part ∈ parts, Spelled (write part) (read part)) :
    Spelled (parts.flatMap write) (parts.flatMap read) := by
  induction parts with
  | nil => exact .nil
  | cons part parts ih =>
      obtain ⟨first, others⟩ := List.forall_mem_cons.mp spelled
      exact first.append (ih others)

theorem Spelled.line {text : String} {ts : List Token} {s : Stmt} (closed : Closed text ts)
    (reads : StmtReads s ts) : Spelled [.line text] [s] :=
  ⟨ts, by simpa [textsOf, Step.texts] using closed.line, reads.single⟩

theorem Spelled.statement {text : String} {ts : List Token} {s : Stmt} (spells : Spells text ts)
    (reads : StmtReads s (ts ++ [Token.sign ';'])) : Spelled [.statement text] [s] := by
  have semicolon : Closed ";" [.sign ';'] := by decide
  have closed := spells.append_closed semicolon (breaks_of_head (by decide))
  exact ⟨_, by simpa [textsOf, Step.texts] using closed.line, reads.single⟩

theorem Spelled.indented {steps : List Step} {program : List Stmt}
    (spelled : Spelled steps program) : Spelled (indented steps) program := by
  obtain ⟨ts, closed, read⟩ := spelled
  exact ⟨ts, by rwa [textsOf_indented], read⟩

/-- A flow around a body, by the text of the line that opens it. -/
theorem Spelled.braces {header : String} {front : List Token} {body : List Step}
    {program : List Stmt} {s : Stmt}
    (opens : Closed (Block.openingText header) (front ++ [Token.sign '{']))
    (spelled : Spelled body program)
    (reads : ∀ ts, StmtsRead program ts →
      StmtReads s (front ++ Token.sign '{' :: (ts ++ [Token.sign '}']))) :
    Spelled (flow header body) [s] := by
  obtain ⟨ts, closed, read⟩ := spelled
  have brace : Closed "\x7d" [.sign '}'] := by decide
  have whole := opens.line.append (closed.append brace.line)
  rw [← joinLines_append, ← joinLines_append, List.singleton_append] at whole
  refine ⟨_, by rwa [textsOf_flow], ?_⟩
  simpa using (reads ts read).single

theorem Spelled.flow {header : String} {front : List Token} {body : List Step}
    {program : List Stmt} {s : Stmt} (nonempty : header ≠ "") (spells : Spells header front)
    (spelled : Spelled body program)
    (reads : ∀ ts, StmtsRead program ts →
      StmtReads s (front ++ Token.sign '{' :: (ts ++ [Token.sign '}']))) :
    Spelled (flow header body) [s] := by
  have brace : Closed " \x7b" [.sign '{'] := by decide
  have opens := spells.append_closed brace (breaks_of_head (by decide))
  exact .braces (by simpa [Block.openingText, nonempty] using opens) spelled reads

theorem Spelled.block {body : List Step} {program : List Stmt} (spelled : Spelled body program) :
    Spelled (Code.flow "" body) [.block program] := by
  have opens : Closed (Block.openingText "") ([] ++ [Token.sign '{']) := by decide
  exact .braces opens spelled fun ts read => .block read

/-- The lines of a block that steps write are read as the statements that the steps spell. -/
theorem Spelled.readBody? {steps : List Step} {program : List Stmt}
    (spelled : Spelled steps program) : readBody? (Block.ofSteps steps) = some program := by
  obtain ⟨ts, closed, read⟩ := spelled
  have lines : (Block.ofSteps steps).lines.map (fun line => line.text ++ "\n") =
      (textsOf steps).map (· ++ "\n") := by
    rw [← Block.texts_ofSteps, Block.texts, List.map_map]
    rfl
  have whole := read.readStmts? (4 * ts.length + 3) [] (Nat.le_refl _)
  unfold Java.readBody?
  rw [lines, ← joinLines, closed.tokens?]
  simp [whole]

end Java

end AdapterGen
