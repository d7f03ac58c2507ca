import AdapterGen.Round

/-!
# Reports as texts

How the outcome of a round and the plans of its targets are shown.
-/

namespace AdapterGen

/-- Texts as lines, each with its end. -/
def linesText (lines : List String) : String := String.join (lines.map (· ++ "\n"))

/-- A headed section; nothing without entries. -/
def sectionText (title label : String) (entries : List String) : String :=
  if entries.isEmpty then ""
  else "\n" ++ title ++ ":\n" ++ linesText (entries.map ("  " ++ label ++ ": " ++ ·))

/-- The generated units, the failures and the warnings of a round. -/
def RoundReport.summary (report : RoundReport) : String :=
  "Generated " ++ toString report.generated.length ++ " unit(s):\n" ++
    linesText (report.generated.map ("  " ++ ·.name)) ++
    sectionText "Failures" "error" (report.failures.map (·.fullMessage)) ++
    sectionText "Warnings" "warning" (report.warnings.map (·.message))

/-- How a read is described. -/
def DecodeStrategy.describe : DecodeStrategy → String
  | primitive _ method (some narrowTo) =>
      "reader." ++ method.name ++ "() as " ++ narrowTo.keyword
  | primitive _ method none => "reader." ++ method.name ++ "()"
  | string => "reader.nextString()"
  | delegated _ expr => "moshi.adapter(" ++ expr.render ++ ")"

/-- How a planned field is described: its declaration, its key and its read. -/
def FieldPlan.describe (plan : FieldPlan) : String :=
  plan.field.type.render ++ " " ++ plan.field.name ++ " <- \"" ++ plan.field.jsonName ++ "\": " ++
    plan.strategy.describe ++ if plan.field.nullable then " (nullable)" else ""

/-- How a plan is described: its target, then a line for each field. -/
def DecodePlan.describe (plan : DecodePlan) : String :=
  linesText (plan.target :: plan.fields.map ("  " ++ ·.describe))

/-- The plans of a round, then the failures with what they were found in. -/
def RoundReport.inspection (report : RoundReport) : String :=
  String.join (report.plans.map (·.describe)) ++
    linesText (report.failures.map fun failure =>
      failure.typeName ++ ": " ++ failure.fullMessage)

end AdapterGen
