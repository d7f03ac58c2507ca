import AdapterGen.Emission.Adapter
import AdapterGen.Proofs.Decoder.Locals
import AdapterGen.Proofs.Decoder.TypeText
import AdapterGen.Proofs.Java.Lines

/-!
# The program of a decoder

The statements that a decoder's lines spell: the locals, the loop over the
keys with a switch inside, the checks of the required fields and the call of
the constructor.

## Implementation notes

The statements are given part by part as the lines are, so that each part of the
text is read on its own. Nothing here looks at what the statements do.

-/

namespace AdapterGen.Emission

open Code Java
open TypeDescriptor (WellFormed)

theorem texts_decoder (targetName : String) (plan : DecodePlan) (debugLogs : Bool) :
    (decoder targetName plan debugLogs).body.texts =
      textsOf (decoderSteps targetName plan debugLogs) :=
  Block.texts_ofSteps _

/-! ### The statements -/

/-- A call of the reader without arguments. -/
def readerCall (method : String) : Expr := .call ["reader", method] []

/-- A statement that logs. -/
def logStmt (args : List Expr) : Stmt :=
  .exec (.call ["LOGGER", "log"] (.name ["Level", "FINE"] :: args))

/-- Statements that are there only with logging on. -/
def logged (debugLogs : Bool) (body : List Stmt) : List Stmt := if debugLogs then body else []

/-- The expression that reads a scalar. -/
def scalarExpr (method : ReadMethod) (narrowTo : Option PrimitiveKind) : Expr :=
  match narrowTo with
  | some kind => .cast kind (readerCall method.name)
  | none => readerCall method.name

/-- The expression that reads a value unless it is null. -/
def unlessNull (read : Expr) : Expr :=
  .choose (.same (readerCall "peek") (.name ["JsonReader", "Token", "NULL"]))
    (readerCall "nextNull") read

/-- The expression that reads a scalar or a string into a field. -/
def scalarOf (nullable : Bool) (read boxed : Expr) : Expr :=
  if nullable then unlessNull boxed else read

/-- The read of one field into its local. -/
def readStmts (plan : FieldPlan) (x : String) (debugLogs : Bool) : List Stmt :=
  match plan.strategy with
  | .primitive kind method narrowTo =>
      let read := scalarExpr method narrowTo
      [.assign x (scalarOf plan.field.nullable read (.call [kind.boxedName, "valueOf"] [read]))]
  | .string =>
      let read := readerCall "nextString"
      [.assign x (scalarOf plan.field.nullable read read)]
  | .delegated _ expr =>
      [.block
        ([Stmt.declare "_adapter" (.call ["moshi", "adapter"] [ofTypeExpr expr])] ++
          logged debugLogs
            [logStmt [.literal "\tGot delegate adapter: \x7b0\x7d", .name ["_adapter"]]] ++
          [Stmt.assign x (.call ["_adapter", "fromJson"] [.name ["reader"]])] ++
          logged debugLogs [logStmt [.literal "\tGot model data: \x7b0\x7d", .name [x]]])]

/-- One arm of the switch over keys. -/
def armStmts (locals : List (String × String)) (debugLogs : Bool) (plan : FieldPlan) : List Stmt :=
  .label (some plan.field.jsonName) ::
    (readStmts plan (localOf locals plan.field) debugLogs ++ [Stmt.breakOut])

/-- The switch over keys. -/
def switchBody (locals : List (String × String)) (debugLogs : Bool) (plan : DecodePlan) :
    List Stmt :=
  plan.fields.flatMap (armStmts locals debugLogs) ++
    [Stmt.label none, .exec (readerCall "skipValue")]

/-- What is done for each entry. -/
def entryBody (locals : List (String × String)) (debugLogs : Bool) (plan : DecodePlan) :
    List Stmt :=
  [Stmt.declare "_name" (readerCall "nextName")] ++
    logged debugLogs [logStmt [.literal "\tGot name: \x7b0\x7d", .name ["_name"]]] ++
    [Stmt.switchOn (.name ["_name"]) (switchBody locals debugLogs plan)]

/-- The check that a required field's key occurred. -/
def requireStmt (locals : List (String × String)) (field : Field) : Stmt :=
  .ifThen (.same (.name [localOf locals field]) .null)
    (.block [.throwing (.create "IOException" [.literal (missingFieldMessage field.jsonName)])])

/-- The declaration of a field's local. -/
def declareStmt (locals : List (String × String)) (field : Field) : Stmt :=
  .declare (localOf locals field) .null

/-- The statements of the decoder. -/
def decoderProgram (targetName : String) (plan : DecodePlan) (debugLogs : Bool) : List Stmt :=
  let fields := plan.fields.map (·.field)
  let locals := localNames targetName fields
  logged debugLogs [logStmt [.literal "Reading json"]] ++
    fields.map (declareStmt locals) ++
    [Stmt.exec (readerCall "beginObject")] ++
    [Stmt.whileLoop (readerCall "hasNext") (.block (entryBody locals debugLogs plan))] ++
    [Stmt.exec (readerCall "endObject")] ++
    plan.requiredFields.map (requireStmt locals) ++
    [Stmt.returning (.create targetName (fields.map fun field => .name [localOf locals field]))]

/-! ### Plans that are spelled -/

/-- A plan whose fields have identifiers for names, distinct names, distinct keys, and reads that
go by their types, which are well formed. -/
structure SoundPlan (plan : DecodePlan) : Prop where
  target : IsQualifiedName plan.target
  names : ∀ p ∈ plan.fields, IsIdentifier p.field.name
  types : ∀ p ∈ plan.fields, WellFormed false p.field.type
  planned : ∀ p ∈ plan.fields, DecodeStrategy.select plan.target p.field = .ok p.strategy
  distinctNames : (plan.fields.map (·.field.name)).Nodup
  distinctKeys : (plan.fields.map (·.field.jsonName)).Nodup

theorem toList_repeated_underscore (n : Nat) :
    (Text.repeated n "_").toList = List.replicate n '_' := by
  induction n with
  | zero => rfl
  | succ n ih => simp [Text.repeated, ih, List.replicate_succ]

/-- Underscores at its end leave an identifier one. -/
theorem isIdentifier_withUnderscores {name : String} (isIdentifier : IsIdentifier name) (n : Nat) :
    IsIdentifier (withUnderscores name n) := by
  have nonempty : name.toList ≠ [] := fun empty =>
    isIdentifier.nonempty (String.toList_eq_nil_iff.mp empty)
  have spelled : (withUnderscores name n).toList = name.toList ++ List.replicate n '_' := by
    simp [withUnderscores, toList_repeated_underscore]
  refine ⟨⟨fun empty => ?_, fun c found => ?_⟩, fun c first => ?_, fun isReserved => ?_⟩
  · rw [← String.toList_eq_nil_iff, spelled] at empty
    exact nonempty (List.append_eq_nil_iff.mp empty).1
  · rw [spelled, List.mem_append] at found
    rcases found with inName | underscore
    · exact isIdentifier.wordChars c inName
    · obtain rfl := List.eq_of_mem_replicate underscore
      decide
  · obtain ⟨d, rest, shape⟩ := List.exists_cons_of_ne_nil nonempty
    rw [spelled, shape] at first
    exact isIdentifier.noDigit c (shape ▸ first)
  · cases n with
    | zero => exact isIdentifier.free (by simpa [withUnderscores, Text.repeated] using isReserved)
    | succ n =>
        have noneEnds : ∀ word ∈ reservedWords, word.toList.getLast? ≠ some '_' := by decide +kernel
        refine noneEnds _ isReserved ?_
        rw [spelled, List.replicate_succ', ← List.append_assoc, List.getLast?_concat]

variable {plan : DecodePlan} (debugLogs : Bool)

/-- The locals of a plan's fields are identifiers. -/
theorem SoundPlan.isIdentifier_localOf (sound : SoundPlan plan) {field : Field}
    (found : field ∈ plan.fields.map (·.field)) :
    IsIdentifier (localOf (localNames plan.target (plan.fields.map (·.field))) field) := by
  obtain ⟨p, isPlan, rfl⟩ := List.mem_map.mp found
  obtain ⟨⟨n, same⟩, -⟩ := localOf_spec plan.target found
  rw [same]
  exact isIdentifier_withUnderscores (sound.names p isPlan) n

/-! ### The texts of expressions -/

theorem operandReads_name {x : String} (isIdentifier : IsIdentifier x) :
    OperandReads (.name [x]) [.word x] := by
  have notNull : x ≠ "null" := by
    rintro rfl
    exact isIdentifier.free (by simp [reservedWords])
  refine OperandReads.ofPath (List.cons_ne_nil x []) ?_
  simp [ofPath?, notNull, beginsReserved_cons isIdentifier.free]

theorem operandReads_null : OperandReads .null [.word "null"] :=
  OperandReads.ofPath (List.cons_ne_nil "null" []) (by simp [ofPath?])

theorem isIdentifier_reader : IsIdentifier "reader" :=
  isIdentifier_of_mem_reservedLocals _ (by simp [reservedLocals])

theorem isIdentifier_name : IsIdentifier "_name" :=
  isIdentifier_of_mem_reservedLocals _ (by simp [reservedLocals])

theorem isIdentifier_adapter : IsIdentifier "_adapter" :=
  isIdentifier_of_mem_reservedLocals _ (by simp [reservedLocals])

/-- A call of the reader, as its lines spell it. -/
theorem writes_readerCall {method : String} (isWord : IsWord method) :
    WritesOperand ("reader." ++ method ++ "()") (readerCall method) := by
  have closing : Closed ")" [.sign ')'] := by decide
  have whole := WritesOperand.call isIdentifier_reader isWord rfl closing .nil
  rwa [String.append_assoc] at whole

theorem isWord_methodName (method : ReadMethod) : IsWord method.name := by
  cases method <;> decide

theorem writes_scalarRead (method : ReadMethod) (narrowTo : Option PrimitiveKind) :
    WritesOperand (scalarRead method narrowTo) (scalarExpr method narrowTo) := by
  obtain ⟨ts, spells, reads⟩ := writes_readerCall (isWord_methodName method)
  cases narrowTo with
  | none => exact ⟨ts, spells, reads⟩
  | some kind =>
      have opening : Closed "(" [.sign '('] := by decide
      have closing : Closed ") " [.sign ')'] := by decide
      have keyword : IsWord kind.keyword := by cases kind <;> decide
      have front := (opening.append_spells keyword.spells).append_closed closing
        (breaks_of_head (by decide))
      have whole := front.append_spells spells
      have split (rest : String) : ") reader." ++ rest = ") " ++ ("reader." ++ rest) := by
        rw [← String.append_assoc]
        rfl
      refine ⟨_, ?_, reads.cast kind⟩
      simpa [scalarRead, split, String.append_assoc] using whole

/-- The null test in front of a read. -/
theorem writes_readUnlessNull {className read : String} {e : Expr} (isWord : IsWord className)
    (written : Writes read e) : Writes (readUnlessNull className read) (unlessNull e) := by
  obtain ⟨ts, spells, reads⟩ := written
  have peek : OperandReads (readerCall "peek")
      (pathTokens ["reader", "peek"] ++ [Token.sign '(', .sign ')']) :=
    OperandReads.call (by simp) (beginsReserved_cons isIdentifier_reader.free _) .nil
  have isClass : IsIdentifier "JsonReader" :=
    isIdentifier_of_mem_reservedLocals _ (by simp [reservedLocals])
  have nullToken : OperandReads (.name ["JsonReader", "Token", "NULL"])
      (pathTokens ["JsonReader", "Token", "NULL"]) :=
    OperandReads.ofPath (by simp) (by simp [ofPath?, beginsReserved_cons isClass.free])
  have nextNull : OperandReads (.call (["reader"] ++ ["nextNull"]) [])
      (pathTokens ["reader"] ++ Token.sign '.' :: .sign '<' :: .word className :: .sign '>' ::
        .word "nextNull" :: [.sign '(', .sign ')']) :=
    OperandReads.typedCall className "nextNull" (by simp)
      (beginsReserved_cons isIdentifier_reader.free _) .nil
  have whole := ExprReads.choose (ExprReads.same peek nullToken) (fun _ => rfl) nextNull.expr reads
  have test : Closed "(reader.peek() == "
      (.sign '(' :: (pathTokens ["reader", "peek"] ++ [Token.sign '(', .sign ')', .equal])) := rfl
  have null : Closed "JsonReader.Token.NULL) ? reader.<"
      (pathTokens ["JsonReader", "Token", "NULL"] ++
        [Token.sign ')', .sign '?', .word "reader", .sign '.', .sign '<']) := rfl
  have back : Closed ">nextNull() : "
      [.sign '>', .word "nextNull", .sign '(', .sign ')', .sign ':'] := rfl
  have text := (((test.append null).append_spells isWord.spells).append_closed back
    (breaks_of_head (by decide))).append_spells spells
  refine ⟨_, text, ?_⟩
  simpa [pathTokens, unlessNull, readerCall] using whole

theorem writes_valueOf {read : String} {e : Expr} (kind : PrimitiveKind)
    (written : Writes read e) :
    Writes (kind.boxedName ++ ".valueOf(" ++ read ++ ")")
      (.call [kind.boxedName, "valueOf"] [e]) := by
  obtain ⟨ts, spells, reads⟩ := written
  have isClass := isIdentifier_of_mem_reservedLocals _ (boxedName_mem_reservedLocals kind)
  have closing : Closed ")" [.sign ')'] := by decide
  have closed := spells.append_closed closing (breaks_of_head (by decide))
  have shape : kind.boxedName ++ "." ++ "valueOf" ++ "(" = kind.boxedName ++ ".valueOf(" := by
    rw [String.append_assoc, String.append_assoc]
    rfl
  have whole := WritesOperand.call isClass (by decide) shape closed (ArgsRead.one reads)
  rw [← String.append_assoc] at whole
  exact whole.writes

/-- The read of a scalar or a string, with a null test where the field is nullable. -/
theorem writes_scalarOf {nullable : Bool} {className read boxed : String} {e f : Expr}
    (isWord : IsWord className) (written : Writes read e) (writtenBoxed : Writes boxed f) :
    Writes (if nullable then readUnlessNull className boxed else read) (scalarOf nullable e f) := by
  cases nullable with
  | false => exact written
  | true => exact writes_readUnlessNull isWord writtenBoxed

/-! ### The lines of statements -/

theorem spelled_logged {steps : List Step} {body : List Stmt} (spelled : Spelled steps body) :
    Spelled (whenLogging debugLogs steps) (logged debugLogs body) := by
  cases debugLogs with
  | false => exact .nil
  | true => exact spelled

/-- A log statement, by the text of its arguments with the parenthesis behind them. -/
theorem spelled_log {text : String} {args : List Expr} {ts : List Token} (nonempty : args ≠ [])
    (closed : Closed (text ++ ")") ts) (read : ArgsRead args ts) :
    Spelled [logStep text] [logStmt args] := by
  have opening : Closed "LOGGER.log(Level.FINE, "
      (pathTokens ["LOGGER", "log"] ++
        Token.sign '(' :: (pathTokens ["Level", "FINE"] ++ [Token.sign ','])) := rfl
  have isLogger : IsIdentifier "LOGGER" :=
    isIdentifier_of_mem_reservedLocals _ (by simp [reservedLocals])
  have isLevel : IsIdentifier "Level" :=
    isIdentifier_of_mem_reservedLocals _ (by simp [reservedLocals])
  have level : OperandReads (.name ["Level", "FINE"]) (pathTokens ["Level", "FINE"]) :=
    OperandReads.ofPath (by simp) (by simp [ofPath?, beginsReserved_cons isLevel.free])
  have reads := StmtReads.exec ["log"] isLogger.free (ArgsRead.more level.expr read nonempty)
  have whole := (opening.append closed).spells
  rw [← String.append_assoc] at whole
  exact .statement whole (by simpa [logStmt] using reads)

theorem spelled_logText (text : String) :
    Spelled [logStep (stringLiteral text)] [logStmt [.literal text]] := by
  have closing : Closed ")" [.sign ')'] := by decide
  exact spelled_log (by simp) ((closed_stringLiteral text).append closing)
    (ArgsRead.one (OperandReads.literal text).expr)

theorem spelled_logName (text : String) {x : String} (isIdentifier : IsIdentifier x) :
    Spelled [logStep (stringLiteral text ++ ", " ++ x)] [logStmt [.literal text, .name [x]]] := by
  have comma : Closed ", " [.sign ','] := by decide
  have closing : Closed ")" [.sign ')'] := by decide
  have closed := (((closed_stringLiteral text).append comma).append_spells
    isIdentifier.spells).append_closed closing (breaks_of_head (by decide))
  have read := ArgsRead.more (OperandReads.literal text).expr
    (ArgsRead.one (operandReads_name isIdentifier).expr) (by simp)
  exact spelled_log (by simp) closed (by simpa using read)

theorem spelled_readerCall {method text : String} (isWord : IsWord method)
    (shape : "reader." ++ method ++ "()" = text) :
    Spelled [.statement text] [.exec (readerCall method)] := by
  subst shape
  have owner : Closed "reader." [.word "reader", .sign '.'] := by decide
  have parens : Closed "()" [.sign '(', .sign ')'] := by decide
  have closed := (owner.append_spells isWord.spells).append_closed parens
    (breaks_of_head (by decide))
  have reads := StmtReads.exec [method] isIdentifier_reader.free .nil
  exact .statement closed.spells (by simpa [pathTokens, readerCall] using reads)

/-- A value set to a local. -/
theorem spelled_assign {x text : String} {value : Expr} (isIdentifier : IsIdentifier x)
    (written : Writes text value) :
    Spelled [.statement (x ++ " = " ++ text)] [.assign x value] := by
  obtain ⟨ts, spells, reads⟩ := written
  have equals : Closed " = " [.sign '='] := by decide
  have front := isIdentifier.spells.append_closed equals (breaks_of_head (by decide))
  have whole := front.append_spells spells
  exact .statement whole (by simpa using StmtReads.assign isIdentifier.free reads)

/-- A local declared of a type. -/
theorem spelled_declare {type x text : String} {value : Expr} (spelled : SpellsType type)
    (isIdentifier : IsIdentifier x) (written : Writes text value) :
    Spelled [.statement (type ++ " " ++ x ++ " = " ++ text)] [.declare x value] := by
  obtain ⟨types, last, spellsType, areTypes, noDot⟩ := spelled
  obtain ⟨ts, spells, reads⟩ := written
  have space : Closed " " [] := by decide
  have equals : Closed " = " [.sign '='] := by decide
  have front := (spellsType.append_closed space (breaks_of_head (by decide))).append_spells
    isIdentifier.spells
  have whole := (front.append_closed equals (breaks_of_head (by decide))).append_spells spells
  exact .statement whole (by simpa using StmtReads.declare areTypes noDot isIdentifier.free reads)

/-! ### The read of a field -/

/-- Fields read through an adapter are read through the one of their type. -/
theorem eq_of_select_eq_delegated {typeName : String} {field : Field} {type : TypeDescriptor}
    {expr : TypeExpr}
    (selected : DecodeStrategy.select typeName field = .ok (.delegated type expr)) :
    type = field.type ∧ expr = TypeExpr.ofType field.type := by
  unfold DecodeStrategy.select at selected
  split at selected
  · split at selected <;> simp at selected
  · split at selected <;> simp at selected
  · simp at selected
  · simp at selected
  · simpa [eq_comm] using selected

theorem wellFormed_toBoxed {type : TypeDescriptor} (wellFormed : WellFormed false type) :
    WellFormed false type.toBoxed := by
  cases wellFormed with
  | primitive kind => exact .boxed kind
  | boxed kind => exact .boxed kind
  | string => exact .string
  | reference valid args => exact .reference valid args
  | array component => exact .array component

/-- The declared type of an adapter. -/
theorem spellsType_adapter {type : String} (spelled : SpellsType type) :
    SpellsType ("final JsonAdapter<" ++ type ++ ">") := by
  obtain ⟨ts, last, spells, areTypes, -⟩ := spelled
  have opening : Closed "final JsonAdapter<" [.word "final", .word "JsonAdapter", .sign '<'] :=
    rfl
  have closing : Closed ">" [.sign '>'] := by decide
  have whole := (opening.append_spells spells).append_closed closing (breaks_of_head (by decide))
  have alsoTypes : ∀ t ∈ [Token.word "final", .word "JsonAdapter", .sign '<'] ++ (ts ++ [last]) ++
      [Token.sign '>'], isTypeToken t = true :=
    List.forall_mem_append.mpr ⟨List.forall_mem_append.mpr ⟨by decide, areTypes⟩, by decide⟩
  exact ⟨_, .sign '>', whole.spells, alsoTypes, by decide⟩

theorem writes_adapterCall {e : TypeExpr} (named : Named e) :
    Writes ("moshi.adapter(" ++ e.render ++ ")") (.call ["moshi", "adapter"] [ofTypeExpr e]) := by
  obtain ⟨ts, spells, reads⟩ := named.writes
  have isMoshi : IsIdentifier "moshi" :=
    isIdentifier_of_mem_reservedLocals _ (by simp [reservedLocals])
  have closing : Closed ")" [.sign ')'] := by decide
  have closed := spells.append_closed closing (breaks_of_head (by decide))
  have whole := WritesOperand.call isMoshi (show IsWord "adapter" by decide) rfl closed
    (ArgsRead.one reads)
  rw [← String.append_assoc] at whole
  exact whole.writes

theorem writes_fromJson :
    Writes "_adapter.fromJson(reader)" (.call ["_adapter", "fromJson"] [.name ["reader"]]) := by
  have closed : Closed "reader)" [.word "reader", .sign ')'] := by decide
  have read := ArgsRead.one (operandReads_name isIdentifier_reader).expr
  exact (WritesOperand.call isIdentifier_adapter (show IsWord "fromJson" by decide) rfl closed
    read).writes

/-- The lines that read a field spell the statements that read it. -/
theorem spelled_readSteps {typeName : String} {p : FieldPlan} {x : String}
    (isIdentifier : IsIdentifier x) (wellFormed : WellFormed false p.field.type)
    (planned : DecodeStrategy.select typeName p.field = .ok p.strategy) :
    Spelled (readSteps p x debugLogs) (readStmts p x debugLogs) := by
  unfold readSteps readStmts
  cases strategy : p.strategy with
  | primitive kind method narrowTo =>
      have isWord : IsWord kind.boxedName := by cases kind <;> decide
      have read := (writes_scalarRead method narrowTo).writes
      exact spelled_assign isIdentifier (writes_scalarOf isWord read (writes_valueOf kind read))
  | string =>
      have read := (writes_readerCall (show IsWord "nextString" by decide)).writes
      exact spelled_assign isIdentifier (writes_scalarOf (by decide) read read)
  | delegated type expr =>
      rw [strategy] at planned
      obtain ⟨rfl, rfl⟩ := eq_of_select_eq_delegated planned
      have type := spellsType_adapter (spellsType_render (wellFormed_toBoxed wellFormed))
      have declared := spelled_declare type isIdentifier_adapter
        (writes_adapterCall (named_ofType wellFormed))
      have read := spelled_assign isIdentifier writes_fromJson
      have found := spelled_logged debugLogs
        (spelled_logName "\tGot delegate adapter: \x7b0\x7d" isIdentifier_adapter)
      have got := spelled_logged debugLogs
        (spelled_logName "\tGot model data: \x7b0\x7d" isIdentifier)
      have whole := Spelled.block (((declared.append found).append read).append got)
      have split (rest : String) : "> _adapter = moshi.adapter(" ++ rest =
          "> _adapter = " ++ ("moshi.adapter(" ++ rest) := by
        rw [← String.append_assoc]
        rfl
      simpa [split, String.append_assoc] using whole

/-! ### The whole decoder -/

theorem spelled_arm {typeName : String} {p : FieldPlan} {locals : List (String × String)}
    (isIdentifier : IsIdentifier (localOf locals p.field))
    (wellFormed : WellFormed false p.field.type)
    (planned : DecodeStrategy.select typeName p.field = .ok p.strategy) :
    Spelled (armSteps locals debugLogs p) (armStmts locals debugLogs p) := by
  have case : Closed "case " [.word "case"] := by decide
  have colon : Closed ":" [.sign ':'] := by decide
  have label : Spelled [.line ("case " ++ stringLiteral p.field.jsonName ++ ":")]
      [.label (some p.field.jsonName)] :=
    .line ((case.append (closed_stringLiteral p.field.jsonName)).append colon)
      (StmtReads.caseLabel p.field.jsonName)
  have isWord : IsWord "break" := by decide
  have broken : Spelled [.statement "break"] [.breakOut] := .statement isWord.spells .breakOut
  have read := spelled_readSteps debugLogs isIdentifier wellFormed planned
  exact label.append (read.append broken).indented

theorem spelled_require {locals : List (String × String)} {field : Field}
    (isIdentifier : IsIdentifier (localOf locals field)) :
    Spelled (requireSteps locals field) [requireStmt locals field] := by
  have create : Closed "throw new IOException(" [.word "throw", .word "new", .word "IOException",
      .sign '('] := rfl
  have closing : Closed ")" [.sign ')'] := by decide
  have message := (create.append (closed_stringLiteral (missingFieldMessage field.jsonName))).append
    closing
  have created : ExprReads (.create (Text.join "." ["IOException"])
      [.literal (missingFieldMessage field.jsonName)])
      (.word "new" :: pathTokens ["IOException"] ++ Token.sign '(' ::
        [.literal (missingFieldMessage field.jsonName), .sign ')']) :=
    (OperandReads.create (by simp) (ArgsRead.one (OperandReads.literal _).expr)).expr
  have throws := StmtReads.throwing created ⟨_, _, rfl, by simp⟩
  have body : Spelled [.statement ("throw new IOException(" ++
      stringLiteral (missingFieldMessage field.jsonName) ++ ")")]
      [.throwing (.create "IOException" [.literal (missingFieldMessage field.jsonName)])] :=
    .statement message.spells (by simpa [pathTokens, Text.join] using throws)
  have opening : Closed "if (" [.word "if", .sign '('] := by decide
  have test : Closed " == null)" [.equal, .word "null", .sign ')'] := by decide
  have header := (opening.append_spells isIdentifier.spells).append_closed test
    (breaks_of_head (by decide))
  refine Spelled.flow (fun empty => ?_) header.spells body fun ts read => ?_
  · have head := congrArg (fun s => s.toList.head?) empty
    simp at head
  · have reads := StmtReads.ifThen
      (ExprReads.same (operandReads_name isIdentifier) operandReads_null) (StmtReads.block read)
    simpa [requireStmt] using reads

theorem spelled_declareField {locals : List (String × String)} {field : Field}
    (isIdentifier : IsIdentifier (localOf locals field))
    (wellFormed : WellFormed false field.type) :
    Spelled [declareStep locals field] [declareStmt locals field] := by
  have spelled := spelled_declare (spellsType_render (wellFormed_toBoxed wellFormed)) isIdentifier
    ⟨_, (show IsWord "null" by decide).spells, operandReads_null.expr⟩
  have split : " = null" = " = " ++ "null" := by decide
  simpa [declareStep, declareStmt, split, String.append_assoc] using spelled

theorem spelled_switch {locals : List (String × String)}
    (isIdentifier : ∀ p ∈ plan.fields, IsIdentifier (localOf locals p.field))
    (sound : SoundPlan plan) :
    Spelled
      (flow "switch (_name)" (plan.fields.flatMap (armSteps locals debugLogs) ++
        Step.line "default:" :: indented [.statement "reader.skipValue()"]))
      [.switchOn (.name ["_name"]) (switchBody locals debugLogs plan)] := by
  have arms : Spelled (plan.fields.flatMap (armSteps locals debugLogs))
      (plan.fields.flatMap (armStmts locals debugLogs)) :=
    .flatMap fun p found =>
      spelled_arm debugLogs (isIdentifier p found) (sound.types p found) (sound.planned p found)
  have closed : Closed "default:" [.word "default", .sign ':'] := by decide
  have label : Spelled [.line "default:"] [.label none] := .line closed .defaultLabel
  have skip : Spelled [.statement "reader.skipValue()"] [.exec (readerCall "skipValue")] :=
    spelled_readerCall (show IsWord "skipValue" by decide) rfl
  have header : Closed "switch (_name)" [.word "switch", .sign '(', .word "_name", .sign ')'] := by
    decide
  have body := arms.append (label.append skip.indented)
  refine Spelled.flow (by decide) header.spells body fun ts read => ?_
  simpa [switchBody] using StmtReads.switchOn (operandReads_name isIdentifier_name).expr read

theorem spelled_loop {locals : List (String × String)}
    (isIdentifier : ∀ p ∈ plan.fields, IsIdentifier (localOf locals p.field))
    (sound : SoundPlan plan) :
    Spelled
      (flow "while (reader.hasNext())"
        ([Step.statement "final String _name = reader.nextName()"] ++
          whenLogging debugLogs [logStep (stringLiteral "\tGot name: \x7b0\x7d" ++ ", _name")] ++
          flow "switch (_name)" (plan.fields.flatMap (armSteps locals debugLogs) ++
            Step.line "default:" :: indented [.statement "reader.skipValue()"])))
      [.whileLoop (readerCall "hasNext") (.block (entryBody locals debugLogs plan))] := by
  have front : Closed "final " [.word "final"] := by decide
  have spells := front.append_spells (show IsWord "String" by decide).spells
  have joined : "final " ++ "String" = "final String" := rfl
  rw [joined] at spells
  have type : SpellsType "final String" :=
    ⟨[.word "final"], .word "String", spells, by decide, by decide⟩
  have declared : Spelled [.statement "final String _name = reader.nextName()"]
      [.declare "_name" (readerCall "nextName")] := by
    have text : "final String _name = reader.nextName()" =
        "final String" ++ " " ++ "_name" ++ " = " ++ ("reader." ++ "nextName" ++ "()") := rfl
    rw [text]
    exact spelled_declare type isIdentifier_name
      (writes_readerCall (show IsWord "nextName" by decide)).writes
  have named := spelled_logged debugLogs
    (spelled_logName "\tGot name: \x7b0\x7d" isIdentifier_name)
  have body := (declared.append named).append
    (spelled_switch debugLogs isIdentifier sound)
  have hasNext : OperandReads (readerCall "hasNext")
      (pathTokens ["reader", "hasNext"] ++ [Token.sign '(', .sign ')']) :=
    OperandReads.call (by simp) (beginsReserved_cons isIdentifier_reader.free _) .nil
  have header : Closed "while (reader.hasNext())" (.word "while" :: .sign '(' ::
      (pathTokens ["reader", "hasNext"] ++ [Token.sign '(', .sign ')'] ++ [Token.sign ')'])) :=
    rfl
  refine Spelled.flow (by decide) header.spells body fun ts read => ?_
  simpa [entryBody] using StmtReads.whileLoop hasNext.expr (StmtReads.block read)

/-- The text of local names as arguments, up to and with the closing parenthesis. -/
theorem closed_names {xs : List String} (isIdentifier : ∀ x ∈ xs, IsIdentifier x) :
    ∃ ts, Closed (Text.join ", " xs ++ ")") ts ∧ ArgsRead (xs.map fun x => .name [x]) ts := by
  have closing : Closed ")" [.sign ')'] := by decide
  induction xs with
  | nil => exact ⟨_, closing, .nil⟩
  | cons x xs ih =>
      obtain ⟨first, others⟩ := List.forall_mem_cons.mp isIdentifier
      have reads := (operandReads_name first).expr
      cases xs with
      | nil =>
          exact ⟨_, first.spells.append_closed closing (breaks_of_head (by decide)), .one reads⟩
      | cons next xs =>
          obtain ⟨ts, closed, read⟩ := ih others
          have comma : Closed ", " [.sign ','] := by decide
          have breaks : Breaks (", " ++ (Text.join ", " (next :: xs) ++ ")")).toList := by
            rw [String.toList_append]
            exact (breaks_of_head (by decide)).append _
          refine ⟨[Token.word x] ++ Token.sign ',' :: ts, ?_, ArgsRead.more reads read (by simp)⟩
          simpa [Text.join, String.append_assoc] using
            first.spells.append_closed (comma.append closed) breaks

theorem spelled_return {name : String} {xs : List String} (isQualified : IsQualifiedName name)
    (isIdentifier : ∀ x ∈ xs, IsIdentifier x) :
    Spelled [.statement ("return new " ++ name ++ "(" ++ Text.join ", " xs ++ ")")]
      [.returning (.create name (xs.map fun x => .name [x]))] := by
  obtain ⟨ts, closed, read⟩ := closed_names isIdentifier
  have nonempty := Text.splitAt_ne_nil '.' name
  have spells := spells_path nonempty fun w found => (isQualified w found).toIsWord
  have created := (OperandReads.create nonempty read).expr
  rw [Text.join_splitAt] at spells created
  have front : Closed "return new " [.word "return", .word "new"] := by decide
  have opening : Closed "(" [.sign '('] := by decide
  have whole := ((front.append_spells spells).append_closed opening
    (breaks_of_head (by decide))).append closed
  have areTypes : ∀ t ∈ .word "new" :: pathTokens (Text.splitAt '.' name), isTypeToken t = true :=
    List.forall_mem_cons.mpr ⟨rfl, isTypeToken_of_mem_pathTokens⟩
  have parenthesis : SetsNothing (.sign '(' :: ts) := ⟨_, _, rfl, by simp⟩
  have nothing := (setsNothing_append_iff areTypes).mpr parenthesis
  have reads := StmtReads.returning created nothing
  refine .statement (by simpa [String.append_assoc] using whole.spells) ?_
  simpa using reads

theorem spelled_declares {locals : List (String × String)}
    (isIdentifier : ∀ p ∈ plan.fields, IsIdentifier (localOf locals p.field))
    (sound : SoundPlan plan) :
    Spelled ((plan.fields.map (·.field)).map (declareStep locals))
      ((plan.fields.map (·.field)).map (declareStmt locals)) := by
  rw [List.map_eq_flatMap (f := declareStep _), List.map_eq_flatMap (f := declareStmt _)]
  refine .flatMap fun field found => ?_
  obtain ⟨p, isPlan, rfl⟩ := List.mem_map.mp found
  exact spelled_declareField (isIdentifier p isPlan) (sound.types p isPlan)

theorem spelled_requires {locals : List (String × String)}
    (isIdentifier : ∀ p ∈ plan.fields, IsIdentifier (localOf locals p.field)) :
    Spelled (plan.requiredFields.flatMap (requireSteps locals))
      (plan.requiredFields.map (requireStmt locals)) := by
  rw [List.map_eq_flatMap (f := requireStmt _)]
  refine .flatMap fun field found => ?_
  obtain ⟨p, isPlan, rfl⟩ := List.mem_map.mp (List.mem_filter.mp found).1
  exact spelled_require (isIdentifier p isPlan)

/-- The lines of a decoder spell its program. -/
theorem spelled_decoder (sound : SoundPlan plan) :
    Spelled (decoderSteps plan.target plan debugLogs)
      (decoderProgram plan.target plan debugLogs) := by
  have isIdentifier (p : FieldPlan) (found : p ∈ plan.fields) :=
    sound.isIdentifier_localOf (List.mem_map_of_mem found)
  unfold decoderSteps decoderProgram
  dsimp only
  generalize localNames plan.target (plan.fields.map (·.field)) = locals at isIdentifier ⊢
  have quoted : "\"Reading json\"" = stringLiteral "Reading json" := rfl
  have reading := spelled_logged debugLogs (spelled_logText "Reading json")
  have begun := spelled_readerCall (show IsWord "beginObject" by decide) rfl
  have looped := spelled_loop debugLogs isIdentifier sound
  have ended := spelled_readerCall (show IsWord "endObject" by decide) rfl
  have returned := spelled_return sound.target
    (List.forall_mem_map.mpr (List.forall_mem_map.mpr isIdentifier))
  have whole := (((((reading.append (spelled_declares isIdentifier sound)).append begun).append
    looped).append ended).append (spelled_requires isIdentifier)).append returned
  rw [quoted]
  simpa [Function.comp_def] using whole

end AdapterGen.Emission
