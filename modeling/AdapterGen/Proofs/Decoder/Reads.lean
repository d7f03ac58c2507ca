import AdapterGen.Proofs.Decoder.Program
import AdapterGen.Proofs.Decoder.Reference

/-!
# The reads of a decoder

What the expressions and the arms of a decoder do when they run: a read sets the
local of its field to what the read gives, and changes no other.

## Implementation notes

`Holds` is the invariant of the whole run. It says what each name of the body
denotes, so that no local hides another or a name the body refers to.

-/

namespace AdapterGen.Emission

open Code Java

variable {J α ε : Type} (world : World J α ε)

/-! ### What the names denote -/

/-- The classes that the body names. -/
def classNames : List String :=
  ["Level", "Types", "JsonReader"] ++ PrimitiveKind.all.map (·.boxedName)

/-- The members of the class that the body refers to. -/
structure Members (debugLogs : Bool) (members : Locals α) : Prop where
  moshi : members "moshi" = some .moshi
  logger : debugLogs = true → members "LOGGER" = some .logger
  classes : ∀ x ∈ classNames, members x = none

/-- The locals of different fields are apart, and are no reserved names. -/
structure Apart (plan : DecodePlan) (locals : List (String × String)) : Prop where
  free : ∀ p ∈ plan.fields, localOf locals p.field ∉ reservedLocals
  same_iff : ∀ p ∈ plan.fields, ∀ q ∈ plan.fields,
    localOf locals p.field = localOf locals q.field ↔ p.field.jsonName = q.field.jsonName

/-- The locals of the fields have given values by key, and the names that the body refers to
denote what it means by them. -/
structure Holds (plan : DecodePlan) (locals : List (String × String)) (values : String → Option α)
    (name adapter : Option (Value α)) (env : Locals α) : Prop where
  field : ∀ p ∈ plan.fields,
    env (localOf locals p.field) = some (.ofOption (values p.field.jsonName))
  reader : env "reader" = some .reader
  name : env "_name" = name
  adapter : env "_adapter" = adapter
  others : ∀ x ∈ ["moshi", "LOGGER"] ++ classNames, env x = none

section

variable {plan : DecodePlan} {locals : List (String × String)} {values : String → Option α}
  {name adapter : Option (Value α)} {env : Locals α}

/-- The names that the body refers to, besides those it declares. -/
def otherNames : List String := "reader" :: (["moshi", "LOGGER"] ++ classNames)

theorem mem_reservedLocals_of_mem_otherNames {x : String} (found : x ∈ otherNames) :
    x ∈ reservedLocals := by
  have all : ∀ y ∈ otherNames, y ∈ reservedLocals := by decide +kernel
  exact all x found

theorem name_mem_reservedLocals : "_name" ∈ reservedLocals := by simp [reservedLocals]

theorem adapter_mem_reservedLocals : "_adapter" ∈ reservedLocals := by simp [reservedLocals]

/-- Setting the local of a field sets the value of its key alone. -/
theorem Holds.assign (holds : Holds plan locals values name adapter env) (apart : Apart plan locals)
    {p : FieldPlan} (isPlan : p ∈ plan.fields) (value : Option α) :
    Holds plan locals (fun key => if key = p.field.jsonName then value else values key) name adapter
      (env.set (localOf locals p.field) (.ofOption value)) := by
  have other {x : String} (isReserved : x ∈ reservedLocals) :
      env.set (localOf locals p.field) (.ofOption value) x = env x :=
    if_neg fun same : x = localOf locals p.field => apart.free p isPlan (same ▸ isReserved)
  refine ⟨fun q isField => ?_, ?_, ?_, ?_, fun x found => ?_⟩
  · by_cases own : q.field.jsonName = p.field.jsonName
    · simp [Locals.set, own, (apart.same_iff q isField p isPlan).mpr own]
    · have different : localOf locals q.field ≠ localOf locals p.field :=
        mt (apart.same_iff q isField p isPlan).mp own
      simp [Locals.set, own, different, holds.field q isField]
  · rw [other (mem_reservedLocals_of_mem_otherNames List.mem_cons_self), holds.reader]
  · rw [other name_mem_reservedLocals, holds.name]
  · rw [other adapter_mem_reservedLocals, holds.adapter]
  · rw [other (mem_reservedLocals_of_mem_otherNames (List.mem_cons_of_mem _ found)),
      holds.others x found]

/-- A reserved name that is declared denotes its value, and all other names keep theirs. -/
theorem Holds.declare (holds : Holds plan locals values name adapter env)
    (apart : Apart plan locals) {x : String} (isReserved : x ∈ reservedLocals)
    (isNew : x ∉ otherNames) (value : Value α) :
    Holds plan locals values (env.set x value "_name") (env.set x value "_adapter")
      (env.set x value) := by
  have other {y : String} (different : y ≠ x) : env.set x value y = env y := if_neg different
  refine ⟨fun p isPlan => ?_, ?_, rfl, rfl, fun y found => ?_⟩
  · have noLocal : localOf locals p.field ≠ x := fun same =>
      apart.free p isPlan (same ▸ isReserved)
    rw [other noLocal, holds.field p isPlan]
  · have notReader : "reader" ≠ x := fun same => isNew (same ▸ List.mem_cons_self)
    rw [other notReader, holds.reader]
  · have different : y ≠ x := fun same => isNew (same ▸ List.mem_cons_of_mem _ found)
    rw [other different, holds.others y found]

theorem Holds.declareName (holds : Holds plan locals values name adapter env)
    (apart : Apart plan locals) (value : Value α) :
    Holds plan locals values (some value) adapter (env.set "_name" value) := by
  have isNew : "_name" ∉ otherNames := by
    simp [otherNames, classNames, PrimitiveKind.all, PrimitiveKind.boxedName]
  simpa [Locals.set, holds.adapter] using holds.declare apart name_mem_reservedLocals isNew value

theorem Holds.declareAdapter (holds : Holds plan locals values name adapter env)
    (apart : Apart plan locals) (value : Value α) :
    Holds plan locals values name (some value) (env.set "_adapter" value) := by
  have isNew : "_adapter" ∉ otherNames := by
    simp [otherNames, classNames, PrimitiveKind.all, PrimitiveKind.boxedName]
  simpa [Locals.set, holds.name] using holds.declare apart adapter_mem_reservedLocals isNew value

/-- Behind a scope, the locals of the fields keep what they got in it, and what was declared in
it is gone. -/
theorem Holds.leave {others : String → Option α} {innerName innerAdapter : Option (Value α)}
    {inner : Locals α} (outer : Holds plan locals others name adapter env)
    (holds : Holds plan locals values innerName innerAdapter inner) :
    Holds plan locals values (name.bind fun _ => innerName) (adapter.bind fun _ => innerAdapter)
      (env.leave inner) where
  field p isPlan := by simp [Locals.leave, outer.field p isPlan, holds.field p isPlan]
  reader := by simp [Locals.leave, outer.reader, holds.reader]
  name := by simp [Locals.leave, outer.name, holds.name]
  adapter := by simp [Locals.leave, outer.adapter, holds.adapter]
  others x found := by simp [Locals.leave, outer.others x found]

/-- What evaluation needs of the names. -/
structure Sees (debugLogs : Bool) (scope : Locals α) : Prop where
  reader : scope "reader" = some .reader
  moshi : scope "moshi" = some .moshi
  logger : debugLogs = true → scope "LOGGER" = some .logger
  classes : ∀ x ∈ classNames, scope x = none

theorem Holds.sees {debugLogs : Bool} {members : Locals α} (isMember : Members debugLogs members)
    (holds : Holds plan locals values name adapter env) : Sees debugLogs (seen members env) where
  reader := by simp [seen, holds.reader]
  moshi := by simp [seen, holds.others "moshi" (by simp), isMember.moshi]
  logger logs := by simp [seen, holds.others "LOGGER" (by simp), isMember.logger logs]
  classes x found := by
    simp [seen, holds.others x (List.mem_append_right _ found), isMember.classes x found]

end

/-! ### Expressions -/

section

variable {debugLogs : Bool} {scope : Locals α}

theorem eval_readerCall (sees : Sees debugLogs scope) (method : String) (cursor : Cursor J) :
    eval world scope (readerCall method) cursor = callReader world method cursor := by
  have noArguments : evalAll world scope [] cursor = .ok ([], cursor) := rfl
  exact (eval_call _ noArguments).trans (callPath_variable sees.reader method [] cursor)

theorem callReader_scalar (method : ReadMethod) (value : J) (rest : List (String × J)) :
    callReader world method.name (.atValue value rest) =
      deliver rest (world.scalar method value) := by
  have known := readMethod?_name method
  have other : method.name ≠ "peek" ∧ method.name ≠ "skipValue" ∧ method.name ≠ "nextNull" := by
    cases method <;> decide
  simp [callReader, known, other]

theorem eval_scalarExpr (sees : Sees debugLogs scope) (method : ReadMethod)
    (narrowTo : Option PrimitiveKind) (value : J) (rest : List (String × J)) :
    eval world scope (scalarExpr method narrowTo) (.atValue value rest) =
      deliver rest (narrowed world method narrowTo value) := by
  have read := eval_readerCall world sees method.name (.atValue value rest)
  rw [callReader_scalar] at read
  cases narrowTo with
  | none => exact read
  | some kind =>
      have run : eval world scope (scalarExpr method (some kind)) (.atValue value rest) =
          (eval world scope (readerCall method.name) (.atValue value rest)).bind fun result =>
            (castValue world kind result.1).map (·, result.2) := rfl
      rw [run, read, narrowed]
      cases world.scalar method value with
      | error cause => rfl
      | ok a => cases a <;> rfl

/-- The null test reads a null value as null, and leaves any other value to the read behind it. -/
theorem eval_unlessNull (sees : Sees debugLogs scope) (e : Expr) (value : J)
    (rest : List (String × J)) :
    eval world scope (unlessNull e) (.atValue value rest) =
      if world.peek value = "NULL" then .ok (.null, .inside rest)
      else eval world scope e (.atValue value rest) := by
  have peek := eval_readerCall world sees "peek" (.atValue value rest)
  have next := eval_readerCall world sees "nextNull" (.atValue value rest)
  have token : eval world scope (.name ["JsonReader", "Token", "NULL"]) (.atValue value rest) =
      .ok (.constant ["JsonReader", "Token", "NULL"], .atValue value rest) :=
    eval_constant (sees.classes "JsonReader" (by simp [classNames])) _
  have compared : (sameValue (.constant ["JsonReader", "Token", world.peek value])
      (.constant ["JsonReader", "Token", "NULL"]) : Except (Trouble ε) (Value α)) =
      .ok (.truth (world.peek value == "NULL")) := by
    simp [sameValue]
  rw [unlessNull, eval_choose _ _ (eval_same peek token compared), next]
  by_cases isNull : world.peek value = "NULL"
  · simp [isNull, callReader]
  · simp [isNull]

theorem eval_valueOf (sees : Sees debugLogs scope) (kind : PrimitiveKind) (e : Expr)
    (cursor : Cursor J) :
    eval world scope (.call [kind.boxedName, "valueOf"] [e]) cursor =
      eval world scope e cursor := by
  have noVariable := sees.classes kind.boxedName
    (List.mem_append_right _ (List.mem_map_of_mem kind.mem_all))
  have isBoxed : PrimitiveKind.all.any (·.boxedName == kind.boxedName) = true := by
    cases kind <;> decide
  cases evaluated : eval world scope e cursor with
  | error trouble =>
      have run : eval world scope (.call [kind.boxedName, "valueOf"] [e]) cursor =
          ((eval world scope e cursor).bind fun result => .ok ([result.1], result.2)).bind
            fun results =>
              callPath world scope [kind.boxedName, "valueOf"] results.1 results.2 := rfl
      rw [run, evaluated]
      rfl
  | ok result =>
      rw [eval_call _ (evalAll_one evaluated), callPath_class noVariable]
      simp [callStatic, isBoxed, Except.map]

theorem eval_scalarOf (sees : Sees debugLogs scope) (p : FieldPlan) {read boxed : Expr}
    {value : J} {rest : List (String × J)} {result : Except ε (Option α)}
    (reads : eval world scope read (.atValue value rest) = deliver rest result)
    (readsBoxed : eval world scope boxed (.atValue value rest) = deliver rest result) :
    eval world scope (scalarOf p.field.nullable read boxed) (.atValue value rest) =
      deliver rest (p.unlessNull world value result) := by
  unfold scalarOf FieldPlan.unlessNull
  cases p.field.nullable with
  | false => simpa using reads
  | true =>
      simp only [if_true, true_and]
      rw [eval_unlessNull world sees, readsBoxed]
      split <;> rfl

end

/-! ### The read of a field -/

/-- A run that raises the exception of a failure, if there is one, and else goes on to the next
statement from a state of some kind. -/
def Steps (failure : Option ε) (after : State α J → Prop)
    (run : Except (Trouble ε) (Flow α × State α J)) : Prop :=
  match failure with
  | some cause => run = .error (.raised cause)
  | none => ∃ state, after state ∧ run = .ok (.next, state)

section

variable {plan : DecodePlan} {locals : List (String × String)} {values : String → Option α}
  {name : Value α} {env members : Locals α} {debugLogs : Bool} (limit : Nat)

/-- A call of the reader for what it does to the reader. -/
theorem exec_readerCall (sees : Sees debugLogs (seen members env)) (method : String)
    (cursor : Cursor J) {after : Cursor J} {value : Value α}
    (called : callReader world method cursor = .ok (value, after)) :
    exec world members limit (.exec (readerCall method)) ⟨env, cursor⟩ =
      .ok (.next, ⟨env, after⟩) :=
  exec_exec ((eval_readerCall world sees method cursor).trans called)

/-- Log statements leave the state as it is. -/
theorem execAll_logged {args : List Expr} {results : List (Value α)} {cursor : Cursor J}
    (sees : Sees debugLogs (seen members env))
    (evaluated : evalAll world (seen members env) args cursor = .ok (results, cursor)) :
    execAll world members limit none (logged debugLogs [logStmt args]) ⟨env, cursor⟩ =
      .ok (.next, ⟨env, cursor⟩) := by
  cases debugLogs with
  | false => rfl
  | true =>
      have level : eval world (seen members env) (.name ["Level", "FINE"]) cursor =
          .ok (.constant ["Level", "FINE"], cursor) :=
        eval_constant (sees.classes "Level" (by simp [classNames])) cursor
      have called := (eval_call ["LOGGER", "log"] (evalAll_cons level evaluated)).trans
        (callPath_variable (sees.logger rfl) "log" _ cursor)
      rw [logged, if_pos rfl, execAll_single]
      exact exec_exec called

/-- The value of a variable, logged behind a text. -/
theorem evalAll_logged (text : String) {x : String} {value : Value α} (cursor : Cursor J)
    (isVariable : seen members env x = some value) :
    evalAll world (seen members env) [.literal text, .name [x]] cursor =
      .ok ([.text text, value], cursor) :=
  evalAll_cons rfl (evalAll_one (eval_name isVariable cursor))

/-- A read set to the local of its field. -/
theorem exec_assignRead {adapter : Option (Value α)}
    (holds : Holds plan locals values (some name) adapter env)
    (apart : Apart plan locals) {p : FieldPlan} (isPlan : p ∈ plan.fields) {e : Expr} {value : J}
    {rest : List (String × J)}
    (reads : eval world (seen members env) e (.atValue value rest) =
      deliver rest (p.read world value)) :
    Steps (p.failure? world value)
      (fun state => state.cursor = .inside rest ∧ Holds plan locals
        (fun key => if key = p.field.jsonName then p.given world value else values key)
        (some name) adapter state.locals)
      (exec world members limit (.assign (localOf locals p.field) e) ⟨env, .atValue value rest⟩) := by
  have isLocal : (env (localOf locals p.field)).isSome = true := by simp [holds.field p isPlan]
  rw [exec_assign isLocal, reads, FieldPlan.failure?]
  simp only [FieldPlan.given]
  cases p.read world value with
  | error cause => rfl
  | ok a => exact ⟨_, ⟨rfl, holds.assign apart isPlan a⟩, rfl⟩

/-- The adapter of a type is found by the type's handle. -/
theorem exec_declareAdapter (isMember : Members debugLogs members)
    (holds : Holds plan locals values (some name) none env) (e : TypeExpr) (cursor : Cursor J) :
    exec world members limit (.declare "_adapter" (.call ["moshi", "adapter"] [ofTypeExpr e]))
      ⟨env, cursor⟩ = .ok (.next, ⟨env.set "_adapter" (.adapter e), cursor⟩) := by
  have sees := holds.sees isMember
  have handle := eval_ofTypeExpr world (sees.classes "Types" (by simp [classNames])) cursor e
  have called := (eval_call ["moshi", "adapter"] (evalAll_one handle)).trans
    (callPath_variable sees.moshi "adapter" _ cursor)
  exact exec_declare holds.adapter called

theorem eval_fromJson {e : TypeExpr} (isMember : Members debugLogs members)
    (holds : Holds plan locals values (some name) (some (.adapter e)) env) (value : J)
    (rest : List (String × J)) :
    eval world (seen members env) (.call ["_adapter", "fromJson"] [.name ["reader"]])
      (.atValue value rest) = deliver rest (world.adapted e value) := by
  have isReader := (holds.sees isMember).reader
  have isAdapter : seen members env "_adapter" = some (.adapter e) := by simp [seen, holds.adapter]
  exact (eval_call _ (evalAll_one (eval_name isReader (.atValue value rest)))).trans
    (callPath_variable isAdapter "fromJson" _ _)

/-- The statements that read a field through an adapter. -/
theorem execAll_delegated (isMember : Members debugLogs members) (apart : Apart plan locals)
    (holds : Holds plan locals values (some name) none env) {p : FieldPlan}
    (isPlan : p ∈ plan.fields) {type : TypeDescriptor} {e : TypeExpr}
    (isDelegated : p.strategy = .delegated type e) (value : J) (rest : List (String × J)) :
    Steps (p.failure? world value)
      (fun state => state.cursor = .inside rest ∧ Holds plan locals
        (fun key => if key = p.field.jsonName then p.given world value else values key)
        (some name) none state.locals)
      (execAll world members limit none (readStmts p (localOf locals p.field) debugLogs)
        ⟨env, .atValue value rest⟩) := by
  have inner := holds.declareAdapter apart (.adapter e)
  have declared := exec_declareAdapter world limit isMember holds e
    (.atValue value rest)
  have isAdapter : seen members (env.set "_adapter" (.adapter e)) "_adapter" =
      some (.adapter e) := by simp [seen, inner.adapter]
  have found := execAll_logged world limit (inner.sees isMember)
    (evalAll_logged world "\tGot delegate adapter: \x7b0\x7d" (.atValue value rest) isAdapter)
  have reads : eval world (seen members (env.set "_adapter" (.adapter e)))
      (.call ["_adapter", "fromJson"] [.name ["reader"]]) (.atValue value rest) =
      deliver rest (p.read world value) := by
    rw [eval_fromJson world isMember inner, FieldPlan.read, isDelegated]
  have assigned := exec_assignRead world limit inner apart isPlan reads
  simp only [readStmts, isDelegated, execAll_single, exec_block, List.singleton_append]
  rw [List.append_assoc, List.cons_append, execAll_cons _ declared, execAll_append _ found]
  unfold Steps at assigned ⊢
  split at assigned
  · rename_i cause _
    rw [List.singleton_append, execAll_cons_error _ assigned]
    rfl
  · obtain ⟨⟨after, cursor⟩, ⟨rfl, afterHolds⟩, ran⟩ := assigned
    have isField := afterHolds.field p isPlan
    simp only [if_true] at isField
    have isLocal : seen members after (localOf locals p.field) =
        some (.ofOption (p.given world value)) := by simp [seen, isField]
    have got := execAll_logged world limit (afterHolds.sees isMember)
      (evalAll_logged world "\tGot model data: \x7b0\x7d" (.inside rest) isLocal)
    rw [List.singleton_append, execAll_cons _ ran, got]
    exact ⟨⟨env.leave after, .inside rest⟩, ⟨rfl, holds.leave afterHolds⟩, rfl⟩

/-- The statements that read a field set its local to what the read gives. -/
theorem execAll_readStmts (isMember : Members debugLogs members) (apart : Apart plan locals)
    (holds : Holds plan locals values (some name) none env) {p : FieldPlan}
    (isPlan : p ∈ plan.fields) (value : J) (rest : List (String × J)) :
    Steps (p.failure? world value)
      (fun state => state.cursor = .inside rest ∧ Holds plan locals
        (fun key => if key = p.field.jsonName then p.given world value else values key)
        (some name) none state.locals)
      (execAll world members limit none (readStmts p (localOf locals p.field) debugLogs)
        ⟨env, .atValue value rest⟩) := by
  have sees := holds.sees isMember
  cases strategy : p.strategy with
  | primitive kind method narrowTo =>
      have read := eval_scalarExpr world sees method narrowTo value rest
      have boxed := eval_valueOf world sees kind (scalarExpr method narrowTo)
        (.atValue value rest)
      have reads := eval_scalarOf world sees p read (boxed.trans read)
      simp only [readStmts, strategy, execAll_single]
      exact exec_assignRead world limit holds apart isPlan (by rw [reads, FieldPlan.read, strategy])
  | string =>
      have read := eval_readerCall world sees "nextString" (.atValue value rest)
      rw [show "nextString" = ReadMethod.nextString.name from rfl, callReader_scalar] at read
      have reads := eval_scalarOf world sees p read read
      simp only [readStmts, strategy, execAll_single]
      exact exec_assignRead world limit holds apart isPlan
        (by rw [FieldPlan.read, strategy]; exact reads)
  | delegated type e =>
      exact execAll_delegated world limit isMember apart holds isPlan strategy value rest

end

end AdapterGen.Emission
