import AdapterGen.Code.ClassDecl
import AdapterGen.DecodePlan
import AdapterGen.Proofs.Java.Statement

/-!
# Running a method that reads JSON

A method runs on locals and on a reader that goes through the entries of one
JSON object. What the reader, the adapters and the casts make of a value is
left open: a world gives a value, null or an exception for each.

## Implementation notes

A run that the language would refuse is stuck: a name declared twice, a label
used twice, an assignment to no local, a method the receiver does not have, or
a call on the reader out of turn. A dotted name whose first segment is a
variable is never taken for a constant or a class. Loops get a limit on their
rounds, and a run that goes on beyond it is exhausted.

-/

namespace AdapterGen.Java

open Code

/-- What code outside the method makes of the values of an object. -/
structure World (J α ε : Type) where
  /-- The name of the token that a value begins with. -/
  peek : J → String
  /-- What a method of the reader gives. -/
  scalar : ReadMethod → J → Except ε (Option α)
  /-- What a cast makes of a scalar. -/
  narrow : PrimitiveKind → α → α
  /-- What the adapter of a type gives. -/
  adapted : TypeExpr → J → Except ε (Option α)

/-- A value of a variable or an expression. -/
inductive Value (α : Type) where
  | null
  | object (a : α)
  | text (s : String)
  | truth (b : Bool)
  | constant (path : List String)
  | handle (type : TypeExpr)
  | adapter (type : TypeExpr)
  | created (type : String) (args : List (Value α))
  | reader
  | moshi
  | logger
  /-- What a method without a result gives. -/
  | nothing
  /-- A value that no method is known of. -/
  | unknown

/-- A value that was read, or null. -/
def Value.ofOption {α : Type} : Option α → Value α
  | none => null
  | some a => object a

/-- Why a run gives no value. -/
inductive Trouble (ε : Type) where
  | raised (cause : ε)
  | ioException (message : String)
  | stuck
  | exhausted

/-- Where the reader stands. -/
inductive Cursor (J : Type) where
  | start (entries : List (String × J))
  | inside (entries : List (String × J))
  | atValue (value : J) (rest : List (String × J))
  | ended

/-- The values of the variables in scope. -/
abbrev Locals (α : Type) := String → Option (Value α)

/-- The locals and the reader. -/
structure State (α J : Type) where
  locals : Locals α
  cursor : Cursor J

/-- How a statement ends. -/
inductive Flow (α : Type) where
  | next
  | broke
  | returned (value : Value α)

/-- The names of the methods that read a scalar. -/
def readMethods : List ReadMethod := [.nextBoolean, .nextInt, .nextLong, .nextDouble, .nextString]

/-- The method of a name. -/
def readMethod? (name : String) : Option ReadMethod := readMethods.find? (·.name == name)

theorem readMethod?_name (method : ReadMethod) : readMethod? method.name = some method := by
  cases method <;> decide

section

variable {J α ε : Type} (world : World J α ε)

/-! ### Calls -/

/-- A value that was read, with the reader behind it. -/
def deliver (rest : List (String × J)) :
    Except ε (Option α) → Except (Trouble ε) (Value α × Cursor J)
  | .ok a => .ok (.ofOption a, .inside rest)
  | .error cause => .error (.raised cause)

/-- A method of the reader. -/
def callReader (method : String) : Cursor J → Except (Trouble ε) (Value α × Cursor J)
  | .start entries =>
      if method = "beginObject" then .ok (.nothing, .inside entries) else .error .stuck
  | .inside entries =>
      match entries with
      | [] =>
          if method = "hasNext" then .ok (.truth false, .inside [])
          else if method = "endObject" then .ok (.nothing, .ended)
          else .error .stuck
      | (key, value) :: rest =>
          if method = "hasNext" then .ok (.truth true, .inside ((key, value) :: rest))
          else if method = "nextName" then .ok (.text key, .atValue value rest)
          else .error .stuck
  | .atValue value rest =>
      if method = "peek" then
        .ok (.constant ["JsonReader", "Token", world.peek value], .atValue value rest)
      else if method = "skipValue" then .ok (.nothing, .inside rest)
      else if method = "nextNull" then
        if world.peek value = "NULL" then .ok (.null, .inside rest) else .error .stuck
      else
        match readMethod? method with
        | some scalar => deliver rest (world.scalar scalar value)
        | none => .error .stuck
  | .ended => .error .stuck

/-- The value that an adapter reads. -/
def callAdapter (type : TypeExpr) : Cursor J → Except (Trouble ε) (Value α × Cursor J)
  | .atValue value rest => deliver rest (world.adapted type value)
  | _ => .error .stuck

/-- A method of an object. -/
def invoke (receiver : Value α) (method : String) (args : List (Value α)) (cursor : Cursor J) :
    Except (Trouble ε) (Value α × Cursor J) :=
  match receiver, args with
  | .reader, [] => callReader world method cursor
  | .moshi, [.handle type] =>
      if method = "adapter" then .ok (.adapter type, cursor) else .error .stuck
  | .adapter type, [.reader] =>
      if method = "fromJson" then callAdapter world type cursor else .error .stuck
  | .logger, _ => if method = "log" then .ok (.nothing, cursor) else .error .stuck
  | _, _ => .error .stuck

/-- The reflective types among values, when all are. -/
def handles? : List (Value α) → Option (List TypeExpr)
  | [] => some []
  | .handle type :: values => (handles? values).map (type :: ·)
  | _ :: _ => none

/-- A method of a class. -/
def callStatic (className method : String) (args : List (Value α)) :
    Except (Trouble ε) (Value α) :=
  if className = "Types" ∧ method = "newParameterizedType" then
    match handles? args with
    | some (.classLiteral raw :: types) => .ok (.handle (.parameterized raw types))
    | _ => .error .stuck
  else if className = "Types" ∧ method = "arrayOf" then
    match args with
    | [.handle type] => .ok (.handle (.arrayOf type))
    | _ => .error .stuck
  else if (PrimitiveKind.all.any (·.boxedName == className)) = true ∧ method = "valueOf" then
    match args with
    | [value] => .ok value
    | _ => .error .stuck
  else .error .stuck

/-- A call by its dotted name. -/
def callPath (scope : Locals α) (path : List String) (args : List (Value α))
    (cursor : Cursor J) : Except (Trouble ε) (Value α × Cursor J) :=
  match path with
  | [owner, method] =>
      match scope owner with
      | some receiver => invoke world receiver method args cursor
      | none => (callStatic owner method args).map (·, cursor)
  | _ => .error .stuck

/-! ### Expressions -/

/-- What a dotted name denotes. -/
def namedValue (scope : Locals α) (path : List String) : Except (Trouble ε) (Value α) :=
  match path with
  | [] => .error .stuck
  | [x] =>
      match scope x with
      | some value => .ok value
      | none => .error .stuck
  | x :: _ =>
      match scope x with
      | some _ => .error .stuck
      | none => .ok (.constant path)

/-- What a cast makes of a value. -/
def castValue (kind : PrimitiveKind) : Value α → Except (Trouble ε) (Value α)
  | .null => .ok .null
  | .object a => .ok (.object (world.narrow kind a))
  | _ => .error .stuck

/-- Whether two values are the same, as far as that is known. -/
def sameValue : Value α → Value α → Except (Trouble ε) (Value α)
  | .null, .null => .ok (.truth true)
  | .object _, .null => .ok (.truth false)
  | .constant path, .constant other => .ok (.truth (path == other))
  | _, _ => .error .stuck

mutual

/-- The value of an expression, and where the reader stands behind it. -/
def eval (scope : Locals α) : Expr → Cursor J → Except (Trouble ε) (Value α × Cursor J)
  | .null, cursor => .ok (.null, cursor)
  | .literal value, cursor => .ok (.text value, cursor)
  | .name path, cursor => (namedValue scope path).map (·, cursor)
  | .classOf type, cursor => .ok (.handle (.classLiteral type), cursor)
  | .call path args, cursor => do
      let (values, cursor) ← evalAll scope args cursor
      callPath world scope path values cursor
  | .create type args, cursor => do
      let (values, cursor) ← evalAll scope args cursor
      return (.created type values, cursor)
  | .cast kind operand, cursor => do
      let (value, cursor) ← eval scope operand cursor
      (castValue world kind value).map (·, cursor)
  | .same left right, cursor => do
      let (first, cursor) ← eval scope left cursor
      let (second, cursor) ← eval scope right cursor
      (sameValue first second).map (·, cursor)
  | .choose test yes no, cursor => do
      let (value, cursor) ← eval scope test cursor
      match value with
      | .truth true => eval scope yes cursor
      | .truth false => eval scope no cursor
      | _ => .error .stuck

/-- The values of expressions, from the first to the last. -/
def evalAll (scope : Locals α) :
    List Expr → Cursor J → Except (Trouble ε) (List (Value α) × Cursor J)
  | [], cursor => .ok ([], cursor)
  | e :: es, cursor => do
      let (value, cursor) ← eval scope e cursor
      let (values, cursor) ← evalAll scope es cursor
      return (value :: values, cursor)

end

/-! ### What expressions do -/

section

variable {world} {scope : Locals α} {cursor middle after : Cursor J}

theorem eval_name {x : String} {value : Value α} (isVariable : scope x = some value)
    (cursor : Cursor J) : eval world scope (.name [x]) cursor = .ok (value, cursor) := by
  have run : eval world scope (.name [x]) cursor = (namedValue scope [x]).map (·, cursor) := rfl
  have named : (namedValue scope [x] : Except (Trouble ε) _) = .ok value := by
    simp [namedValue, isVariable]
  rw [run, named]
  rfl

/-- A dotted name is a constant when its first segment is no variable. -/
theorem eval_constant {x y : String} {path : List String} (noVariable : scope x = none)
    (cursor : Cursor J) :
    eval world scope (.name (x :: y :: path)) cursor =
      .ok (.constant (x :: y :: path), cursor) := by
  have run : eval world scope (.name (x :: y :: path)) cursor =
      (namedValue scope (x :: y :: path)).map (·, cursor) := rfl
  have named : (namedValue scope (x :: y :: path) : Except (Trouble ε) _) =
      .ok (.constant (x :: y :: path)) := by
    simp [namedValue, noVariable]
  rw [run, named]
  rfl

theorem evalAll_cons {e : Expr} {es : List Expr} {value : Value α} {values : List (Value α)}
    (first : eval world scope e cursor = .ok (value, middle))
    (others : evalAll world scope es middle = .ok (values, after)) :
    evalAll world scope (e :: es) cursor = .ok (value :: values, after) := by
  have run : evalAll world scope (e :: es) cursor =
      (eval world scope e cursor).bind fun result =>
        (evalAll world scope es result.2).bind fun results =>
          .ok (result.1 :: results.1, results.2) := rfl
  rw [run, first]
  dsimp only [Except.bind]
  rw [others]

theorem evalAll_one {e : Expr} {value : Value α}
    (evaluated : eval world scope e cursor = .ok (value, after)) :
    evalAll world scope [e] cursor = .ok ([value], after) := evalAll_cons evaluated rfl

theorem eval_call (path : List String) {args : List Expr} {values : List (Value α)}
    (evaluated : evalAll world scope args cursor = .ok (values, after)) :
    eval world scope (.call path args) cursor = callPath world scope path values after := by
  have run : eval world scope (.call path args) cursor =
      (evalAll world scope args cursor).bind fun result =>
        callPath world scope path result.1 result.2 := rfl
  rw [run, evaluated]
  rfl

/-- A call on a variable is a call of a method of what it denotes. -/
theorem callPath_variable {owner : String} {receiver : Value α}
    (isVariable : scope owner = some receiver) (method : String) (values : List (Value α))
    (cursor : Cursor J) :
    callPath world scope [owner, method] values cursor =
      invoke world receiver method values cursor := by
  simp only [callPath, isVariable]

/-- A call on a name that is no variable is a call of a method of a class. -/
theorem callPath_class {owner : String} (noVariable : scope owner = none) (method : String)
    (values : List (Value α)) (cursor : Cursor J) :
    callPath world scope [owner, method] values cursor =
      (callStatic owner method values).map (·, cursor) := by
  simp only [callPath, noVariable]

theorem eval_create (type : String) {args : List Expr} {values : List (Value α)}
    (evaluated : evalAll world scope args cursor = .ok (values, after)) :
    eval world scope (.create type args) cursor = .ok (.created type values, after) := by
  have run : eval world scope (.create type args) cursor =
      (evalAll world scope args cursor).bind fun result =>
        .ok (.created type result.1, result.2) := rfl
  rw [run, evaluated]
  rfl

theorem eval_same {left right : Expr} {a b : Value α} {holds : Bool}
    (first : eval world scope left cursor = .ok (a, middle))
    (second : eval world scope right middle = .ok (b, after))
    (compared : (sameValue a b : Except (Trouble ε) _) = .ok (.truth holds)) :
    eval world scope (.same left right) cursor = .ok (.truth holds, after) := by
  have run : eval world scope (.same left right) cursor =
      (eval world scope left cursor).bind fun result =>
        (eval world scope right result.2).bind fun other =>
          (sameValue result.1 other.1).map (·, other.2) := rfl
  rw [run, first]
  dsimp only [Except.bind]
  rw [second]
  dsimp only
  rw [compared]
  rfl

theorem eval_choose {test : Expr} (yes no : Expr) {holds : Bool}
    (tested : eval world scope test cursor = .ok (.truth holds, after)) :
    eval world scope (.choose test yes no) cursor =
      if holds then eval world scope yes after else eval world scope no after := by
  have run : eval world scope (.choose test yes no) cursor =
      (eval world scope test cursor).bind fun result =>
        match result.1 with
        | .truth true => eval world scope yes result.2
        | .truth false => eval world scope no result.2
        | _ => .error .stuck := rfl
  rw [run, tested]
  cases holds <;> rfl

end

/-! ### Statements -/

/-- A local with a value. -/
def Locals.set (locals : Locals α) (x : String) (value : Value α) : Locals α :=
  fun y => if y = x then some value else locals y

/-- The locals behind a scope: those from before it, with the values they have at its end. -/
def Locals.leave (outer inner : Locals α) : Locals α := fun x => (outer x).bind fun _ => inner x

/-- The value of a name: of the local, else of the field. -/
abbrev seen (fields locals : Locals α) : Locals α := fun x => locals x <|> fields x

/-- The value of an expression in a state. -/
def State.eval (fields : Locals α) (e : Expr) (state : State α J) :
    Except (Trouble ε) (Value α × State α J) :=
  (Java.eval world (seen fields state.locals) e state.cursor).map fun result =>
    (result.1, { state with cursor := result.2 })

/-- The truth value of an expression in a state. -/
def State.test (fields : Locals α) (e : Expr) (state : State α J) :
    Except (Trouble ε) (Bool × State α J) := do
  let (value, after) ← state.eval world fields e
  match value with
  | .truth holds => return (holds, after)
  | _ => .error .stuck

/-- Repeats a body while a test holds, for a limited number of tests. -/
def loop (test : State α J → Except (Trouble ε) (Bool × State α J))
    (body : State α J → Except (Trouble ε) (Flow α × State α J)) :
    Nat → State α J → Except (Trouble ε) (Flow α × State α J)
  | 0, _ => .error .exhausted
  | limit + 1, state => do
      let (holds, state) ← test state
      if holds then
        let (flow, state) ← body state
        match flow with
        | .next => loop test body limit state
        | .broke => return (.next, state)
        | .returned value => return (.returned value, state)
      else return (.next, state)

/-- The labels among statements. -/
def labels : List Stmt → List (Option String)
  | [] => []
  | .label key :: body => key :: labels body
  | _ :: body => labels body

/-- The label at which a switch goes on. -/
def target? (keys : List (Option String)) (key : String) : Option (Option String) :=
  if some key ∈ keys then some (some key) else if none ∈ keys then some none else none

/-- Whether a statement is a given label. -/
def Stmt.isLabel (key : Option String) : Stmt → Bool
  | label other => other == key
  | _ => false

/-- What a switch makes of the way its body ends. -/
def Flow.behindSwitch : Flow α → Flow α
  | broke => next
  | flow => flow

mutual

/-- A statement from a state: how it ends, and the state behind it. -/
def exec (fields : Locals α) (limit : Nat) :
    Stmt → State α J → Except (Trouble ε) (Flow α × State α J)
  | .declare x e, state =>
      if (state.locals x).isSome then .error .stuck
      else do
        let (value, after) ← state.eval world fields e
        return (.next, { after with locals := after.locals.set x value })
  | .assign x e, state =>
      if (state.locals x).isSome then do
        let (value, after) ← state.eval world fields e
        return (.next, { after with locals := after.locals.set x value })
      else .error .stuck
  | .exec e, state => do
      let (_, after) ← state.eval world fields e
      return (.next, after)
  | .block body, state => do
      let (flow, after) ← execAll fields limit none body state
      return (flow, { after with locals := state.locals.leave after.locals })
  | .ifThen test body, state => do
      let (holds, after) ← state.test world fields test
      if holds then exec fields limit body after else return (.next, after)
  | .whileLoop test body, state =>
      loop (State.test world fields test) (fun state => exec fields limit body state) limit state
  | .switchOn e body, state => do
      let (value, state) ← state.eval world fields e
      match value with
      | .text key =>
          if (labels body).Nodup then
            match target? (labels body) key with
            | some label => do
                let (flow, after) ← execAll fields limit (some label) body state
                return (flow.behindSwitch, { after with locals := state.locals.leave after.locals })
            | none => return (.next, state)
          else .error .stuck
      | _ => .error .stuck
  | .label _, state => .ok (.next, state)
  | .breakOut, state => .ok (.broke, state)
  | .throwing e, state => do
      let (value, _) ← state.eval world fields e
      match value with
      | .created "IOException" [.text message] => .error (.ioException message)
      | _ => .error .stuck
  | .returning e, state => do
      let (value, after) ← state.eval world fields e
      return (.returned value, after)

/-- Statements one after another, from a label on if one is given. -/
def execAll (fields : Locals α) (limit : Nat) :
    (from? : Option (Option String)) → List Stmt → State α J →
      Except (Trouble ε) (Flow α × State α J)
  | _, [], state => .ok (.next, state)
  | some key, s :: body, state =>
      if s.isLabel key then execAll fields limit none body state
      else execAll fields limit (some key) body state
  | none, s :: body, state => do
      let (flow, state) ← exec fields limit s state
      match flow with
      | .next => execAll fields limit none body state
      | flow => return (flow, state)

end

/-! ### What statements do -/

section

variable {world} {fields env : Locals α} {limit : Nat} {e : Expr} {value : Value α}
  {cursor after : Cursor J}

theorem State.eval_eq
    (evaluated : Java.eval world (seen fields env) e cursor = .ok (value, after)) :
    State.eval world fields e ⟨env, cursor⟩ = .ok (value, ⟨env, after⟩) := by
  simp only [State.eval, evaluated, Except.map]

theorem State.test_eq {holds : Bool}
    (evaluated : Java.eval world (seen fields env) e cursor = .ok (.truth holds, after)) :
    State.test world fields e ⟨env, cursor⟩ = .ok (holds, ⟨env, after⟩) := by
  simp only [State.test, State.eval_eq evaluated, bind, Except.bind, pure, Except.pure]

theorem exec_declare {x : String} (undeclared : env x = none)
    (evaluated : Java.eval world (seen fields env) e cursor = .ok (value, after)) :
    exec world fields limit (.declare x e) ⟨env, cursor⟩ =
      .ok (.next, ⟨env.set x value, after⟩) := by
  have run : exec world fields limit (.declare x e) ⟨env, cursor⟩ =
      if (env x).isSome then .error .stuck
      else (State.eval world fields e ⟨env, cursor⟩).bind fun result =>
        .ok (.next, { result.2 with locals := result.2.locals.set x result.1 }) := rfl
  rw [run, undeclared, State.eval_eq evaluated]
  rfl

/-- An assignment ends as its expression does. -/
theorem exec_assign {x : String} (declared : (env x).isSome = true) :
    exec world fields limit (.assign x e) ⟨env, cursor⟩ =
      (Java.eval world (seen fields env) e cursor).map fun result =>
        (.next, ⟨env.set x result.1, result.2⟩) := by
  have run : exec world fields limit (.assign x e) ⟨env, cursor⟩ =
      if (env x).isSome then
        (State.eval world fields e ⟨env, cursor⟩).bind fun result =>
          .ok (.next, { result.2 with locals := result.2.locals.set x result.1 })
      else .error .stuck := rfl
  rw [run, declared, if_pos rfl, State.eval]
  cases Java.eval world (seen fields env) e cursor <;> rfl

theorem exec_exec (evaluated : Java.eval world (seen fields env) e cursor = .ok (value, after)) :
    exec world fields limit (.exec e) ⟨env, cursor⟩ = .ok (.next, ⟨env, after⟩) := by
  have run : exec world fields limit (.exec e) ⟨env, cursor⟩ =
      (State.eval world fields e ⟨env, cursor⟩).bind fun result => .ok (.next, result.2) := rfl
  rw [run, State.eval_eq evaluated]
  rfl

/-- Behind a block its own locals are gone. -/
theorem exec_block (body : List Stmt) (state : State α J) :
    exec world fields limit (.block body) state =
      (execAll world fields limit none body state).map fun result =>
        (result.1, { result.2 with locals := state.locals.leave result.2.locals }) := by
  have run : exec world fields limit (.block body) state =
      (execAll world fields limit none body state).bind fun result =>
        .ok (result.1, { result.2 with locals := state.locals.leave result.2.locals }) := rfl
  rw [run]
  cases execAll world fields limit none body state <;> rfl

theorem exec_ifThen (body : Stmt) {holds : Bool}
    (tested : Java.eval world (seen fields env) e cursor = .ok (.truth holds, after)) :
    exec world fields limit (.ifThen e body) ⟨env, cursor⟩ =
      if holds then exec world fields limit body ⟨env, after⟩ else .ok (.next, ⟨env, after⟩) := by
  have run : exec world fields limit (.ifThen e body) ⟨env, cursor⟩ =
      (State.test world fields e ⟨env, cursor⟩).bind fun result =>
        if result.1 then exec world fields limit body result.2 else .ok (.next, result.2) := rfl
  rw [run, State.test_eq tested]
  rfl

theorem exec_whileLoop (test : Expr) (body : Stmt) (state : State α J) :
    exec world fields limit (.whileLoop test body) state =
      loop (State.test world fields test) (fun state => exec world fields limit body state) limit
        state := rfl

/-- What a switch does is what its body does from the label that it goes on at. -/
theorem exec_switchOn {key : String} {label : Option String} {body : List Stmt}
    (evaluated : Java.eval world (seen fields env) e cursor = .ok (.text key, after))
    (distinct : (labels body).Nodup) (target : target? (labels body) key = some label) :
    exec world fields limit (.switchOn e body) ⟨env, cursor⟩ =
      (execAll world fields limit (some label) body ⟨env, after⟩).map fun result =>
        (result.1.behindSwitch, { result.2 with locals := env.leave result.2.locals }) := by
  have run : exec world fields limit (.switchOn e body) ⟨env, cursor⟩ =
      (State.eval world fields e ⟨env, cursor⟩).bind fun result =>
        match result.1 with
        | .text key =>
            if (labels body).Nodup then
              match target? (labels body) key with
              | some label =>
                  (execAll world fields limit (some label) body result.2).bind fun behind =>
                    .ok (behind.1.behindSwitch,
                      { behind.2 with locals := result.2.locals.leave behind.2.locals })
              | none => .ok (.next, result.2)
            else .error .stuck
        | _ => .error .stuck := rfl
  rw [run, State.eval_eq evaluated]
  simp only [Except.bind, distinct, if_true, target]
  cases execAll world fields limit (some label) body ⟨env, after⟩ <;> rfl

theorem exec_throwing {message : String}
    (evaluated : Java.eval world (seen fields env) e cursor =
      .ok (.created "IOException" [.text message], after)) :
    exec world fields limit (.throwing e) ⟨env, cursor⟩ = .error (.ioException message) := by
  have run : exec world fields limit (.throwing e) ⟨env, cursor⟩ =
      (State.eval world fields e ⟨env, cursor⟩).bind fun result =>
        match result.1 with
        | .created "IOException" [.text message] => .error (.ioException message)
        | _ => .error .stuck := rfl
  rw [run, State.eval_eq evaluated]
  rfl

theorem exec_returning
    (evaluated : Java.eval world (seen fields env) e cursor = .ok (value, after)) :
    exec world fields limit (.returning e) ⟨env, cursor⟩ = .ok (.returned value, ⟨env, after⟩) := by
  have run : exec world fields limit (.returning e) ⟨env, cursor⟩ =
      (State.eval world fields e ⟨env, cursor⟩).bind fun result =>
        .ok (.returned result.1, result.2) := rfl
  rw [run, State.eval_eq evaluated]
  rfl

end

/-! ### Sequences -/

section

variable {world} {fields : Locals α} {limit : Nat}

/-- The first statement, and the others when it goes on to them. -/
theorem execAll_eq (s : Stmt) (body : List Stmt) (state : State α J) :
    execAll world fields limit none (s :: body) state =
      (exec world fields limit s state).bind fun result =>
        match result.1 with
        | .next => execAll world fields limit none body result.2
        | flow => .ok (flow, result.2) := rfl

theorem execAll_cons {s : Stmt} {state after : State α J} (body : List Stmt)
    (first : exec world fields limit s state = .ok (.next, after)) :
    execAll world fields limit none (s :: body) state =
      execAll world fields limit none body after := by
  rw [execAll_eq, first]
  rfl

theorem execAll_cons_error {s : Stmt} {state : State α J} {trouble : Trouble ε} (body : List Stmt)
    (first : exec world fields limit s state = .error trouble) :
    execAll world fields limit none (s :: body) state = .error trouble := by
  rw [execAll_eq, first]
  rfl

theorem execAll_single (s : Stmt) (state : State α J) :
    execAll world fields limit none [s] state = exec world fields limit s state := by
  rw [execAll_eq]
  cases exec world fields limit s state with
  | error trouble => rfl
  | ok result =>
      obtain ⟨flow, after⟩ := result
      cases flow <;> rfl

theorem execAll_append {front : List Stmt} {state after : State α J} (back : List Stmt)
    (first : execAll world fields limit none front state = .ok (.next, after)) :
    execAll world fields limit none (front ++ back) state =
      execAll world fields limit none back after := by
  induction front generalizing state with
  | nil =>
      obtain rfl : state = after := (Prod.mk.inj (Except.ok.inj first)).2
      rfl
  | cons s front ih =>
      rw [execAll_eq] at first
      rw [List.cons_append, execAll_eq]
      cases ran : exec world fields limit s state with
      | error trouble => simp [ran, Except.bind] at first
      | ok result =>
          obtain ⟨flow, middle⟩ := result
          rw [ran] at first
          cases flow with
          | next => exact ih first
          | broke => simp [Except.bind] at first
          | returned value => simp [Except.bind] at first

theorem execAll_append_error {front : List Stmt} {state : State α J} {trouble : Trouble ε}
    (back : List Stmt) (first : execAll world fields limit none front state = .error trouble) :
    execAll world fields limit none (front ++ back) state = .error trouble := by
  induction front generalizing state with
  | nil => nomatch first
  | cons s front ih =>
      rw [execAll_eq] at first
      rw [List.cons_append, execAll_eq]
      cases ran : exec world fields limit s state with
      | error other => simpa [ran, Except.bind] using first
      | ok result =>
          obtain ⟨flow, middle⟩ := result
          rw [ran] at first
          cases flow with
          | next => exact ih first
          | broke => simp [Except.bind] at first
          | returned value => simp [Except.bind] at first

/-- A label that is looked for is found, or the statement is left out. -/
theorem execAll_from_eq (key : Option String) (s : Stmt) (body : List Stmt) (state : State α J) :
    execAll world fields limit (some key) (s :: body) state =
      if s.isLabel key then execAll world fields limit none body state
      else execAll world fields limit (some key) body state := rfl

theorem execAll_label (key : Option String) (body : List Stmt) (state : State α J) :
    execAll world fields limit (some key) (.label key :: body) state =
      execAll world fields limit none body state := by
  rw [execAll_from_eq, if_pos (by simp [Stmt.isLabel])]

/-- Statements in front of the label that is looked for are left out. -/
theorem execAll_from {key : Option String} {front : List Stmt} (other : key ∉ labels front)
    (back : List Stmt) (state : State α J) :
    execAll world fields limit (some key) (front ++ back) state =
      execAll world fields limit (some key) back state := by
  induction front with
  | nil => rfl
  | cons s front ih =>
      rw [List.cons_append, execAll_from_eq]
      cases s with
      | label found =>
          obtain ⟨notThis, later⟩ := not_or.mp (mt List.mem_cons.mpr other)
          rw [if_neg (by simpa [Stmt.isLabel] using Ne.symm notThis)]
          exact ih later
      | _ => exact ih other

theorem loop_done {test : State α J → Except (Trouble ε) (Bool × State α J)}
    {body : State α J → Except (Trouble ε) (Flow α × State α J)} {state middle : State α J}
    (rounds : Nat) (tested : test state = .ok (false, middle)) :
    loop test body (rounds + 1) state = .ok (.next, middle) := by
  simp [loop, tested, bind, Except.bind, pure, Except.pure]

theorem loop_next {test : State α J → Except (Trouble ε) (Bool × State α J)}
    {body : State α J → Except (Trouble ε) (Flow α × State α J)} {state middle after : State α J}
    (rounds : Nat) (tested : test state = .ok (true, middle))
    (ran : body middle = .ok (.next, after)) :
    loop test body (rounds + 1) state = loop test body rounds after := by
  simp [loop, tested, ran, bind, Except.bind]

theorem loop_error {test : State α J → Except (Trouble ε) (Bool × State α J)}
    {body : State α J → Except (Trouble ε) (Flow α × State α J)} {state middle : State α J}
    {trouble : Trouble ε} (rounds : Nat) (tested : test state = .ok (true, middle))
    (ran : body middle = .error trouble) :
    loop test body (rounds + 1) state = .error trouble := by
  simp [loop, tested, ran, bind, Except.bind]

end

theorem labels_append (front back : List Stmt) :
    labels (front ++ back) = labels front ++ labels back := by
  induction front with
  | nil => rfl
  | cons s front ih => cases s <;> simp [labels, ih]

/-! ### Methods -/

/-- The value that a variable of a type has when the method begins. -/
def initialValue (type : String) : Value α :=
  if type = "JsonReader" then .reader
  else if type = "Moshi" then .moshi
  else if type = "Logger" then .logger
  else .unknown

/-- The fields of a class. -/
def fieldsOf (decl : ClassDecl) : Locals α :=
  fun x => (decl.field? x).map fun field => initialValue field.type

/-- The parameters of a method. -/
def parametersOf (method : MethodDecl) : Locals α :=
  fun x => (method.parameters.find? (·.name == x)).map fun parameter => initialValue parameter.type

/-- What a method of a class returns when its statements run on a reader of an object. -/
def runMethod (decl : ClassDecl) (method : MethodDecl) (program : List Stmt) (limit : Nat)
    (entries : List (String × J)) : Except (Trouble ε) (Value α) := do
  let (flow, _) ←
    execAll world (fieldsOf decl) limit none program ⟨parametersOf method, .start entries⟩
  match flow with
  | .returned value => return value
  | _ => .error .stuck

/-- A method returns what its statements return, if they do. -/
theorem runMethod_eq {decl : ClassDecl} {method : MethodDecl} {program : List Stmt} {limit : Nat}
    {entries : List (String × J)} {result : Except (Trouble ε) (Value α)}
    (ran : (execAll world (fieldsOf decl) limit none program
      ⟨parametersOf method, .start entries⟩).map (·.1) = result.map .returned) :
    runMethod world decl method program limit entries = result := by
  unfold runMethod
  cases run : execAll world (fieldsOf decl) limit none program
      ⟨parametersOf method, .start entries⟩ with
  | error trouble =>
      rw [run] at ran
      cases result with
      | error other => exact congrArg Except.error (Except.error.inj ran)
      | ok value => nomatch ran
  | ok outcome =>
      rw [run] at ran
      cases result with
      | error trouble => nomatch ran
      | ok value =>
          have flow : outcome.1 = .returned value := Except.ok.inj ran
          simp only [bind, Except.bind, flow, pure, Except.pure]

/-- What the method of a name returns, when its lines are read as statements. -/
def runNamed? (decl : ClassDecl) (name : String) (limit : Nat) (entries : List (String × J)) :
    Option (Except (Trouble ε) (Value α)) := do
  let method ← decl.methods.find? (·.name == name)
  let program ← readBody? method.body
  return runMethod world decl method program limit entries

end

end AdapterGen.Java
