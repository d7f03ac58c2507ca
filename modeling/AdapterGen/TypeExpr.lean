import AdapterGen.TypeDescriptor

/-!
# Reflective type expressions

The expression that yields the reflective handle of a type. A wildcard stands
for its bound, and an array of a plain class is again a class literal.
-/

namespace AdapterGen

/-- An expression whose value is a reflective type. -/
inductive TypeExpr where
  | classLiteral (type : String)
  | parameterized (raw : String) (args : List TypeExpr)
  | arrayOf (component : TypeExpr)
  deriving Repr

namespace TypeExpr

/-- The class that builds reflective types. -/
def helperClass : String := "com.squareup.moshi.Types"

/-- The expression of an array whose component has the given expression. -/
def arrayLevel : TypeExpr → TypeExpr
  | classLiteral type => classLiteral (type ++ "[]")
  | component => arrayOf component

mutual

/-- The expression that yields a type. -/
def ofType : TypeDescriptor → TypeExpr
  | .primitive kind => classLiteral kind.keyword
  | .boxed kind => classLiteral kind.boxedName
  | .string => classLiteral "String"
  | .reference name args =>
      match args with
      | [] => classLiteral name
      | arg :: rest => parameterized name (ofType arg :: ofTypes rest)
  | .wildcard bound => ofType bound
  | .array component => arrayLevel (ofType component)

/-- The expressions that yield types. -/
def ofTypes : List TypeDescriptor → List TypeExpr
  | [] => []
  | type :: types => ofType type :: ofTypes types

end

mutual

/-- The nesting depth; a class literal is 1. -/
def depth : TypeExpr → Nat
  | classLiteral _ => 1
  | parameterized _ args => 1 + maxDepth args
  | arrayOf component => depth component

/-- The greatest depth in a list, 0 when there is none. -/
def maxDepth : List TypeExpr → Nat
  | [] => 0
  | arg :: args => max (depth arg) (maxDepth args)

end

/-- Whether the text names the helper class. -/
def usesHelper : TypeExpr → Bool
  | classLiteral _ => false
  | _ => true

mutual

/-- The expression in Java syntax. -/
def render : TypeExpr → String
  | classLiteral type => type ++ ".class"
  | parameterized raw args =>
      "Types.newParameterizedType(" ++ raw ++ ".class" ++ renderRest args ++ ")"
  | arrayOf component => "Types.arrayOf(" ++ render component ++ ")"

/-- Arguments, each behind a comma. -/
def renderRest : List TypeExpr → String
  | [] => ""
  | arg :: args => ", " ++ render arg ++ renderRest args

end

theorem render_classLiteral (type : String) : render (classLiteral type) = type ++ ".class" := rfl

theorem render_parameterized (raw : String) (args : List TypeExpr) :
    render (parameterized raw args) =
      "Types.newParameterizedType(" ++ raw ++ ".class" ++ renderRest args ++ ")" := rfl

theorem render_arrayOf (component : TypeExpr) :
    render (arrayOf component) = "Types.arrayOf(" ++ render component ++ ")" := rfl

theorem renderRest_nil : renderRest [] = "" := rfl

theorem renderRest_cons (arg : TypeExpr) (args : List TypeExpr) :
    renderRest (arg :: args) = ", " ++ render arg ++ renderRest args := rfl

end TypeExpr

end AdapterGen
