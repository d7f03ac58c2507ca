import AdapterGen.PrimitiveKind
import AdapterGen.Text.Segments

/-!
# Type descriptors

The shape of a field's declared type: what decides how the field is read and
how its adapter is looked up.
-/

namespace AdapterGen

/-- The shape of a Java type. A wildcard is reduced to its upper bound. -/
inductive TypeDescriptor where
  | primitive (kind : PrimitiveKind)
  | boxed (kind : PrimitiveKind)
  | string
  | reference (name : String) (args : List TypeDescriptor)
  | wildcard (bound : TypeDescriptor)
  | array (component : TypeDescriptor)
  deriving Repr

namespace TypeDescriptor

mutual

/-- Decides equality of two descriptors. -/
def decEq : (a b : TypeDescriptor) → Decidable (a = b)
  | primitive k, primitive l =>
      if h : k = l then isTrue (by rw [h]) else isFalse (by simpa using h)
  | boxed k, boxed l =>
      if h : k = l then isTrue (by rw [h]) else isFalse (by simpa using h)
  | string, string => isTrue rfl
  | reference m as, reference n bs =>
      if h : m = n then
        match decEqList as bs with
        | isTrue g => isTrue (by rw [h, g])
        | isFalse g => isFalse (by simp [g])
      else isFalse (by simp [h])
  | wildcard a, wildcard b =>
      match decEq a b with
      | isTrue h => isTrue (by rw [h])
      | isFalse h => isFalse (by simpa using h)
  | array a, array b =>
      match decEq a b with
      | isTrue h => isTrue (by rw [h])
      | isFalse h => isFalse (by simpa using h)
  | primitive _, boxed _ | primitive _, string | primitive _, reference _ _
  | primitive _, wildcard _ | primitive _, array _
  | boxed _, primitive _ | boxed _, string | boxed _, reference _ _
  | boxed _, wildcard _ | boxed _, array _
  | string, primitive _ | string, boxed _ | string, reference _ _
  | string, wildcard _ | string, array _
  | reference _ _, primitive _ | reference _ _, boxed _ | reference _ _, string
  | reference _ _, wildcard _ | reference _ _, array _
  | wildcard _, primitive _ | wildcard _, boxed _ | wildcard _, string
  | wildcard _, reference _ _ | wildcard _, array _
  | array _, primitive _ | array _, boxed _ | array _, string
  | array _, reference _ _ | array _, wildcard _ => isFalse nofun

/-- Decides equality of two argument lists. -/
def decEqList : (as bs : List TypeDescriptor) → Decidable (as = bs)
  | [], [] => isTrue rfl
  | a :: as, b :: bs =>
      match decEq a b, decEqList as bs with
      | isTrue h, isTrue g => isTrue (by rw [h, g])
      | isFalse h, _ => isFalse (by simp [h])
      | _, isFalse g => isFalse (by simp [g])
  | [], _ :: _ | _ :: _, [] => isFalse nofun

end

instance : DecidableEq TypeDescriptor := decEq

/-- The class that bounds an unbounded wildcard. -/
def objectName : String := "java.lang.Object"

/-- The class `java.lang.Object`. -/
def object : TypeDescriptor := reference objectName []

/-- Whether a type has type arguments. -/
def isParameterized : TypeDescriptor → Bool
  | reference _ args => !args.isEmpty
  | _ => false

mutual

/-- The nesting depth: a leaf is 1, each level of type arguments adds 1, and array levels and
wildcards add nothing. -/
def depth : TypeDescriptor → Nat
  | reference _ args => 1 + maxDepth args
  | wildcard bound => depth bound
  | array component => depth component
  | primitive _ | boxed _ | string => 1

/-- The greatest depth in a list, 0 when there is none. -/
def maxDepth : List TypeDescriptor → Nat
  | [] => 0
  | arg :: args => max (depth arg) (maxDepth args)

end

/-- The type of a local that may hold null: a primitive becomes its wrapper. -/
def toBoxed : TypeDescriptor → TypeDescriptor
  | primitive kind => boxed kind
  | other => other

mutual

/-- The type in Java syntax. -/
def render : TypeDescriptor → String
  | primitive kind => kind.keyword
  | boxed kind => kind.boxedName
  | string => "String"
  | reference name args =>
      match args with
      | [] => name
      | arg :: rest => name ++ "<" ++ render arg ++ renderRest rest ++ ">"
  | wildcard bound => if bound = object then "?" else "? extends " ++ render bound
  | array component => render component ++ "[]"

/-- The arguments after the first, each behind a comma. -/
def renderRest : List TypeDescriptor → String
  | [] => ""
  | arg :: args => ", " ++ render arg ++ renderRest args

end

end TypeDescriptor

end AdapterGen
