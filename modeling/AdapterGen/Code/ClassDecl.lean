import AdapterGen.Code.Block
import AdapterGen.Code.Modifier
import AdapterGen.Text.Lines

/-!
# Class declarations

A top-level Java class with its fields and methods. Types are texts, written as
they appear in the source.
-/

namespace AdapterGen.Code

/-- A field of a class. -/
structure FieldDecl where
  type : String
  name : String
  modifiers : List Modifier := []
  initializer : Option String := none
  deriving DecidableEq, Repr

/-- The declaration of a field. -/
def FieldDecl.render (field : FieldDecl) : String :=
  Modifier.render field.modifiers ++ field.type ++ " " ++ field.name ++
    (match field.initializer with
      | some value => " = " ++ value
      | none => "") ++ ";"

/-- A parameter of a method; final unless said otherwise. -/
structure ParameterDecl where
  type : String
  name : String
  modifiers : List Modifier := [.isFinal]
  deriving DecidableEq, Repr

/-- The declaration of a parameter. -/
def ParameterDecl.render (parameter : ParameterDecl) : String :=
  Modifier.render parameter.modifiers ++ parameter.type ++ " " ++ parameter.name

/-- A method, or a constructor when nothing is returned. -/
structure MethodDecl where
  name : String
  modifiers : List Modifier := []
  annotations : List String := []
  returns : Option String := some "void"
  parameters : List ParameterDecl := []
  throws : List String := []
  body : Block := {}
  deriving DecidableEq, Repr

namespace MethodDecl

/-- Whether the method is a constructor. -/
def isConstructor (method : MethodDecl) : Bool := method.returns.isNone

/-- The name of a constructor, which is printed as the name of its class. -/
def constructorName : String := "<init>"

/-- The first line of a method, without indentation. -/
def signature (method : MethodDecl) (className : String) : String :=
  Modifier.render method.modifiers ++
    (match method.returns with
      | some type => type ++ " " ++ method.name
      | none => className) ++
    "(" ++ Text.join ", " (method.parameters.map (·.render)) ++ ")" ++
    (if method.throws = [] then "" else " throws " ++ Text.join ", " method.throws) ++ " \x7b"

/-- A method of a class, at a depth. -/
def render (method : MethodDecl) (className indent : String) (depth : Nat) : String :=
  let pad := Text.repeated depth indent
  Text.concat (method.annotations.map fun a => pad ++ "@" ++ a ++ "\n") ++
    pad ++ method.signature className ++ "\n" ++
    method.body.render indent (depth + 1) ++
    pad ++ "\x7d\n"

end MethodDecl

/-- A class. The imports are ascending, each once. -/
structure ClassDecl where
  name : String
  modifiers : List Modifier := []
  javadoc : Option String := none
  superclass : Option String := none
  interfaces : List String := []
  fields : List FieldDecl := []
  methods : List MethodDecl := []
  imports : List String := []
  deriving DecidableEq, Repr

namespace ClassDecl

/-- The index of the first method of a name. -/
def methodIndex? (decl : ClassDecl) (name : String) : Option Nat :=
  decl.methods.findIdx? (·.name == name)

/-- The index of the first constructor. -/
def constructorIndex? (decl : ClassDecl) : Option Nat :=
  decl.methods.findIdx? (·.isConstructor)

/-- The first field of a name. -/
def field? (decl : ClassDecl) (name : String) : Option FieldDecl :=
  decl.fields.find? (·.name == name)

/-- A documentation comment. -/
def renderJavadoc (doc : String) : String :=
  "/**\n" ++
    Text.concat ((Text.lines doc).map fun l => if l = "" then " *\n" else " * " ++ l ++ "\n") ++
    " */\n"

/-- The first line of a class. -/
def header (decl : ClassDecl) : String :=
  Modifier.render decl.modifiers ++ "class " ++ decl.name ++
    (match decl.superclass with
      | some type => " extends " ++ type
      | none => "") ++
    (if decl.interfaces = [] then ""
      else " implements " ++ Text.join ", " decl.interfaces) ++ " \x7b\n"

/-- The declaration, without package and imports. -/
def render (decl : ClassDecl) (indent : String) : String :=
  (match decl.javadoc with
    | some doc => renderJavadoc doc
    | none => "") ++
    decl.header ++
    Text.concat (decl.fields.map fun f => indent ++ f.render ++ "\n") ++
    Text.concat (decl.methods.map fun m => "\n" ++ m.render decl.name indent 1) ++
    "\x7d\n"

end ClassDecl

end AdapterGen.Code
