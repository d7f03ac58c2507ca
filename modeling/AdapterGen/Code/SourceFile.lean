import AdapterGen.Code.ClassDecl
import AdapterGen.FilePath

/-!
# Source files

A class in its package, printed with the imports it needs.
-/

namespace AdapterGen.Code

/-- A class and its package. -/
structure SourceFile where
  package : String
  decl : ClassDecl
  deriving DecidableEq, Repr

namespace SourceFile

/-- The qualified name of the class. -/
def qualifiedName (file : SourceFile) : String := Naming.qualify file.package file.decl.name

/-- The path of the file below a source root. -/
def relativePath (file : SourceFile) : String := FilePath.ofClass file.package file.decl.name

/-- The imports that are printed: a class of the file's own package needs none. -/
def printedImports (file : SourceFile) : List String :=
  file.decl.imports.filter fun name => Naming.packageOf? name ≠ some file.package

/-- The package line, if the package has a name. -/
def renderPackage (file : SourceFile) : String :=
  if file.package = "" then "" else "package " ++ file.package ++ ";\n\n"

/-- The block of imports, if there are any. -/
def renderImports (file : SourceFile) : String :=
  if file.printedImports = [] then ""
  else Text.concat (file.printedImports.map fun name => "import " ++ name ++ ";\n") ++ "\n"

/-- The whole text of the file. -/
def render (file : SourceFile) (indent : String) : String :=
  file.renderPackage ++ file.renderImports ++ file.decl.render indent

end SourceFile

end AdapterGen.Code
