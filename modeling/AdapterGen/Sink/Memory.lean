import AdapterGen.Sink

/-!
# The memory sink

Keeps files in the order in which they came. It may refuse classes by name.
-/

namespace AdapterGen

open Code

/-- The files held, in order. -/
structure MemoryStore where
  files : List SourceFile := []
  deriving DecidableEq, Repr

namespace MemoryStore

/-- The first file held under a qualified name. -/
def get? (store : MemoryStore) (qualifiedName : String) : Option SourceFile :=
  store.files.find? (·.qualifiedName == qualifiedName)

/-- The source of the first file held under a qualified name, printed with an indentation. -/
def source? (store : MemoryStore) (indent qualifiedName : String) : Option String :=
  (store.get? qualifiedName).map (·.render indent)

/-- The qualified names of the files held, in order. -/
def qualifiedNames (store : MemoryStore) : List String := store.files.map (·.qualifiedName)

/-- The sink over such stores that refuses some class names. -/
def sink (refused : List String) : Sink MemoryStore where
  persist store file :=
    if refused.contains file.decl.name then .error (.persistence file.qualifiedName .refused)
    else .ok ⟨store.files ++ [file]⟩
  discard store package name :=
    ⟨store.files.filter fun file => file.package ≠ package || file.decl.name ≠ name⟩

end MemoryStore

end AdapterGen
