import AdapterGen.Naming

/-!
# Configuration

Settings that all targets of a round share, and the test for nullable markers.
-/

namespace AdapterGen

/-- The settings of a round. -/
structure Config where
  /-- One level of indentation. -/
  indent : String := "\t"
  /-- Qualified names of the annotations that mark a parameter as nullable. -/
  nullableAnnotations : List String :=
    ["org.jetbrains.annotations.Nullable", "android.support.annotation.Nullable",
      "androidx.annotation.Nullable", "javax.annotation.Nullable"]
  /-- What an adapter's name adds to its target's simple name. -/
  adapterSuffix : String := "Adapter"
  /-- What a factory's name adds to its target's simple name. -/
  factorySuffix : String := "AdapterFactory"
  /-- The comment on every generated class. -/
  javadoc : String := "Generated by moshigen"
  deriving DecidableEq, Repr

namespace Config

/-- An annotation's name without the at signs in front. -/
def withoutAt (name : String) : String :=
  String.ofList (name.toList.dropWhile (· == '@'))

/-- Whether a marker is spelled by the name of an annotation: in full, or by its last segment alone. -/
def spells (name marker : String) : Bool :=
  marker == name ||
    (!name.toList.contains '.' && Naming.lastSegment marker.toList == name.toList)

/-- Whether an annotation is one of the nullable markers. -/
def isNullableMarker (config : Config) (name : String) : Bool :=
  config.nullableAnnotations.any (spells (withoutAt name))

/-- The annotation that providers put on a nullable parameter. -/
def nullableMarker? (config : Config) : Option String := config.nullableAnnotations.head?

end Config

end AdapterGen
