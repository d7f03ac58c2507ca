import AdapterGen.Config
import AdapterGen.Target

/-!
# Names in generated code

The classes that generated code imports and writes by their simple names, and
the names of the classes generated for a target.
-/

namespace AdapterGen.Emission

def jsonAdapterClass : String := "com.squareup.moshi.JsonAdapter"
def jsonReaderClass : String := "com.squareup.moshi.JsonReader"
def jsonWriterClass : String := "com.squareup.moshi.JsonWriter"
def moshiClass : String := "com.squareup.moshi.Moshi"
def ioExceptionClass : String := "java.io.IOException"
def annotationClass : String := "java.lang.annotation.Annotation"
def reflectTypeClass : String := "java.lang.reflect.Type"
def setClass : String := "java.util.Set"
def levelClass : String := "java.util.logging.Level"
def loggerClass : String := "java.util.logging.Logger"

/-- The declared type of the annotations of a type. -/
def annotationsType : String := "Set<? extends Annotation>"

/-- The simple name of the adapter of a class. -/
def adapterName (config : Config) (simpleName : String) : String :=
  simpleName ++ config.adapterSuffix

/-- The simple name of the factory of a class. -/
def factoryName (config : Config) (simpleName : String) : String :=
  simpleName ++ config.factorySuffix

end AdapterGen.Emission
