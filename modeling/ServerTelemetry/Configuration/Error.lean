import ServerTelemetry.Configuration.Document
import ServerTelemetry.Configuration.Variable
import ServerTelemetry.FileSystem

/-!
# Errors of configuring

All that can be wrong with a configuration, from the file it is read from to the exporters it asks
for, with the wording of each.
-/

namespace ServerTelemetry

/-- A method of compressing what is sent. -/
inductive Compression where
  | gzip
  | zstd
  deriving DecidableEq, Repr

/-- The name of the method. -/
def Compression.name : Compression → Text
  | .gzip => "gzip".toList
  | .zstd => "zstd".toList

/-- Why an exporter cannot be built. -/
inductive BuildError where
  /-- The URL is one after all that no request can be sent to. -/
  | url (place reason : Text)
  /-- A method of compressing is asked for that the program is built without. -/
  | unavailable (method : Compression)
  /-- A method of compressing is asked for that there is not. -/
  | unknown (method : Text)
  deriving DecidableEq, Repr

/-- The wording of the error. -/
def BuildError.message : BuildError → Text
  | .url place reason => "invalid URI ".toList ++ place ++ ". Reason ".toList ++ reason
  | .unavailable method =>
    "feature '".toList ++ method.name ++ "-tonic' is required to use the".toList
      ++ " compression algorithm '".toList ++ method.name ++ ['\'']
  | .unknown method => "unsupported compression algorithm '".toList ++ method ++ ['\'']

/-- An error of configuring. -/
inductive ConfigurationError where
  | file (path : Text) (error : FileError)
  | document (error : Configuration.DocumentError)
  /-- A setting of the environment is malformed. -/
  | environment (v : Variable) (value : Text)
  /-- The environment names a propagation format that there is not. -/
  | propagator (name : Text)
  /-- An exporter is asked for that the program is built without. -/
  | unavailable (exporter : Exporter)
  /-- The place of the collector is no absolute URL. -/
  | endpoint (endpoint reason : Text)
  | build (exporter : Exporter) (error : BuildError)
  deriving DecidableEq, Repr

namespace ConfigurationError

open Yaml (ticked)

/-- The wording of the error; documents that are malformed as a whole have none. -/
def message? : ConfigurationError → Option Text
  | file path error =>
    some ("could not read configuration file ".toList ++ path ++ ": ".toList ++ error.message)
  | document error =>
    error.message?.map fun message =>
      "could not deserialize configuration: ".toList ++ message
  | environment v value =>
    some ("invalid value '".toList ++ value ++ "' for environment variable ".toList
      ++ v.name)
  | propagator word =>
    some ("unknown propagator '".toList ++ word ++ "', expected one of: ".toList
      ++ Text.join ", ".toList (Propagator.all.map (·.name) ++ ["none".toList]))
  | unavailable exporter =>
    some ("the ".toList ++ exporter.name
      ++ " exporter is enabled but this build lacks the ".toList ++ ticked exporter.feature
      ++ " feature".toList)
  | endpoint url reason =>
    some ("invalid OTLP endpoint '".toList ++ url ++ "': ".toList ++ reason)
  | build exporter error =>
    some ("could not build the ".toList ++ exporter.name ++ " exporter: ".toList ++ error.message)

end ConfigurationError

end ServerTelemetry
