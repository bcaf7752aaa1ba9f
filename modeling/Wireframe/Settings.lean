import Wireframe.Schema.Decode
import Wireframe.Text.Characters

/-!
# Settings

What can be configured of the service. `Settings.read` checks given values, every one of which has a
default and is named in letters of either case; `Settings.standard` holds the defaults.
-/

namespace Wireframe

/-- Where the service runs. -/
inductive Environment where
  | development
  | staging
  | production
  deriving DecidableEq, Repr

def Environment.text : Environment → String
  | development => "development"
  | staging => "staging"
  | production => "production"

def Environment.options : List (String × Environment) :=
  [("development", .development), ("staging", .staging), ("production", .production)]

/-- The severities from which records are kept. -/
inductive Severity where
  | debug
  | info
  | warning
  | error
  | critical
  deriving DecidableEq, Repr

def Severity.text : Severity → String
  | debug => "DEBUG"
  | info => "INFO"
  | warning => "WARNING"
  | error => "ERROR"
  | critical => "CRITICAL"

def Severity.rank : Severity → Nat
  | debug => 10
  | info => 20
  | warning => 30
  | error => 40
  | critical => 50

def Severity.options : List (String × Severity) :=
  [("DEBUG", .debug), ("INFO", .info), ("WARNING", .warning), ("ERROR", .error),
    ("CRITICAL", .critical)]

/-- The configuration of the service. -/
structure Settings where
  appName : String
  appVersion : String
  environment : Environment
  debug : Bool
  logLevel : Severity
  logDirectory : String
  corsOrigins : List String
  backendUrl : String
  backendModel : String
  backendKey : Option String
  temperature : Binary64
  maxTokens : Int
  minResponseLength : Int
  screenName : String
  outputDir : String
  minMarkupLength : Int
  deriving Repr

namespace Settings

/-- The defaults. -/
def standard : Settings where
  appName := "LayoutForge Service"
  appVersion := "0.1.0"
  environment := .development
  debug := true
  logLevel := .info
  logDirectory := "logs"
  corsOrigins := ["*"]
  backendUrl := "https://generativelanguage.googleapis.com/v1beta/openai"
  backendModel := "gemini-2.5-flash"
  backendKey := none
  temperature := Binary64.ofRatio false 7 10
  maxTokens := 8192
  minResponseLength := 100
  screenName := "GeneratedScreen"
  outputDir := "./src/app/components"
  minMarkupLength := 10

/-- An environment; everything that names none is development. -/
def readEnvironment : Schema.Reader Environment := fun v =>
  .ok ((v.text?.bind fun s => Environment.options.lookup s).getD .development)

/-- The capital form of the letters that severities are named with. -/
def severityCapital (c : Char) : Char := if c = 'ı' then 'I' else Text.upperAscii c

/-- A severity in letters of either case. -/
def readSeverity : Schema.Reader Severity := fun v =>
  Schema.oneOf Severity.options (.str (String.ofList (v.display.toList.map severityCapital)))

/-- A name for screens: an identifier. -/
def readScreenName : Schema.Reader String := fun v => do
  let s ← Schema.text v
  if Text.isScriptIdentifier s.toList then .ok s
  else Schema.issue (.refused s!"default_screen_name must be a valid identifier, got '{s}'") v

/-- A directory without slashes at its end; nothing else is the current directory. -/
def readDirectory : Schema.Reader String := fun v => do
  let s ← Schema.text v
  match Text.dropEndWhile (· == '/') s.toList with
  | [] => .ok "."
  | path => .ok (String.ofList path)

/-- The fields with their names in small letters. -/
def inSmallLetters (fields : Fields) : Fields :=
  fields.map fun (name, v) => (String.ofList (Text.lower name.toList), v)

/-- Settings with the given values; the others have their defaults. Of several values with one name
the first counts. -/
def read : Schema.Reader Settings := fun v => do
  let fields := inSmallLetters (← Schema.fieldsOr .notFields v)
  let given {α : Type} (name : String) (default : α) (reader : Schema.Reader α) :=
    Schema.optional fields [name] default reader
  let (appName, appVersion, environment, debug, logLevel, logDirectory, corsOrigins, backendUrl,
      backendModel, backendKey, temperature, maxTokens, minResponseLength, screenName, outputDir,
      minMarkupLength) ←
    Schema.both (given "app_name" standard.appName Schema.text) <|
    Schema.both (given "app_version" standard.appVersion Schema.text) <|
    Schema.both (given "environment" standard.environment readEnvironment) <|
    Schema.both (given "debug" standard.debug Schema.bool) <|
    Schema.both (given "log_level" standard.logLevel readSeverity) <|
    Schema.both (given "log_directory" standard.logDirectory Schema.text) <|
    Schema.both (given "cors_origins" standard.corsOrigins (Schema.listOf .notList Schema.text)) <|
    Schema.both (given "llm_api_url" standard.backendUrl Schema.text) <|
    Schema.both (given "llm_model" standard.backendModel Schema.text) <|
    Schema.both (given "llm_api_key" standard.backendKey (Schema.nullable Schema.text)) <|
    Schema.both (given "llm_temperature" standard.temperature (Schema.numberWithin 0 2)) <|
    Schema.both (given "llm_max_tokens" standard.maxTokens (Schema.intAbove 0)) <|
    Schema.both (given "llm_min_response_length" standard.minResponseLength (Schema.intAtLeast 0)) <|
    Schema.both (given "default_screen_name" standard.screenName readScreenName) <|
    Schema.both (given "export_output_dir" standard.outputDir readDirectory) <|
      given "min_markup_length" standard.minMarkupLength (Schema.intAtLeast 0)
  .ok { appName, appVersion, environment, debug, logLevel, logDirectory, corsOrigins, backendUrl,
        backendModel, backendKey, temperature, maxTokens, minResponseLength, screenName, outputDir,
        minMarkupLength }

/-- The part of the settings that concerns the backend, as JSON. -/
def backendJson (s : Settings) : Json :=
  .obj [("api_url", .str s.backendUrl), ("model", .str s.backendModel),
    ("api_key", .ofText? s.backendKey), ("temperature", .float s.temperature),
    ("max_tokens", .int s.maxTokens), ("min_response_length", .int s.minResponseLength)]

/-- Settings as JSON, with what follows from them. -/
def toJson (s : Settings) : Json :=
  .obj [("app_name", .str s.appName), ("app_version", .str s.appVersion),
    ("environment", .str s.environment.text), ("debug", .bool s.debug),
    ("log_level", .str s.logLevel.text), ("log_directory", .str s.logDirectory),
    ("cors_origins", .ofTexts s.corsOrigins), ("llm_api_url", .str s.backendUrl),
    ("llm_model", .str s.backendModel), ("llm_api_key", .ofText? s.backendKey),
    ("llm_temperature", .float s.temperature), ("llm_max_tokens", .int s.maxTokens),
    ("llm_min_response_length", .int s.minResponseLength),
    ("default_screen_name", .str s.screenName), ("export_output_dir", .str s.outputDir),
    ("min_markup_length", .int s.minMarkupLength),
    ("is_production", .bool (s.environment == .production)),
    ("is_development", .bool (s.environment == .development)),
    ("llm_config", s.backendJson)]

end Settings

end Wireframe
