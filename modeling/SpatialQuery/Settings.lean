import SpatialQuery.Checked
import SpatialQuery.Json.Reader
import SpatialQuery.Model.Client
import SpatialQuery.Stack
import SpatialQuery.Text.Blank
import SpatialQuery.Text.LetterCase

/-!
# Settings

Settings come from values that are given and from variables of the environment; a given value wins.
Texts are read generously: as the words for truth values, as numbers with blanks around them, and lists
as JSON.
-/

set_option autoImplicit false

namespace SpatialQuery

structure Settings where
  appName : Text
  appVersion : Text
  debug : Bool
  host : Text
  portNumber : Int
  corsOrigins : List Text
  dataDir : Text
  manifestPath : Text
  databasePath : Text
  llmProvider : Text
  anthropicApiKey : Text
  claudeModel : Text
  claudeMaxTokens : Int
  ollamaBaseUrl : Text
  ollamaModel : Text
  llmTemperature : Float
  llmTimeoutSeconds : Float
  parseCacheSize : Int
  parseCacheTtlSeconds : Int
  resultCacheSize : Int
  resultCacheTtlSeconds : Int
  logLevel : Text
deriving DecidableEq

namespace Settings

/-! ## Reading values -/

open Checked (refuse)

def readText : Json → Checked Text
  | .str t => .ok t
  | _ => refuse "Input should be a valid string"

/-- What a text writes.  One that cannot be encoded writes nothing. -/
def readWritten {α : Type} (t : Text) (write? : String → Option α) (message : String) :
    Checked α :=
  match t.toString? with
  | none => refuse "Input should be a valid string, unable to parse raw data as a unicode string"
  | some s =>
    match write? s with
    | some a => .ok a
    | none => refuse message

/-- The text without its underscores, which must stand one by one between other characters. -/
def withoutUnderscores? : List Char → Option (List Char)
  | [] => some []
  | ['_'] => none
  | '_' :: '_' :: _ => none
  | '_' :: rest => withoutUnderscores? rest
  | c :: rest => (withoutUnderscores? rest).map (c :: ·)

/-- The number without a fraction that is zero.  The fraction has at least one digit. -/
def withoutFraction (cs : List Char) : List Char :=
  match cs.dropWhile (· != '.') with
  | '.' :: zero :: zeros =>
    if (zero :: zeros).all (· == '0') then cs.takeWhile (· != '.') else cs
  | _ => cs

/-- What is left after a zero: further zeros go, with underscores among them, up to the last character
before a point or the end. -/
def afterZero (last : Char) : List Char → List Char
  | [] => [last]
  | c :: rest =>
    if c = '0' ∨ c = '_' then afterZero c rest
    else if c = '.' then last :: c :: rest
    else c :: rest

def withoutLeadingZeros : List Char → List Char
  | '0' :: rest => afterZero '0' rest
  | cs => cs

def wholeOf? (cs : List Char) : Option Nat :=
  match withoutUnderscores? (withoutFraction cs) with
  | some ['0'] => some 0
  | some (c :: rest) =>
    if c ≠ '0' ∧ (c :: rest).all Decimal.isAsciiDigit then some (Decimal.digitsValue (c :: rest))
    else none
  | _ => none

def fromDigit? (cs : List Char) : Option (List Char) :=
  if cs.head?.any Decimal.isAsciiDigit then some (withoutLeadingZeros cs) else none

def signedWhole? : List Char → Option Int
  | '-' :: rest => (wholeOf? rest).map fun n => -(n : Int)
  | cs => (wholeOf? cs).map Int.ofNat

def integerOf? (text : String) : Option Int :=
  match Text.trimMargins text.toList with
  | '-' :: rest => ((fromDigit? rest).bind wholeOf?).map fun n => -(n : Int)
  | '+' :: rest => (fromDigit? rest).bind signedWhole?
  | cs => (fromDigit? cs).bind signedWhole?

def exactInteger? (x : Float) : Option Int :=
  let size : Int := (Decimal.Binary.ofFloat x).floor
  let n := if Decimal.isNegative x then -size else size
  if Decimal.compareInt n x = .eq then some n else none

def wordBound : Int := 9223372036854775808

def isWord (n : Int) : Bool := -wordBound ≤ n && n < wordBound

def sizeMessage : String := "Unable to parse input string as an integer, exceeded maximum size"

def maxDigits : Nat := 4300

def readInteger : Json → Checked Int
  | .num (.int n) => .ok n
  | .bool b => .ok b.toInt
  | .num (.real x) =>
    if x.isFinite then
      match exactInteger? x with
      | some n => if isWord n ∧ n ≠ -wordBound then .ok n else refuse sizeMessage
      | none => refuse "Input should be a valid integer, got a number with a fractional part"
    else refuse "Input should be a finite number"
  | .str t =>
    (readWritten t integerOf?
        "Input should be a valid integer, unable to parse string as an integer").ensure fun n =>
      if n.natAbs < Decimal.tenPow maxDigits then none else some sizeMessage
  | _ => refuse "Input should be a valid integer"

def falseWords : List String := ["0", "off", "f", "false", "n", "no"]

def trueWords : List String := ["1", "on", "t", "true", "y", "yes"]

def truthOf? (word : String) : Option Bool :=
  let word := Text.loweredAscii word.toList
  if trueWords.contains word then some true
  else if falseWords.contains word then some false
  else none

def truthMessage : String := "Input should be a valid boolean, unable to interpret input"

def truthOfInteger (n : Int) : Checked Bool :=
  if n = 1 then .ok true else if n = 0 then .ok false else refuse truthMessage

def noTruth : Checked Bool := refuse "Input should be a valid boolean"

def readTruth : Json → Checked Bool
  | .bool b => .ok b
  | .num (.int n) => if isWord n then truthOfInteger n else noTruth
  | .num (.real x) =>
    if x.isFinite then
      match exactInteger? x with
      | some n => if isWord n ∧ n ≠ -wordBound then truthOfInteger n else noTruth
      | none => noTruth
    else noTruth
  | .str t => readWritten t truthOf? truthMessage
  | _ => noTruth

def unsignedDoubleOf? (cs : List Char) : Option Float :=
  let word := Text.loweredAscii cs
  if word = "inf" ∨ word = "infinity" then some Decimal.infinity
  else if word = "nan" then some Decimal.notANumber
  else (Decimal.Scaled.ofChars? cs).map Decimal.Scaled.nearest

def signedDoubleOf? (cs : List Char) : Option Float :=
  let (negative, unsigned) := Decimal.signPart cs
  (unsignedDoubleOf? unsigned).map fun x => if negative then -x else x

def doubleOf? (text : String) : Option Float :=
  match signedDoubleOf? (Text.trimMargins text.toList) with
  | some x => some x
  | none =>
    if text.toList.head? = some '_' then none
    else (withoutUnderscores? text.toList).bind signedDoubleOf?

def readDouble : Json → Checked Float
  | .num (.real x) => .ok x
  | .num (.int n) =>
    if (Float.ofInt n).isFinite then .ok (Float.ofInt n) else refuse "Input should be a valid number"
  | .bool b => .ok (Float.ofInt b.toInt)
  | .str t =>
    readWritten t doubleOf? "Input should be a valid number, unable to parse string as a number"
  | _ => refuse "Input should be a valid number"

def readTexts : Json → Checked (List Text)
  | .arr items => Checked.allFrom readText 0 items
  | _ => refuse "Input should be a valid list"

/-! ## Sources -/

structure Sources where
  environment : List (Text × Text)
  values : List (Text × Json)

/-- The value under a name, whatever the case of its letters; of several the last. -/
def underName? {α : Type} (name : Text) (entries : List (Text × α)) : Option α :=
  (entries.reverse.find? fun entry => entry.1.lowered == name).map (·.2)

def Sources.value? (sources : Sources) (name : Text) : Option Json :=
  match underName? name sources.values with
  | some value => some value
  | none => (underName? name sources.environment).map .str

def Sources.field {α : Type} (sources : Sources) (name : Text) (read : Json → Checked α)
    (default : α) : Checked α :=
  match sources.value? name with
  | some value => (read value).under name
  | none => .ok default

inductive Fault where
  /-- A variable that should hold a list is no JSON. -/
  | unreadable (name : Text)
  | tooDeep (isArray : Bool)
  | invalid (issues : List Issue)
deriving DecidableEq

def Fault.message : Fault → Text
  | .unreadable name =>
    "error parsing value for field \"" ++ name ++ "\" from source \"EnvSettingsSource\""
  | .tooDeep isArray => (Json.Excess.nesting isArray).message
  | .invalid issues =>
    Text.intercalate "; " (issues.map fun issue => issue.path ++ ": " ++ issue.message)

def Sources.withoutVariable (sources : Sources) (name : Text) : Sources :=
  { sources with
    environment := sources.environment.filter fun entry => entry.1.lowered != name }

/-- The variable that lists the allowed origins holds JSON.  Null says nothing. -/
def Sources.origins [Stack] (sources : Sources) : Except Fault Sources :=
  let name : Text := "cors_origins"
  match underName? name sources.environment with
  | none => .ok sources
  | some text =>
    match Json.read (Stack.reading .setting) text with
    | .error (.excessive (.nesting isArray)) => .error (.tooDeep isArray)
    | .error _ => .error (.unreadable name)
    | .ok .null => .ok (sources.withoutVariable name)
    | .ok value =>
      if (underName? name sources.values).isSome then .ok sources
      else .ok { sources with values := sources.values ++ [(name, value)] }

def Sources.fields (s : Sources) : Checked Settings :=
  ((s.field "app_name" readText "GeoQuery Spatial Chat").map Settings.mk)
    |>.ap (s.field "app_version" readText "0.1.0")
    |>.ap (s.field "debug" readTruth false)
    |>.ap (s.field "host" readText "0.0.0.0")
    |>.ap (s.field "port" readInteger 3000)
    |>.ap (s.field "cors_origins" readTexts ["http://localhost:5173", "http://127.0.0.1:5173"])
    |>.ap (s.field "data_dir" readText "data")
    |>.ap (s.field "manifest_path" readText "data/manifest.json")
    |>.ap (s.field "database_path" readText ":memory:")
    |>.ap (s.field "llm_provider" readText "anthropic")
    |>.ap (s.field "anthropic_api_key" readText "")
    |>.ap (s.field "claude_model" readText "claude-sonnet-4-5")
    |>.ap (s.field "claude_max_tokens" readInteger 2000)
    |>.ap (s.field "ollama_base_url" readText "http://localhost:11434")
    |>.ap (s.field "ollama_model" readText "qwen2.5:7b")
    |>.ap (s.field "llm_temperature" readDouble 0.1)
    |>.ap (s.field "llm_timeout_seconds" readDouble 60)
    |>.ap (s.field "parse_cache_size" readInteger 200)
    |>.ap (s.field "parse_cache_ttl_seconds" readInteger 3600)
    |>.ap (s.field "result_cache_size" readInteger 50)
    |>.ap (s.field "result_cache_ttl_seconds" readInteger 900)
    |>.ap (s.field "log_level" readText "INFO")

def ofSources [Stack] (sources : Sources) : Except Fault Settings :=
  match sources.origins with
  | .error fault => .error fault
  | .ok sources =>
    match sources.fields.toIssues with
    | .ok settings => .ok settings
    | .error issues => .error (.invalid issues)

def toJson (s : Settings) : Json :=
  .obj [
    ("app_name", .str s.appName),
    ("app_version", .str s.appVersion),
    ("debug", .bool s.debug),
    ("host", .str s.host),
    ("port", .int s.portNumber),
    ("cors_origins", .texts s.corsOrigins),
    ("data_dir", .str s.dataDir),
    ("manifest_path", .str s.manifestPath),
    ("database_path", .str s.databasePath),
    ("llm_provider", .str s.llmProvider),
    ("anthropic_api_key", .str s.anthropicApiKey),
    ("claude_model", .str s.claudeModel),
    ("claude_max_tokens", .int s.claudeMaxTokens),
    ("ollama_base_url", .str s.ollamaBaseUrl),
    ("ollama_model", .str s.ollamaModel),
    ("llm_temperature", .real s.llmTemperature),
    ("llm_timeout_seconds", .real s.llmTimeoutSeconds),
    ("parse_cache_size", .int s.parseCacheSize),
    ("parse_cache_ttl_seconds", .int s.parseCacheTtlSeconds),
    ("result_cache_size", .int s.resultCacheSize),
    ("result_cache_ttl_seconds", .int s.resultCacheTtlSeconds),
    ("log_level", .str s.logLevel)]

/-! ## The language model -/

def providerMessage (provider : Text) : Text :=
  "Unknown LLM provider: " ++ provider ++ ". Use 'anthropic' or 'ollama'."

def modelClient? (s : Settings) : Option Model.Client :=
  let provider := s.llmProvider.lowered
  if provider = "anthropic" then
    some (.anthropic {
      hasKey := s.anthropicApiKey ≠ ""
      model := s.claudeModel
      maxTokens := .int s.claudeMaxTokens
      temperature := .real s.llmTemperature })
  else if provider = "ollama" then
    some (.ollama {
      baseUrl := Model.Ollama.withoutSlashes s.ollamaBaseUrl
      model := s.ollamaModel
      temperature := .real s.llmTemperature
      maxTokens := .int s.claudeMaxTokens
      timeoutSeconds := .real s.llmTimeoutSeconds })
  else none

end Settings

end SpatialQuery
