/-
The settings of the program, from the environment and from a file of assignments.

* `Settings` — all settings with their defaults;
* `Settings.load env file` — the settings. The environment goes before the file, the file before the
  defaults; names count with their case. All values that cannot be read are reported together, in the
  order of the settings.
-/
import DeliveryWatch.Database.Shelf
import DeliveryWatch.Pipeline.Assembly
import DeliveryWatch.Settings.Assignments
import DeliveryWatch.Settings.Number

namespace DeliveryWatch

/-- The settings of the program. -/
structure Settings where
  databaseUrl : String := "sqlite:///./mailprobe.db"
  poolSize : Int := 5
  maxOverflow : Int := 10
  plan : Plan := {}
  smtpHost : String := "0.0.0.0"
  smtpPort : Int := 2525
  smtpDomain : String := "mailprobe.example.com"
  smtpMaxSize : Int := 10485760
  logLevel : String := "INFO"
  logJson : Bool := true
  environment : String := "development"
  deriving Repr, DecidableEq

namespace Settings

/-- Values of names. -/
abbrev Lookup := String → Option String

/-- Reading settings collects the problems with their names. -/
abbrev Loading := StateM (List (String × Problem))

/-- A value read by the rules of its kind, or the default if the name has no value. -/
def loadAs {α : Type} (read : String → Except Problem α) (values : Lookup) (name : String)
    (default : α) : Loading α := do
  match values name with
  | none => return default
  | some text =>
    match read text with
    | .ok a => return a
    | .error p =>
      modify (· ++ [(name, p)])
      return default

/-- Read all settings. -/
def loadAll (values : Lookup) : Loading Settings := do
  let d : Settings := {}
  let text := loadAs .ok values
  let number := loadAs readNumber values
  return {
    databaseUrl := ← text "DATABASE_URL" d.databaseUrl
    poolSize := ← number "DATABASE_POOL_SIZE" d.poolSize
    maxOverflow := ← number "DATABASE_MAX_OVERFLOW" d.maxOverflow
    plan := {
      table := ← text "GUID_FILTER_LOOKUP_TABLE" d.plan.table
      field := ← text "GUID_FILTER_LOOKUP_FIELD" d.plan.field
      process := ← text "SAVE_PROCESS" d.plan.process }
    smtpHost := ← text "SMTP_HOST" d.smtpHost
    smtpPort := ← number "SMTP_PORT" d.smtpPort
    smtpDomain := ← text "SMTP_DOMAIN" d.smtpDomain
    smtpMaxSize := ← number "SMTP_MAX_SIZE" d.smtpMaxSize
    logLevel := String.ofList (Text.upper (← text "LOG_LEVEL" d.logLevel).toList)
    logJson := ← loadAs readYesNo values "LOG_JSON" d.logJson
    environment := ← text "ENVIRONMENT" d.environment }

/-- The values of the environment, and behind them those of a file of assignments. -/
def lookupIn (env : List (String × String)) (file : Option String) : Lookup :=
  let assigned := (file.map (Assignments.values env)).getD []
  fun name => env.lookup name <|> (assigned.lookup name).join

/-- The settings of an environment and a file of assignments. -/
def load (env : List (String × String)) (file : Option String) :
    Except (List (String × Problem)) Settings :=
  match (loadAll (lookupIn env file)).run [] with
  | (s, []) => .ok s
  | (_, problems) => .error problems

/-- What connections to the configured database are like. -/
def connection (s : Settings) : Database.Connection :=
  .ofUrl s.databaseUrl s.poolSize s.maxOverflow

end Settings

end DeliveryWatch
