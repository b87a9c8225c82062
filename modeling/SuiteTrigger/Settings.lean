import SuiteTrigger.Log
import SuiteTrigger.Number.Numeral
import SuiteTrigger.Text.Split

namespace SuiteTrigger

abbrev Environment := List (String × String)

structure Settings where
  webhookSecret : Option String
  privateKey : Option String
  appId : Option Int
  /-- The token that the command line works with. -/
  token : Option String
  logThreshold : LogThreshold
  /-- The private repositories that are served; none when no list is set. -/
  allowlist : Option (List String)
  telegramToken : Option String
  telegramChat : Option String
  /-- How many seconds an installation token is kept. -/
  tokenLifetime : Double
  dryRun : Bool
  host : String
  port : Int
  approvedLabel : String
  bot : String
  fastTarget : String
  fullTargets : List String

namespace Settings

def variableNames : List String :=
  ["GITHUB_WEBHOOK_SECRET", "GITHUB_PRIVATE_KEY", "GITHUB_APP_ID", "GITHUB_TOKEN",
   "OVERRIDE_LOGGING", "REPO_ALLOWLIST", "TELEGRAM_TOKEN", "TELEGRAM_CHAT_ID", "ACCESS_TOKEN_TTL",
   "DRY_RUN", "HOST", "PORT", "APPROVED_LABEL", "CI_BOT", "FAST_TEST_TARGET", "FULL_TEST_TARGETS"]

def defaultFullTargets : String :=
  "cpu_test,cpu_integer_test,cpu_multi_bit_test,cpu_wasm_test,csprng_randomness_testing"

def ofEnvironment (env : Environment) : Except NumeralError Settings := do
  let value (name absent : String) : String := (env.lookup name).getD absent
  let appId ← (env.lookup "GITHUB_APP_ID").mapM Numeral.readInt
  let tokenLifetime ← Numeral.readDouble (value "ACCESS_TOKEN_TTL" "300")
  let port ← Numeral.readInt (value "PORT" "8080")
  return {
    webhookSecret := env.lookup "GITHUB_WEBHOOK_SECRET"
    privateKey := env.lookup "GITHUB_PRIVATE_KEY"
    appId
    token := env.lookup "GITHUB_TOKEN"
    logThreshold := LogThreshold.ofName (value "OVERRIDE_LOGGING" "WARNING")
    allowlist := (env.lookup "REPO_ALLOWLIST").map (Text.split ',')
    telegramToken := env.lookup "TELEGRAM_TOKEN"
    telegramChat := env.lookup "TELEGRAM_CHAT_ID"
    tokenLifetime
    dryRun := value "DRY_RUN" "false" = "true"
    host := value "HOST" "0.0.0.0"
    port
    approvedLabel := value "APPROVED_LABEL" "approved"
    bot := value "CI_BOT" "@slab-ci"
    fastTarget := value "FAST_TEST_TARGET" "cpu_fast_test"
    fullTargets := Text.split ',' (value "FULL_TEST_TARGETS" defaultFullTargets) }

end Settings

/-- A chat that warnings are sent to. -/
structure LogChannel where
  token : String
  chat : Option String
  least : Level
  deriving DecidableEq

/-- The chats that the log is sent to: one when a token is set, be it empty. -/
def Settings.logChannels (settings : Settings) : List LogChannel :=
  match settings.telegramToken with
  | none => []
  | some token => [⟨token, settings.telegramChat, .warning⟩]

end SuiteTrigger
