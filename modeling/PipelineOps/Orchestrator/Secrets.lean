import PipelineOps.Library.Dict
import PipelineOps.Python.Value

namespace PipelineOps.Orchestrator

open PipelineOps.Library
open PipelineOps.Python

/-- What the process can read secrets from: its environment variables, and
`dbutils.secrets.get(scope, key)` where `_resolve_dbutils` finds one. -/
structure SecretEnv where
  environ : Dict String String
  dbutils : Except Exc (String → String → Except Exc Value)

def SecretEnv.getenv (env : SecretEnv) (name default : String) : String :=
  (env.environ.find name).getD default

inductive SecretClass where
  | transient
  | permanent
  deriving DecidableEq

def secretError (classification : SecretClass) (key provider reason : String) :
    Exc :=
  let (cls, label) := match classification with
    | .transient => (ExcClass.transientSecretError, "TRANSIENT")
    | .permanent => (ExcClass.permanentSecretError, "PERMANENT")
  ⟨cls, "[SECRET][" ++ label ++ "] provider=" ++ provider ++ " key=" ++ key ++
    " reason=" ++ reason⟩

def isSecretError (exc : Exc) : Bool :=
  exc.cls = .transientSecretError || exc.cls = .permanentSecretError

def isAsciiAlnum (character : Char) : Bool :=
  isAsciiDigit character || ('A' ≤ character && character ≤ 'Z') ||
    ('a' ≤ character && character ≤ 'z')

/-- `re.sub(r"[^A-Za-z0-9]+", "_", key)`; the flag is set inside a run. -/
def collapseRuns : (inRun : Bool) → List Char → List Char
  | _, [] => []
  | inRun, character :: rest =>
      if isAsciiAlnum character then character :: collapseRuns false rest
      else if inRun then collapseRuns true rest
      else '_' :: collapseRuns true rest

def keyToEnvName (key : String) : String :=
  "SECRET_" ++ String.ofList
    ((stripBy (· == '_') (collapseRuns false key.toList)).map Char.toUpper)

structure SecretBackend where
  provider : String
  get : String → Except Exc String

def envSecretsBackend (env : SecretEnv) : SecretBackend where
  provider := "env"
  get key :=
    let envKey := keyToEnvName key
    let value := strip (env.getenv envKey "")
    if value = "" then .error (.keyError envKey) else .ok value

def databricksSecretBackend (env : SecretEnv) (scope : String) :
    SecretBackend where
  provider := "databricks"
  get key :=
    match env.dbutils with
    | .error exc => .error exc
    | .ok secretsGet =>
        match secretsGet scope key with
        | .error exc => .error exc
        | .ok (.str value) =>
            if strip value = "" then .error (.keyError key) else .ok value
        | .ok _ => .error (.keyError key)

def transientMarkers : List String :=
  ["timeout", "temporar", "throttl", "too many requests", "429", "502", "503",
    "504", "connection", "unavailable", "try again"]

def classifySecretError (error : Exc) (key provider : String) : Exc :=
  let text := strip error.message
  let reason := if text = "" then error.className else text
  let lowerReason := lower reason
  if error.cls = .timeoutError ∨ error.cls = .connectionError ∨
      transientMarkers.any (containsText · lowerReason) then
    secretError .transient key provider reason
  else
    secretError .permanent key provider reason

def getFromBackend (backend : SecretBackend) (key : String) :
    Except Exc String :=
  match backend.get key with
  | .ok value => .ok value
  | .error exc =>
      if isSecretError exc then .error exc
      else .error (classifySecretError exc key backend.provider)

/-- `get_secret(key, backend=backend)`. -/
def getSecretFrom (backend : SecretBackend) (key : String) :
    Except Exc String :=
  let keyName := strip key
  if keyName = "" then
    .error (secretError .permanent key "secrets" "empty key is not allowed")
  else getFromBackend backend keyName

def secretScope (env : SecretEnv) : String :=
  let scope := strip (env.getenv "DATABRICKS_SECRET_SCOPE" "")
  if scope = "" then strip (env.getenv "KEY_VAULT_SECRET_SCOPE" "") else scope

/-- `get_secret(key)` without an explicit backend. -/
def getSecret (env : SecretEnv) (key : String) : Except Exc String :=
  let keyName := strip key
  if keyName = "" then
    .error (secretError .permanent key "secrets" "empty key is not allowed")
  else
    match (envSecretsBackend env).get keyName with
    | .ok value => .ok value
    | .error _ =>
        if secretScope env = "" then
          .error (secretError .permanent keyName "secrets"
            ("missing env stub and no " ++
              "DATABRICKS_SECRET_SCOPE/KEY_VAULT_SECRET_SCOPE"))
        else
          getFromBackend (databricksSecretBackend env (secretScope env)) keyName

end PipelineOps.Orchestrator
