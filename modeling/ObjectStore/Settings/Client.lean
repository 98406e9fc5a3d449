import ObjectStore.Request.Credentials
import ObjectStore.Settings.Value

/-!
# Settings of a client

What a client is told before it is used. A setting that is left out has its
usual value; credentials have to be given in full.
-/

namespace ObjectStore

/-- The settings of a client: where the service is, how long to wait, and
how much of an error document to read. -/
structure ClientSettings where
  endpoint : String
  connectTimeout : Option Nat
  timeout : Option Nat
  errorLimit : Nat
  deriving DecidableEq, Repr

namespace ClientSettings

def usual : ClientSettings := ⟨"https://s3.amazonaws.com", none, none, 2048⟩

instance : Inhabited ClientSettings := ⟨usual⟩

/-- Reads a setting, or takes its usual value if it is left out. -/
def orUsual {α : Type} (read : SettingValue → Option α) (usual : α) :
    Option SettingValue → Option α
  | none => some usual
  | some v => read v

def ofValue? (v : SettingValue) : Option ClientSettings := do
  match ← v.fields? ["endpoint", "connect_timeout_secs", "timeout_secs", "max_error_body"] with
  | [endpoint, connectTimeout, timeout, errorLimit] =>
    let endpoint ← orUsual SettingValue.text? usual.endpoint endpoint
    let connectTimeout ← orUsual SettingValue.optionalNatural? none connectTimeout
    let timeout ← orUsual SettingValue.optionalNatural? none timeout
    let errorLimit ← orUsual SettingValue.natural? usual.errorLimit errorLimit
    return ⟨endpoint, connectTimeout, timeout, errorLimit⟩
  | _ => none

end ClientSettings

def Credentials.ofValue? (v : SettingValue) : Option Credentials := do
  match ← v.fields? ["access_key_id", "secret_access_key"] with
  | [some keyId, some secret] => return ⟨← keyId.text?, ← secret.text?⟩
  | _ => none

end ObjectStore
