import ObjectStore.Text.Quoted

/-!
# Credentials
-/

namespace ObjectStore

/-- Who signs a request: the public name of a key, and the key. -/
structure Credentials where
  keyId : String
  secret : String
  deriving DecidableEq

/-- How credentials are shown. The key does not show. -/
def Credentials.shown (c : Credentials) : String :=
  Quoted.record "Credentials"
    [("access_key_id", Quoted.text c.keyId), ("secret_access_key", "\"** redacted **\"")]

end ObjectStore
