import ObjectStore.Settings.Value

/-!
# Canned access lists

Who may read and write what is stored, in four ready-made choices.
-/

namespace ObjectStore

inductive CannedAcl where
  | privateAccess
  | publicRead
  | publicReadWrite
  | authenticatedRead
  deriving DecidableEq, Repr

namespace CannedAcl

/-- Private, unless something else is chosen. -/
instance : Inhabited CannedAcl := ⟨.privateAccess⟩

/-- The name of the choice, which is also what is sent. -/
def text : CannedAcl → String
  | .privateAccess => "private"
  | .publicRead => "public-read"
  | .publicReadWrite => "public-read-write"
  | .authenticatedRead => "authenticated-read"

def all : List CannedAcl := [.privateAccess, .publicRead, .publicReadWrite, .authenticatedRead]

def ofText? (s : String) : Option CannedAcl := all.find? (·.text = s)

def ofValue? (v : SettingValue) : Option CannedAcl := v.name?.bind ofText?

def header : String := "x-amz-acl"

end CannedAcl
end ObjectStore
