import ObjectStore.Text.Utf8

/-!
# Schemes and kept bytes

What a scheme says about the form of a URL, and which bytes stand for
themselves in each part of one.
-/

namespace ObjectStore

/-- How URLs of a scheme are read. A special scheme takes `\` for `/` and
cannot do without a host; a file may have none. -/
inductive SchemeForm where
  | special (defaultPort : Nat)
  | file
  | other
  deriving DecidableEq, Repr

namespace SchemeForm

def ofScheme (scheme : String) : SchemeForm :=
  if scheme = "http" ∨ scheme = "ws" then .special 80
  else if scheme = "https" ∨ scheme = "wss" then .special 443
  else if scheme = "ftp" then .special 21
  else if scheme = "file" then .file
  else .other

/-- A backslash counts as a slash, and there is always a path. -/
def isSpecial : SchemeForm → Bool
  | .special _ => true
  | .file => true
  | .other => false

def isSlash (form : SchemeForm) (c : Char) : Bool :=
  c == '/' || (form.isSpecial && c == '\\')

def endsAuthority (form : SchemeForm) (c : Char) : Bool :=
  form.isSlash c || c == '?' || c == '#'

end SchemeForm

def isVisible (b : UInt8) : Bool := 0x20 ≤ b && b ≤ 0x7E

def keptBut (escaped : String) (b : UInt8) : Bool :=
  isVisible b && !(Utf8.encode escaped).contains b

def keptInUser : UInt8 → Bool := keptBut " \"<>\x60#?\x7b\x7d/:;=@[\\]^|"

def keptInPath : UInt8 → Bool := keptBut " \"<>\x60#?\x7b\x7d"

def keptInQuery (form : SchemeForm) : UInt8 → Bool :=
  keptBut (if form.isSpecial then " \"#<>'" else " \"#<>")

def keptInFragment : UInt8 → Bool := keptBut " \"<>\x60"

end ObjectStore
