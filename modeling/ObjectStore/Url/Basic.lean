import ObjectStore.Encoding.Form
import ObjectStore.Url.Host
import ObjectStore.Url.Path

/-!
# Base URLs

A URL that requests can be sent to: a scheme, mostly an authority, and a
hierarchical path, with or without a query and a fragment. Reading a URL
brings every part into its one form. A request takes the URL of its endpoint,
puts its own path into it and adds its own parameters to the query.
-/

namespace ObjectStore

/-- Who is asked: the user with the `@` behind, if there is one, the host, and
the port if it is not the usual one. -/
structure Authority where
  user : String
  host : String
  port : Option Nat
  deriving DecidableEq, Repr

/-- A base URL, every part in its one form. `setApart` says that a dot segment
sets the path apart from the scheme. -/
structure Url where
  scheme : String
  authority : Option Authority
  setApart : Bool
  path : String
  query : Option String
  fragment : Option String
  deriving DecidableEq, Repr

def Authority.text (a : Authority) : String :=
  a.user ++ a.host ++ (a.port.elim "" fun p => ":" ++ toString p)

namespace Url

def text (u : Url) : String :=
  let place :=
    match u.authority with
    | some a => "://" ++ a.text
    | none => if u.setApart then ":/." else ":"
  u.scheme ++ place ++ u.path ++ (u.query.elim "" ("?" ++ ·)) ++ (u.fragment.elim "" ("#" ++ ·))

/-! ## Reading -/

/-- A control character or a space; those at the ends do not count. -/
def isOuterBlank (c : Char) : Bool := c.toNat ≤ 0x20

def isSchemeChar (c : Char) : Bool := c.isAlphanum || c == '+' || c == '-' || c == '.'

def scheme? (cs : List Char) : Option (String × List Char) :=
  match cs, cs.dropWhile isSchemeChar with
  | c :: _, ':' :: rest =>
    if c.isAlpha then
      some (String.ofList ((cs.takeWhile isSchemeChar).map Char.toLower), rest)
    else none
  | _, _ => none

/-- The user and what follows it: the user stands before the last `@` of the
authority. A password that is empty is left out together with its colon. -/
def scanUser (form : SchemeForm) (cs : List Char) : Except UrlError (String × List Char) :=
  let area := cs.takeWhile fun c => !form.endsAuthority c
  if '@' ∈ area then
    let behind := (area.reverse.takeWhile (· ≠ '@')).length
    let info := area.take (area.length - behind - 1)
    let rest := cs.drop (area.length - behind)
    if info = [] ∧ (rest.head?.any form.endsAuthority) then .error .emptyHost
    else
      let name := info.takeWhile (· ≠ ':')
      let password := (info.dropWhile (· ≠ ':')).drop 1
      let escape (cs : List Char) : String := Percent.encode keptInUser (String.ofList cs)
      let text := escape name ++ (if password = [] then "" else ":" ++ escape password)
      .ok (if text = "" then "" else text ++ "@", rest)
  else .ok ("", cs)

/-- The length of the host: it ends at a colon outside brackets or where the
authority ends. -/
def hostLength (form : SchemeForm) : Bool → List Char → Nat
  | _, [] => 0
  | inBrackets, c :: cs =>
    if form.endsAuthority c || (c == ':' && !inBrackets) then 0
    else hostLength form (if c = '[' then true else if c = ']' then false else inBrackets) cs + 1

/-- The port behind the host and what follows it. The usual port of a scheme
and an empty one count as none. -/
def scanPort (form : SchemeForm) (cs : List Char) :
    Except UrlError (Option Nat × List Char) :=
  match cs with
  | ':' :: cs =>
    let digits := cs.takeWhile Decimal.isDigit
    let rest := cs.dropWhile Decimal.isDigit
    match Decimal.below? 65536 digits with
    | none => .error .invalidPort
    | some port =>
      if rest.head?.any (fun c => !"/\\?#".toList.contains c) then .error .invalidPort
      else if digits = [] ∨ form = .special port then .ok (none, rest)
      else .ok (some port, rest)
  | _ => .ok (none, cs)

def scanAuthority (form : SchemeForm) (cs : List Char) :
    Except UrlError (Authority × List Char) := do
  let (user, cs) ← scanUser form cs
  let length := hostLength form false cs
  let host := cs.take length
  let rest := cs.drop length
  let text ← if form.isSpecial then
      (if host = [] then .error .emptyHost else Host.special host)
    else Host.other host
  if text = "" ∧ rest.head? = some ':' then throw .emptyHost
  let (port, rest) ← scanPort form rest
  if text = "" ∧ user ≠ "" then throw .emptyHost
  return (⟨user, text, port⟩, rest)

def pathPart (cs : List Char) : List Char := cs.takeWhile fun c => c ≠ '?' ∧ c ≠ '#'

def tailOf (form : SchemeForm) (cs : List Char) : Option String × Option String :=
  let rest := cs.dropWhile fun c => c ≠ '?' ∧ c ≠ '#'
  let fragment (cs : List Char) : Option String :=
    match cs with
    | '#' :: cs => some (Percent.encode keptInFragment (String.ofList cs))
    | _ => none
  match rest with
  | '?' :: cs =>
    (some (Percent.encode (keptInQuery form) (String.ofList (cs.takeWhile (· ≠ '#')))),
      fragment (cs.dropWhile (· ≠ '#')))
  | _ => (none, fragment rest)

/-- The path behind an authority. Only under a scheme that is not special can
it be empty. -/
def pathAfterAuthority (form : SchemeForm) (cs : List Char) : String :=
  let part := pathPart cs
  if part = [] ∧ !form.isSpecial then "" else UrlPath.text form (UrlPath.afterSlash form part)

/-- The URL with these parts in front of a path, a query and a fragment. Without
an authority, a path that starts with two slashes is set apart. -/
def assemble (scheme : String) (form : SchemeForm) (authority : Option Authority)
    (path : String) (cs : List Char) : Url :=
  let (query, fragment) := tailOf form cs
  let setApart := authority.isNone && "//".toList.isPrefixOf path.toList
  ⟨scheme, authority, setApart, path, query, fragment⟩

def withAuthority (scheme : String) (form : SchemeForm) (cs : List Char) : Except UrlError Url := do
  let (authority, rest) ← scanAuthority form cs
  return assemble scheme form (some authority) (pathAfterAuthority form rest) rest

/-! ## Files -/

/-- Leaves out so many characters at the front, those passed over not counted. -/
def dropCounted : Nat → List Char → List Char
  | 0, cs => cs
  | _ + 1, [] => []
  | n + 1, c :: cs => dropCounted (if isPassedOver c then n + 1 else n) cs

/-- The host of a file, if it has one, and what follows it. A drive letter is no
host, and `localhost` is the same as none. -/
def scanFileHost (cs : List Char) : Except UrlError (Option String × List Char) :=
  let host := (counted cs).takeWhile fun c => !SchemeForm.file.endsAuthority c
  if host = [] ∨ (UrlPath.drive? host).isSome then .ok (none, cs)
  else do
    let text ← Host.special host
    return (if text = "localhost" then none else some text, dropCounted host.length cs)

def fileOn (host : String) (path cs : List Char) : Url :=
  assemble "file" .file (some ⟨"", host, none⟩) (UrlPath.text .file path) (counted cs)

/-- The URL of a file. Behind two slashes the host stands; a drive letter takes
its place. Where there is none the path keeps its first slash, so that an empty
segment stands in front of a drive letter there. -/
def ofFile (cs : List Char) : Except UrlError Url := do
  if (counted cs).length ≥ 2 ∧ ((counted cs).take 2).all SchemeForm.file.isSlash then
    let (host, rest) ← scanFileHost (dropCounted 2 cs)
    match host with
    | none => return fileOn "" (pathPart rest) rest
    | some host =>
      let path := UrlPath.afterSlash .file (pathPart rest)
      return fileOn (if (UrlPath.keptOf .file path).drive then "" else host) path rest
  else return fileOn "" (UrlPath.afterSlash .file (pathPart cs)) cs

/-! ## All schemes -/

def parse (s : String) : Except UrlError Url :=
  let trimmed := (((s.toList.dropWhile isOuterBlank).reverse).dropWhile isOuterBlank).reverse
  match scheme? (counted trimmed) with
  | none => .error .relative
  | some (scheme, rest) =>
    match SchemeForm.ofScheme scheme with
    | .special port =>
      let form := SchemeForm.special port
      withAuthority scheme form (rest.dropWhile form.isSlash)
    | .file => ofFile (dropCounted (scheme.length + 1) trimmed)
    | .other =>
      match rest with
      | '/' :: '/' :: rest => withAuthority scheme .other rest
      | '/' :: behind =>
        .ok (assemble scheme .other none (UrlPath.text .other (pathPart behind)) behind)
      | _ => .error .notHierarchical

/-! ## Requests -/

def form (u : Url) : SchemeForm := SchemeForm.ofScheme u.scheme

/-- Puts a path in place of the URL's own, in its one form. -/
def withPath (u : Url) (path : String) : Url :=
  let cs := path.toList
  { u with
    path :=
      if counted cs = [] ∧ !u.form.isSpecial then ""
      else UrlPath.text u.form (UrlPath.afterSlash u.form cs) }

def withParameters (u : Url) (ps : List (String × Option String)) : Url :=
  if ps = [] then u
  else { u with query := some (String.ofList (Form.append (u.query.getD "").toList ps)) }

end Url
end ObjectStore
