import ObjectStore.Encoding.Percent
import ObjectStore.Text.Split
import ObjectStore.Url.Scheme

/-!
# Paths

The path of a URL in its one form. Characters that may not stand for
themselves are escaped, and tabs and line ends are passed over. A segment `.` is
left out, and a segment `..` takes the one before it away unless that could be
the letter of a drive; at the end of the path both leave an empty segment. In the
path of a file, a drive letter as the first segment is written with a colon, and
empty segments at the start go.
-/

namespace ObjectStore

/-- A character of a URL that is passed over wherever it stands. -/
def isPassedOver (c : Char) : Bool := c == '\t' || c == '\n' || c == '\r'

def counted (cs : List Char) : List Char := cs.filter fun c => !isPassedOver c

namespace UrlPath

def isDot (segment : String) : Bool :=
  [".", "%2e", "%2E"].contains segment

/-- `..` and its spellings. -/
def isDoubleDot (segment : String) : Bool :=
  ["..", "%2e.", "%2E.", ".%2e", ".%2E", "%2e%2e", "%2e%2E", "%2E%2e", "%2E%2E"].contains segment

/-- The letter of a drive, written with a colon, where a colon or a bar follows
it. -/
def drive? (segment : List Char) : Option String :=
  match segment with
  | [c, d] => if c.isAlpha && (d == ':' || d == '|') then some (String.ofList [c, ':']) else none
  | _ => none

/-- The segment opens like the letter of a drive. A backslash, where it does not
count as a slash, ends the letter all the same. -/
def opensLikeDrive (segment : String) : Bool :=
  (drive? (segment.toList.take 2)).isSome && (segment.toList.drop 2).head?.all (· == '\\')

/-- Takes the last segment away, unless it could be a drive. The list holds the
last segment first. -/
def shorten : List String → List String
  | [] => []
  | segment :: before => if opensLikeDrive segment then segment :: before else before

/-- The segments kept so far, the last first. `drive` says that the first one was
read as the letter of a drive. -/
structure Kept where
  segments : List String
  drive : Bool
  deriving DecidableEq, Repr

def Kept.add (form : SchemeForm) (kept : Kept) (segment : String) : Kept :=
  match form, kept.segments, drive? segment.toList with
  | .file, [], some drive => ⟨[drive], true⟩
  | _, before, _ => ⟨segment :: before, kept.drive⟩

/-- Characters with those escaped that may not stand for themselves in a path. -/
def escape (cs : List Char) : String := Percent.encode keptInPath (String.ofList (counted cs))

/-- The letter of a drive and what follows it, where only a character that is
passed over stands between the two. They are two segments. -/
def dividedDrive? (segment : List Char) : Option (String × String) :=
  match segment.dropWhile isPassedOver with
  | [] => none
  | c :: rest =>
    match rest.dropWhile isPassedOver with
    | ':' :: t :: rest =>
      if c.isAlpha && isPassedOver t && counted rest != [] then
        some (String.ofList [c, ':'], escape rest)
      else none
    | _ => none

def walk (form : SchemeForm) (kept : Kept) : List (List Char) → Kept
  | [] => kept
  | raw :: rest =>
    let divided := if form = .file ∧ kept.segments = [] then dividedDrive? raw else none
    match divided with
    | some (drive, more) => walk form { kept with segments := [more, drive] } rest
    | none =>
      let segment := escape raw
      let leave (before : List String) : Kept :=
        { kept with segments := if rest = [] then "" :: before else before }
      if isDoubleDot segment then walk form (leave (shorten kept.segments)) rest
      else if isDot segment then walk form (leave kept.segments) rest
      else walk form (kept.add form segment) rest

def keptOf (form : SchemeForm) (cs : List Char) : Kept :=
  walk form ⟨[], false⟩ (splitWhere form.isSlash cs)

/-- The segments of a path without dot segments. -/
def segments (form : SchemeForm) (cs : List Char) : List String :=
  (keptOf form cs).segments.reverse

def join (segments : List String) : String :=
  String.join (segments.map fun s => "/" ++ s)

/-- The path whose text behind the first slash is given. -/
def text (form : SchemeForm) (cs : List Char) : String :=
  let all := segments form cs
  match form with
  | .file => "/" ++ "/".intercalate (all.dropWhile (· = ""))
  | _ => join all

def afterSlash (form : SchemeForm) (cs : List Char) : List Char :=
  match cs.dropWhile isPassedOver with
  | c :: rest => if form.isSlash c then rest else cs
  | [] => cs

example : text (.special 80) "base/../x/./y".toList = "/x/y" := by decide +kernel
example : text (.special 80) "a/b/..".toList = "/a/" := by decide +kernel
example : text (.special 80) "C:/../x".toList = "/C:/x" := by decide +kernel
example : text .other "".toList = "/" := by decide +kernel
example : text .file "//tmp".toList = "/tmp" := by decide +kernel
example : text .file "C|/x".toList = "/C:/x" := by decide +kernel

end UrlPath
end ObjectStore
