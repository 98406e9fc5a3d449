import ObjectStore.Client.Basic
import ObjectStore.Data.Pieces
import ObjectStore.Digest.Md5
import ObjectStore.Naming
import ObjectStore.Object.Info
import ObjectStore.Settings.Acl

/-!
# Storing objects

An object is stored from bytes in memory, from a file, or from a stream whose
length and digest are known. Headers come from several places. For one name,
metadata of the user go before other headers of the user, these before the
typed options, and what is known about the body before all of them.
-/

namespace ObjectStore

def contentMd5 (content : Bytes) : String := Base64.encode (Md5.digest content)

def contentMd5OfParts (parts : List Bytes) : String := Base64.encode (Md5.digestParts parts)

/-- What a file holds, and the parts in which it is read: once for its
digest, and once more while it is sent. Nobody writes to it in the meantime. -/
structure FileContent where
  bytes : Bytes
  digested : List Bytes
  sent : List Bytes
  flatten_digested : digested.flatten = bytes
  flatten_sent : sent.flatten = bytes

/-- A file: its path, and what it holds if there is one. -/
structure File where
  path : String
  content : Option FileContent

namespace File

/-- The number of bytes that one read asks for while the digest is made. -/
def digestedSize : Nat := 65536

/-- The number of bytes that one read asks for while the file is sent. -/
def sentSize : Nat := 4096

def ofContent (path : String) (content : Bytes) : File :=
  ⟨path, some
    { bytes := content
      digested := pieces digestedSize content
      sent := pieces sentSize content
      flatten_digested := flatten_pieces _ _
      flatten_sent := flatten_pieces _ _ }⟩

def absent (path : String) : File := ⟨path, none⟩

def notFound : IoError := ⟨"No such file or directory (os error 2)"⟩

end File

inductive PutBody where
  | bytes (bs : Bytes)
  | file (f : File)
  | stream (chunks : List Chunk) (length : Nat) (md5 : String)

namespace PutBody

def shown : PutBody → String
  | .bytes bs => "Bytes(" ++ toString bs.length ++ " bytes)"
  | .file f => "FilePath(" ++ f.path ++ ")"
  | .stream _ length _ => "Stream(" ++ toString length ++ " bytes)"

/-- Gives an operation the body and its digest. -/
def attach (op : Operation) : PutBody → Except IoError Operation
  | .bytes bs => .ok ((op.withHeader "content-md5" (contentMd5 bs)).withBody (.bytes bs))
  | .file f =>
    match f.content with
    | none => .error File.notFound
    | some k =>
      let body : OutgoingBody := .stream (k.sent.map .ok) k.bytes.length
      .ok ((op.withHeader "content-md5" (contentMd5OfParts k.digested)).withBody body)
  | .stream chunks length md5 =>
    .ok ((op.withHeader "content-md5" md5).withBody (.stream chunks length))

end PutBody

/-- How an object is stored. Entries of metadata and other headers are
kept by the names of their headers. -/
structure PutOptions where
  contentType : Option String
  cacheControl : Option String
  contentDisposition : Option String
  contentEncoding : Option String
  expires : Option String
  acl : CannedAcl
  custom : SortedMap String
  headers : SortedMap String

namespace PutOptions

def usual : PutOptions := ⟨none, none, none, none, none, default, ∅, ∅⟩

instance : Inhabited PutOptions := ⟨usual⟩

def withMeta (o : PutOptions) (key value : String) : PutOptions :=
  { o with custom := o.custom.insert (metaHeader key) value }

def withMetas (o : PutOptions) (entries : List (String × String)) : PutOptions :=
  entries.foldl (fun o e => o.withMeta e.1 e.2) o

def withHeader (o : PutOptions) (name value : String) : PutOptions :=
  { o with headers := o.headers.insert (Header.lowerCase name) value }

/-- The typed options as headers. -/
def typed (o : PutOptions) : List (String × Option String) :=
  [("content-type", o.contentType), ("cache-control", o.cacheControl),
    ("content-disposition", o.contentDisposition), ("content-encoding", o.contentEncoding),
    ("expires", o.expires)]

/-- All headers of the options, the ones that go before others last. -/
def allHeaders (o : PutOptions) : List (String × String) :=
  (CannedAcl.header, o.acl.text) ::
    (o.typed.filterMap fun h => h.2.map (h.1, ·)) ++ o.headers.entries ++ o.custom.entries

/-- The operation that stores an object, still without its body. -/
def operation (o : PutOptions) (bucket key : String) : Operation :=
  o.allHeaders.foldl (fun op h => op.withHeader h.1 h.2)
    (((Operation.ofVerb .put).withBucket bucket).withKey key)

end PutOptions

structure PutReceipt where
  eTag : Option String
  versionId : Option String
  deriving DecidableEq, Repr

def PutReceipt.ofResponse (r : Response) : PutReceipt :=
  ⟨r.headers.text? "etag", r.headers.text? "x-amz-version-id"⟩

def Client.putObject (c : Client) (o : PutOptions) (bucket key : String) (body : PutBody)
    (now : Instant) : Exchange PutReceipt :=
  .checking (checkBucket bucket) <| .checking (checkKey key) <|
    match body.attach (o.operation bucket key) with
    | .error e => .refused (.io e)
    | .ok op => (c.command op now).map PutReceipt.ofResponse

end ObjectStore
