import ObjectStore.Bucket.Calls
import ObjectStore.Bucket.Listing
import ObjectStore.Calendar.Date
import ObjectStore.Calendar.HttpDate
import ObjectStore.Calendar.Instant
import ObjectStore.Calendar.Timestamp
import ObjectStore.Client.Basic
import ObjectStore.Client.Session
import ObjectStore.Data.Pieces
import ObjectStore.Data.SortedMap
import ObjectStore.Digest.Hmac
import ObjectStore.Digest.Md5
import ObjectStore.Digest.Sha1
import ObjectStore.Encoding.Base64
import ObjectStore.Encoding.Form
import ObjectStore.Encoding.Hex
import ObjectStore.Encoding.Percent
import ObjectStore.Encoding.Punycode
import ObjectStore.Exchange
import ObjectStore.Failure
import ObjectStore.Http.Chunk
import ObjectStore.Http.Connection
import ObjectStore.Http.Header
import ObjectStore.Http.Incoming
import ObjectStore.Http.Outgoing
import ObjectStore.Http.Verb
import ObjectStore.Naming
import ObjectStore.Object.Fetch
import ObjectStore.Object.Info
import ObjectStore.Object.Put
import ObjectStore.Proofs.Http.HeaderTexts
import ObjectStore.Proofs.Request.Building
import ObjectStore.Proofs.Request.Instants
import ObjectStore.Proofs.Text.Utf8
import ObjectStore.Proofs.Upload.Blocks
import ObjectStore.Proofs.Upload.InTurn
import ObjectStore.Request.Credentials
import ObjectStore.Request.Operation
import ObjectStore.Request.Signature
import ObjectStore.Service.Kind
import ObjectStore.Service.Refusal
import ObjectStore.Settings.Acl
import ObjectStore.Settings.Client
import ObjectStore.Settings.Value
import ObjectStore.Text.Blank
import ObjectStore.Text.Decimal
import ObjectStore.Text.Printable
import ObjectStore.Text.Quoted
import ObjectStore.Text.Scan
import ObjectStore.Text.Split
import ObjectStore.Text.Utf8
import ObjectStore.Transport.Basic
import ObjectStore.Transport.Record
import ObjectStore.Unicode.Category
import ObjectStore.Unicode.CodeTable
import ObjectStore.Unicode.CombiningClass
import ObjectStore.Unicode.Composition
import ObjectStore.Unicode.Decomposition
import ObjectStore.Unicode.Direction
import ObjectStore.Unicode.Joining
import ObjectStore.Unicode.NameMapping
import ObjectStore.Upload.Channel
import ObjectStore.Upload.Cutter
import ObjectStore.Upload.Outcome
import ObjectStore.Upload.Run
import ObjectStore.Upload.Source
import ObjectStore.Upload.Supply
import ObjectStore.Upload.Uploader
import ObjectStore.Url.Address
import ObjectStore.Url.Basic
import ObjectStore.Url.Domain
import ObjectStore.Url.Error
import ObjectStore.Url.Host
import ObjectStore.Url.Label
import ObjectStore.Url.Path
import ObjectStore.Url.Scheme
import ObjectStore.Xml.Cursor
import ObjectStore.Xml.Event
import ObjectStore.Xml.Record
import ObjectStore.Xml.Scope
import ObjectStore.Xml.Tag
import ObjectStore.Xml.Token
import ObjectStore.Proofs.Upload.Schedules
import ObjectStore.Proofs.Client.Accounts
import ObjectStore.Proofs.Client.Histories
import ObjectStore.Proofs.Client.Answers
import ObjectStore.Proofs.Encoding.Form
import ObjectStore.Proofs.Request.Verifier
import ObjectStore.Proofs.Data.Trace
import ObjectStore.Proofs.Upload.Deeds
import ObjectStore.Proofs.Upload.Supplies
import ObjectStore.Proofs.Upload.Flow
import ObjectStore.Proofs.Upload.Progress
import ObjectStore.Proofs.Upload.Lifecycle
import ObjectStore.Proofs.Http.Readings
import ObjectStore.Proofs.Client.Results
import ObjectStore.Proofs.Client.Listings
import ObjectStore.Proofs.Url.Paths
import ObjectStore.Proofs.Request.Resources
import ObjectStore.Proofs.Request.SignedParts
import ObjectStore.Proofs.Object.Metadata
import ObjectStore.Proofs.Upload.BlockKeys
import ObjectStore.Proofs.Client.Secrets
import ObjectStore.Proofs.Service.Refusals
import ObjectStore.Proofs.Bucket.Pages
import ObjectStore.Proofs.Request.Parameters
import ObjectStore.Proofs.Request.ReceivedValues
import ObjectStore.Proofs.Request.Endpoints
import ObjectStore.Proofs.Text.Order
import ObjectStore.Proofs.Text.Trimming
import ObjectStore.Proofs.Xml.Delimiting
import ObjectStore.Proofs.Xml.Unfinished
import ObjectStore.Proofs.Xml.Grammar
import ObjectStore.Proofs.Service.Truncated
import ObjectStore.Proofs.Digest.Parts
import ObjectStore.Proofs.Object.Bodies
import ObjectStore.Proofs.Object.Precedence
import ObjectStore.Proofs.Object.Files
import ObjectStore.Proofs.Object.Fetching
import ObjectStore.Proofs.Bucket.Layouts
import ObjectStore.Proofs.Bucket.StoredKeys
import ObjectStore.Proofs.Calendar.HttpDates
import ObjectStore.Proofs.Http.HeaderLists
import ObjectStore.Proofs.Object.Digests
