/-!
# Kinds of refusals

The service names by a code why it refuses a request. A table maps the codes to kinds and
describes each; codes that are not in it are of the kind `unknown`. Two codes
may mean one kind, and the first of them in the table is the usual one.
-/

namespace ObjectStore

inductive RefusalKind where
  | accessDenied
  | accountProblem
  | allAccessDisabled
  | ambiguousGrantByEmailAddress
  | operationAborted
  | badDigest
  | bucketAlreadyExists
  | bucketNotEmpty
  | credentialsNotSupported
  | entityTooLarge
  | incompleteBody
  | internalError
  | invalidAccessKeyId
  | invalidAddressingHeader
  | invalidArgument
  | invalidBucketName
  | invalidDigest
  | invalidRange
  | invalidSecurity
  | invalidSoapRequest
  | invalidStorageClass
  | invalidTargetBucketForLogging
  | keyTooLong
  | invalidUri
  | malformedAcl
  | malformedXml
  | maxMessageLengthExceeded
  | metadataTooLarge
  | methodNotAllowed
  | missingAttachment
  | missingContentLength
  | missingSecurityElement
  | missingSecurityHeader
  | noLoggingStatusForKey
  | noSuchBucket
  | noSuchKey
  | notImplemented
  | notSignedUp
  | preconditionFailed
  | requestTimeout
  | requestTimeTooSkewed
  | requestTorrentOfBucketError
  | signatureDoesNotMatch
  | unknown
  deriving DecidableEq, Repr, Inhabited

namespace RefusalKind

def name : RefusalKind → String
  | .accessDenied => "AccessDenied"
  | .accountProblem => "AccountProblem"
  | .allAccessDisabled => "AllAccessDisabled"
  | .ambiguousGrantByEmailAddress => "AmbiguousGrantByEmailAddress"
  | .operationAborted => "OperationAborted"
  | .badDigest => "BadDigest"
  | .bucketAlreadyExists => "BucketAlreadyExists"
  | .bucketNotEmpty => "BucketNotEmpty"
  | .credentialsNotSupported => "CredentialsNotSupported"
  | .entityTooLarge => "EntityTooLarge"
  | .incompleteBody => "IncompleteBody"
  | .internalError => "InternalError"
  | .invalidAccessKeyId => "InvalidAccessKeyId"
  | .invalidAddressingHeader => "InvalidAddressingHeader"
  | .invalidArgument => "InvalidArgument"
  | .invalidBucketName => "InvalidBucketName"
  | .invalidDigest => "InvalidDigest"
  | .invalidRange => "InvalidRange"
  | .invalidSecurity => "InvalidSecurity"
  | .invalidSoapRequest => "InvalidSoapRequest"
  | .invalidStorageClass => "InvalidStorageClass"
  | .invalidTargetBucketForLogging => "InvalidTargetBucketForLogging"
  | .keyTooLong => "KeyTooLong"
  | .invalidUri => "InvalidUri"
  | .malformedAcl => "MalformedAcl"
  | .malformedXml => "MalformedXml"
  | .maxMessageLengthExceeded => "MaxMessageLengthExceeded"
  | .metadataTooLarge => "MetadataTooLarge"
  | .methodNotAllowed => "MethodNotAllowed"
  | .missingAttachment => "MissingAttachment"
  | .missingContentLength => "MissingContentLength"
  | .missingSecurityElement => "MissingSecurityElement"
  | .missingSecurityHeader => "MissingSecurityHeader"
  | .noLoggingStatusForKey => "NoLoggingStatusForKey"
  | .noSuchBucket => "NoSuchBucket"
  | .noSuchKey => "NoSuchKey"
  | .notImplemented => "NotImplemented"
  | .notSignedUp => "NotSignedUp"
  | .preconditionFailed => "PreconditionFailed"
  | .requestTimeout => "RequestTimeout"
  | .requestTimeTooSkewed => "RequestTimeTooSkewed"
  | .requestTorrentOfBucketError => "RequestTorrentOfBucketError"
  | .signatureDoesNotMatch => "SignatureDoesNotMatch"
  | .unknown => "Unknown"

structure Row where
  code : String
  kind : RefusalKind
  description : String

def table : List Row :=
  [
    ⟨"AccessDenied", .accessDenied,
      "Access Denied"⟩,
    ⟨"AccountProblem", .accountProblem,
      "There is a problem with your account that prevents the operation from completing successfully."⟩,
    ⟨"AllAccessDisabled", .allAccessDisabled,
      "All access to this object has been disabled."⟩,
    ⟨"AmbiguousGrantByEmailAddress", .ambiguousGrantByEmailAddress,
      "The e-mail address you provided is associated with more than one account."⟩,
    ⟨"OperationAborted", .operationAborted,
      "A conflicting conditional operation is currently in progress against this resource."⟩,
    ⟨"BadDigest", .badDigest,
      "The Content-MD5 you specified did not match what we received."⟩,
    ⟨"BucketAlreadyExists", .bucketAlreadyExists,
      "The named bucket you tried to create already exists."⟩,
    ⟨"BucketNotEmpty", .bucketNotEmpty,
      "The bucket you tried to delete is not empty."⟩,
    ⟨"CredentialsNotSupported", .credentialsNotSupported,
      "This request does not support credentials."⟩,
    ⟨"EntityTooLarge", .entityTooLarge,
      "Your proposed upload exceeds the maximum allowed object size."⟩,
    ⟨"IncompleteBody", .incompleteBody,
      "You did not provide the number of bytes specified by the Content-Length HTTP header."⟩,
    ⟨"InternalError", .internalError,
      "We encountered an internal error. Please try again."⟩,
    ⟨"InvalidAccessKeyId", .invalidAccessKeyId,
      "The access key id you provided does not exist in our records."⟩,
    ⟨"InvalidAddressingHeader", .invalidAddressingHeader,
      "You must specify the Anonymous role."⟩,
    ⟨"InvalidArgument", .invalidArgument,
      "Invalid Argument"⟩,
    ⟨"InvalidBucketName", .invalidBucketName,
      "The specified bucket is not valid."⟩,
    ⟨"InvalidDigest", .invalidDigest,
      "The Content-MD5 you specified was invalid."⟩,
    ⟨"InvalidRange", .invalidRange,
      "The requested range is not satisfiable."⟩,
    ⟨"InvalidSecurity", .invalidSecurity,
      "The provided security credentials are not valid."⟩,
    ⟨"InvalidSOAPRequest", .invalidSoapRequest,
      "The SOAP request body is invalid."⟩,
    ⟨"InvalidStorageClass", .invalidStorageClass,
      "The storage class you specified is not valid."⟩,
    ⟨"InvalidTargetBucketForLogging", .invalidTargetBucketForLogging,
      "The target bucket for logging does not exist or is not owned by you."⟩,
    ⟨"KeyTooLong", .keyTooLong,
      "Your key is too long."⟩,
    ⟨"KeyTooLongError", .keyTooLong,
      "Your key is too long."⟩,
    ⟨"InvalidURI", .invalidUri,
      "Couldn't parse the specified URI."⟩,
    ⟨"MalformedACLError", .malformedAcl,
      "The ACL you provided was not well-formed or did not validate against the published schema."⟩,
    ⟨"MalformedXMLError", .malformedXml,
      "The XML you provided was not well-formed or did not validate against the published schema."⟩,
    ⟨"MalformedXML", .malformedXml,
      "The XML you provided was not well-formed or did not validate against the published schema."⟩,
    ⟨"MaxMessageLengthExceeded", .maxMessageLengthExceeded,
      "Your request was too big."⟩,
    ⟨"MetadataTooLarge", .metadataTooLarge,
      "Your metadata headers exceed the maximum allowed metadata size."⟩,
    ⟨"MethodNotAllowed", .methodNotAllowed,
      "The specified method is not allowed against this resource."⟩,
    ⟨"MissingAttachment", .missingAttachment,
      "A SOAP attachment was expected, but none were found."⟩,
    ⟨"MissingContentLength", .missingContentLength,
      "You must provide the Content-Length HTTP header."⟩,
    ⟨"MissingSecurityElement", .missingSecurityElement,
      "The SOAP 1.1 request is missing a security element."⟩,
    ⟨"MissingSecurityHeader", .missingSecurityHeader,
      "Your request was missing a required header."⟩,
    ⟨"NoLoggingStatusForKey", .noLoggingStatusForKey,
      "There is no such thing as a logging status sub-resource for a key."⟩,
    ⟨"NoSuchBucket", .noSuchBucket,
      "The specified bucket does not exist."⟩,
    ⟨"NoSuchKey", .noSuchKey,
      "The specified key does not exist."⟩,
    ⟨"NotImplemented", .notImplemented,
      "A header you provided implies functionality that is not implemented."⟩,
    ⟨"NotSignedUp", .notSignedUp,
      "Your account is not signed up for the service."⟩,
    ⟨"PreconditionFailed", .preconditionFailed,
      "At least one of the pre-conditions you specified did not hold."⟩,
    ⟨"RequestTimeout", .requestTimeout,
      "Your socket connection to the server was not read from or written to within the timeout period."⟩,
    ⟨"RequestTimeTooSkewed", .requestTimeTooSkewed,
      "The difference between the request time and the server's time is too large."⟩,
    ⟨"RequestTorrentOfBucketError", .requestTorrentOfBucketError,
      "Requesting the torrent file of a bucket is not permitted."⟩,
    ⟨"SignatureDoesNotMatch", .signatureDoesNotMatch,
      "The request signature we calculated does not match the signature you provided."⟩]

/-- The kind that a code means; upper and lower case differ. -/
def ofCode (code : String) : RefusalKind :=
  match table.find? (·.code = code) with
  | some row => row.kind
  | none => .unknown

def code? (kind : RefusalKind) : Option String :=
  (table.find? (·.kind = kind)).map Row.code

def description (kind : RefusalKind) : String :=
  match table.find? (·.kind = kind) with
  | some row => row.description
  | none => "An unhandled service error code was returned."

theorem nodup_codes : (table.map Row.code).Nodup := by decide +kernel

end RefusalKind
end ObjectStore
