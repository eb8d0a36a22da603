import MariaClient.ValueType
import MariaClient.Text.Digits
import MariaClient.Text.Quoted
import MariaClient.Temporal.SpanPart

/-!
# Errors

Everything that can go wrong, as causes.  `Error.message` words a cause, `Error.kind` puts it
into its class and `Error.code` gives the number under which a session records it.
-/

namespace MariaClient

/-- What a text was read as when it could not be read. -/
inductive TextKind
  | time
  | dateTime
  | timestamp
  | decimal
  | anyInteger
  | integer (signed : Bool) (width : IntWidth)
  | boolean
  | float
  | double
  deriving DecidableEq, Repr

/-- The name of a kind of text in messages. -/
def TextKind.name : TextKind → String
  | time => "time"
  | dateTime => "date time"
  | timestamp => "timestamp"
  | decimal => "decimal"
  | anyInteger => "integer"
  | integer s w => (ValueType.integer s w).name
  | boolean => "boolean"
  | float => "float"
  | double => "double"

/-- The operations on decimals whose result may not fit. -/
inductive DecimalOp
  | ofInt
  | ofDouble
  | abs
  | neg
  | rescale
  | add
  | sub
  | mul
  | div
  | parse
  deriving DecidableEq, Repr

/-- The name of an operation in messages. -/
def DecimalOp.name : DecimalOp → String
  | ofInt => "from_int"
  | ofDouble => "from_f64"
  | abs => "abs"
  | neg => "neg"
  | rescale => "rescale"
  | add => "add"
  | sub => "sub"
  | mul => "mul"
  | div => "div"
  | parse => "parse"

/-- Why there is no decimal. -/
inductive DecimalFault
  | precision (precision : Nat)
  | overflow (op : DecimalOp)
  | divisionByZero
  | fractionDigits (text : String)
  deriving DecidableEq, Repr

/-- The largest number of fraction digits of a decimal. -/
def maxPrecision : Nat := 18

/-- The wording of a fault of a decimal. -/
def DecimalFault.message : DecimalFault → String
  | precision p => s!"precision {p} exceeds {maxPrecision}"
  | overflow op => s!"overflow in {op.name}"
  | divisionByZero => "division by zero"
  | fractionDigits text => s!"'{text}' has more than {maxPrecision} fractional digits"

/-- Why a packet is not what the protocol asks for. -/
inductive ProtocolFault
  | tooShort
  | bindCount
  | rowHeader
  | timeDays (days : Nat)
  | noTls
  | fileRequested
  | sha2State (state : Option UInt8)
  | authReply (first : Option UInt8) (length : Nat)
  | reported (text : String)
  deriving DecidableEq, Repr

/-- A byte that may be missing, as messages show it. -/
def showByte : Option UInt8 → String
  | none => "None"
  | some b => s!"Some({b.toNat})"

/-- The wording of a fault of the protocol. -/
def ProtocolFault.message : ProtocolFault → String
  | tooShort => "packet too short"
  | bindCount => "bind count does not match column count"
  | rowHeader => "binary row must start with 0x00"
  | timeDays days => s!"TIME value of {days} days"
  | noTls => "server does not support SSL"
  | fileRequested => "LOAD DATA LOCAL INFILE is not supported"
  | sha2State state => s!"unexpected caching_sha2 state {showByte state}"
  | authReply first length =>
    s!"unexpected auth response {showByte first}, packet len {length}"
  | reported text => text

/-- What a limit of time was set for. -/
inductive Waiting
  | connect
  | read
  | write
  deriving DecidableEq, Repr

/-- The name of what was waited for in messages. -/
def Waiting.name : Waiting → String
  | connect => "connect"
  | read => "read"
  | write => "write"

/-- Why a section of a file of certificates and keys cannot be read. -/
inductive PemFault
  | character (byte : UInt8)
  | earlyPadding
  | padding
  | unclosed (label : String)
  | opening (line : String)
  deriving DecidableEq, Repr

/-- The wording of a fault of a section. -/
def PemFault.message : PemFault → String
  | character byte => s!"InvalidCharacter({byte.toNat})"
  | earlyPadding => "PrematurePadding"
  | padding => "InvalidTrailingPadding"
  | unclosed label => s!"section end {Text.quoted label} missing"
  | opening line => s!"illegal section start: {Text.quoted line}"

/-- Why bytes could not be moved. -/
inductive IoFault
  | endOfStream
  | handshake
  | refused
  | notFound
  | isDirectory
  | notDirectory
  | invalidArgument
  | longName
  | nulInName
  | longSocketPath
  | nulInSocketPath
  | timedOut (what : Waiting) (seconds : Nat)
  | invalidText
  | pem (fault : PemFault)
  | reported (text : String)
  deriving DecidableEq, Repr

/-- A number of seconds, as messages show it. -/
def showSeconds (seconds : Nat) : String :=
  if seconds = 0 then "0ns" else s!"{seconds}s"

/-- The wording of a fault of input or output. -/
def IoFault.message : IoFault → String
  | endOfStream => "early eof"
  | handshake => "tls handshake eof"
  | refused => "Connection refused (os error 111)"
  | notFound => "No such file or directory (os error 2)"
  | isDirectory => "Is a directory (os error 21)"
  | notDirectory => "Not a directory (os error 20)"
  | invalidArgument => "Invalid argument (os error 22)"
  | longName => "File name too long (os error 36)"
  | nulInName => "file name contained an unexpected NUL byte"
  | longSocketPath => "path must be shorter than SUN_LEN"
  | nulInSocketPath => "paths must not contain interior null bytes"
  | timedOut what seconds => s!"{what.name} timed out after {showSeconds seconds}"
  | invalidText => "stream did not contain valid UTF-8"
  | pem fault => fault.message
  | reported text => text

/-- Why the client could not prove who it is. -/
inductive AuthFault
  | unsupportedPlugin (plugin : String)
  | insecure
  | reported (text : String)
  deriving DecidableEq, Repr

/-- The wording of a fault of authentication. -/
def AuthFault.message : AuthFault → String
  | unsupportedPlugin plugin => s!"unsupported authentication plugin '{plugin}'"
  | insecure => "caching_sha2_password full authentication needs TLS or a unix socket"
  | reported text => text

/-- Why certificates or keys cannot be used. -/
inductive TlsFault
  | certificateEncoding
  | certificateVersion
  | signatureAlgorithm
  | repeatedExtension
  | criticalExtension
  | keyMismatch
  | unusableKey
  deriving DecidableEq, Repr

/-- The wording of a fault of certificates or keys. -/
def TlsFault.message : TlsFault → String
  | certificateEncoding => "invalid peer certificate: BadEncoding"
  | certificateVersion => "invalid peer certificate: Other(OtherError(UnsupportedCertVersion))"
  | signatureAlgorithm =>
    "invalid peer certificate: Other(OtherError(SignatureAlgorithmMismatch))"
  | repeatedExtension => "invalid peer certificate: Other(OtherError(ExtensionValueInvalid))"
  | criticalExtension =>
    "invalid peer certificate: Other(OtherError(UnsupportedCriticalExtension))"
  | keyMismatch => "keys may not be consistent: KeyMismatch"
  | unusableKey => "unexpected error: failed to parse private key as RSA, ECDSA, or EdDSA"

/-- Why an account cannot be used. -/
inductive ConfigFault
  | keyWithoutCertificate
  | scheme (url : String)
  | port (text : String)
  | seconds (option : String) (text : String)
  | charset (name : String)
  | unknownOption (name : String)
  | unreadable (path : String) (cause : IoFault)
  | noCertificates (path : String)
  | noPrivateKey (path : String)
  | serverName (host : String)
  | document (text : String)
  deriving DecidableEq, Repr

/-- The wording of a fault of an account. -/
def ConfigFault.message : ConfigFault → String
  | keyWithoutCertificate => "ssl key and certificate must be given together"
  | scheme url => s!"URL must start with mariadb:// or mysql://: {url}"
  | port text => s!"invalid port '{text}'"
  | seconds option text => s!"{option} must be whole seconds, got '{text}'"
  | charset name => s!"unsupported charset '{name}'"
  | unknownOption name => s!"unknown connect option '{name}'"
  | unreadable path cause => s!"cannot read {path}: {cause.message}"
  | noCertificates path => s!"no certificates found in {path}"
  | noPrivateKey path => s!"no private key found in {path}"
  | serverName host => s!"invalid TLS server name '{host}'"
  | document text => text

/-- The cause of a failure.  A client that breaks off in the middle of a call has `aborted`, and a
job that no worker could begin for has `noWorker`. -/
inductive Error
  | time (hour minute second millisecond : Nat)
  | dateTime (year month day hour minute second millisecond : Nat)
  | span (part : Temporal.SpanPart) (value : Nat)
  | format (what : TextKind) (text : String)
  | decimal (fault : DecimalFault)
  | typeMismatch (requested actual : ValueType)
  | outOfRange (index count : Nat)
  | unknownColumn (name : String)
  | noRow
  | unexpectedNull (column : Nat)
  | server (code : Nat) (message : String)
  | notConnected
  | protocol (fault : ProtocolFault)
  | auth (fault : AuthFault)
  | tls (fault : TlsFault)
  | config (fault : ConfigFault)
  | unknownHandle (job : Nat)
  | jobFailed (job : Nat) (reason : String)
  | jobPending (job : Nat)
  | resultTaken (job : Nat)
  | io (fault : IoFault)
  | aborted
  | noWorker (fault : IoFault)
  deriving DecidableEq, Repr

/-- The classes of errors. -/
inductive ErrorKind
  | validation
  | format
  | typeCoercion
  | connection
  | outOfRange
  | job
  | config
  deriving DecidableEq, Repr

/-- The name of a class of errors. -/
def ErrorKind.name : ErrorKind → String
  | validation => "Validation"
  | format => "Format"
  | typeCoercion => "TypeCoercion"
  | connection => "Connection"
  | outOfRange => "OutOfRange"
  | job => "Job"
  | config => "Config"

namespace Error

/-- The wording of an error. -/
def message : Error → String
  | time hour minute second ms =>
    s!"Invalid time: hour - {hour}, minute - {minute}, second - {second}, millisecond - {ms}"
  | dateTime year month day hour minute second ms =>
    s!"Invalid date time: year - {year}, month - {month}, day - {day}, hour - {hour}, " ++
      s!"minute - {minute}, second - {second}, millisecond - {ms}"
  | span part value =>
    s!"Invalid time span: {part.name} - {value} (must be <= {part.limit})"
  | format what text => s!"Invalid {what.name} format: '{text}'"
  | decimal fault => s!"Decimal error: {fault.message}"
  | typeMismatch requested actual =>
    s!"Type mismatch: requested {requested.name}, column is {actual.name}"
  | outOfRange index count => s!"Index {index} out of range (count {count})"
  | unknownColumn name => s!"Unknown column: '{name}'"
  | noRow => "No current row"
  | unexpectedNull column => s!"Unexpected NULL in column {column}"
  | server code text => s!"MariaDB error({code}): {text}"
  | notConnected => "Not connected"
  | protocol fault => s!"Protocol error: {fault.message}"
  | auth fault => s!"Auth error: {fault.message}"
  | tls fault => s!"TLS error: {fault.message}"
  | config fault => s!"Configuration error: {fault.message}"
  | unknownHandle job => s!"Unknown job handle: {job}"
  | jobFailed job reason => s!"Job {job} failed: {reason}"
  | jobPending job => s!"Job {job} has not finished"
  | resultTaken job => s!"Result of job {job} was already taken"
  | io fault => s!"IO error: {fault.message}"
  | aborted => "job panicked"
  | noWorker fault => s!"cannot spawn worker: {fault.message}"

/-- The class of an error. -/
def kind : Error → ErrorKind
  | time .. | dateTime .. | span .. => .validation
  | format .. | decimal _ => .format
  | typeMismatch .. | unexpectedNull _ => .typeCoercion
  | outOfRange .. | unknownColumn _ | noRow => .outOfRange
  | server .. | notConnected | protocol _ | auth _ | tls _ | io _ => .connection
  | unknownHandle _ | jobPending _ | jobFailed .. | resultTaken _ | aborted | noWorker _ => .job
  | config _ => .config

/-- The number under which an error is recorded: the server's own number, otherwise zero. -/
def code : Error → Nat
  | server code _ => code
  | _ => 0

/-- Errors after which nothing more can be expected from a connection. -/
def breaksConnection : Error → Bool
  | io _ | protocol _ => true
  | _ => false

/-- The error wrapped in this one, for the errors that only pass on another. -/
def innerMessage? : Error → Option String
  | tls fault => some fault.message
  | io fault => some fault.message
  | _ => none

end Error

end MariaClient
