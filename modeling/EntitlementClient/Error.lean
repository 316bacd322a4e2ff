/-
What can go wrong: in a configuration, in a certificate or a reply that is read, and on the way to
the server. Each error is a cause; its wording is made in one place.
-/
import EntitlementClient.Identity.Pem

namespace EntitlementClient

/-- What is wrong with an identity certificate or its key. -/
inductive CertificateFault
  | pem (fault : Pem.Fault)
  | notACertificate
  | notAPrivateKey (label : String)
  | notPresentable
  | described (reason : String)
deriving DecidableEq

/-- The reason that is reported for a fault. -/
def CertificateFault.wording : CertificateFault → String
  | .pem fault => fault.wording
  | .notACertificate => "the block holds no certificate"
  | .notAPrivateKey label => "expected a PRIVATE KEY block, found '" ++ label ++ "'"
  | .notPresentable => "no certificate with a private key to present"
  | .described reason => reason

/-- What is wrong with a request before it is sent. -/
inductive RequestFault
  | missingBodyType
  | textBodyNotString
deriving DecidableEq

/-- The wording of a fault. -/
def RequestFault.message : RequestFault → String
  | .missingBodyType => "Cannot set a body without also setting body_type."
  | .textBodyNotString => "Cannot send a non-string body as text/plain."

/-- What can go wrong with one exchange: the server refuses it, the request is not fit to be sent,
or there is no answer. -/
inductive TransportError
  | response (code : Nat) (body : String) (reference : Option String)
  | invalidRequest (fault : RequestFault)
  | network
deriving DecidableEq

namespace TransportError

/-- The wording of an error. -/
def message : TransportError → String
  | .response code body _ => "HTTP " ++ toString code ++ ": " ++ body
  | .invalidRequest fault => fault.message
  | .network => "Network error"

/-- The status code of an answer that refuses the request. -/
def status? : TransportError → Option Nat
  | .response code _ _ => some code
  | _ => none

end TransportError

/-- What can go wrong for a caller. -/
inductive ClientError
  | conflictingCredentials
  | missingCredentials
  | emptyUsername
  | invalidHost (host : String)
  | invalidBaseUrl (url : String)
  | noConsumer
  | clientSetup (reason : String)
  | invalidCertificate (fault : CertificateFault)
  | missingUid (subject : String)
  | invalidJson (path message : String)
  | transport (error : TransportError)
  | beyondCalendar
deriving DecidableEq

namespace ClientError

/-- The wording of an error. -/
def message : ClientError → String
  | .conflictingCredentials =>
    "Cannot connect with both username and identity certificate. Choose one authentication mode."
  | .missingCredentials =>
    "Need username/password or certificate/key to connect to Candlepin."
  | .emptyUsername => "Username cannot be empty. Please provide a valid Candlepin username."
  | .invalidHost host =>
    "Invalid host '" ++ host ++
      "'. Expected a bare host name such as 'localhost' or 'candlepin.example.com'."
  | .invalidBaseUrl url =>
    "Invalid base URL '" ++ url ++
      "'. Please provide a URL with scheme (e.g., 'https://localhost:8443/candlepin')."
  | .noConsumer =>
    "No consumer identity available. " ++
      "Connect with an identity certificate or register a consumer first."
  | .clientSetup reason => "Failed to create HTTP client: " ++ reason
  | .invalidCertificate fault => "Invalid identity certificate: " ++ fault.wording
  | .missingUid subject =>
    "Identity certificate subject '" ++ subject ++ "' has no UID attribute."
  | .invalidJson path message => "Malformed JSON response from " ++ path ++ ": " ++ message
  | .transport error => error.message
  | .beyondCalendar => "The end of the pool lies beyond the calendar"

/-- The status code of an answer that refuses the request. -/
def status? : ClientError → Option Nat
  | .transport error => error.status?
  | _ => none

end ClientError

end EntitlementClient
