import EntitlementClient.Arithmetic.Multiple
import EntitlementClient.Arithmetic.Residue
import EntitlementClient.Calendar.Date
import EntitlementClient.Config.BaseUrl
import EntitlementClient.Config.Basic
import EntitlementClient.Config.Credentials
import EntitlementClient.Config.Host
import EntitlementClient.Decimal.Binary64
import EntitlementClient.Decimal.Shortest
import EntitlementClient.Error
import EntitlementClient.Hash.Sha512
import EntitlementClient.Http.Client
import EntitlementClient.Http.Message
import EntitlementClient.Http.Request
import EntitlementClient.Http.Response
import EntitlementClient.Http.Target
import EntitlementClient.Identity.Basic
import EntitlementClient.Identity.Ber
import EntitlementClient.Identity.Certificate
import EntitlementClient.Identity.Der
import EntitlementClient.Identity.Name
import EntitlementClient.Identity.ObjectId
import EntitlementClient.Identity.Pem
import EntitlementClient.Identity.Presentation
import EntitlementClient.Identity.PrivateKey
import EntitlementClient.Identity.PrivateKey.Curve
import EntitlementClient.Identity.PrivateKey.Edwards
import EntitlementClient.Identity.PrivateKey.Encoding
import EntitlementClient.Identity.PrivateKey.Rsa
import EntitlementClient.Identity.ShortName
import EntitlementClient.Identity.Time
import EntitlementClient.Json.Basic
import EntitlementClient.Json.Fault
import EntitlementClient.Json.Numeral
import EntitlementClient.Json.Reader
import EntitlementClient.Json.Skip
import EntitlementClient.Json.Token
import EntitlementClient.Json.Writer
import EntitlementClient.Model.Certificate
import EntitlementClient.Model.Consumer
import EntitlementClient.Model.Content
import EntitlementClient.Model.Entitlement
import EntitlementClient.Model.Owner
import EntitlementClient.Model.Pool
import EntitlementClient.Model.Product
import EntitlementClient.Model.Status
import EntitlementClient.Model.Subscription
import EntitlementClient.Operation
import EntitlementClient.Proofs.Calendar.Date
import EntitlementClient.Proofs.Calendar.Days
import EntitlementClient.Proofs.Choices
import EntitlementClient.Proofs.Config.Acceptance
import EntitlementClient.Proofs.Config.BaseUrl
import EntitlementClient.Proofs.Config.Host
import EntitlementClient.Proofs.Config.Inspection
import EntitlementClient.Proofs.Config.Secrets
import EntitlementClient.Proofs.Http.Authorization
import EntitlementClient.Proofs.Http.Body
import EntitlementClient.Proofs.Http.DotSegments
import EntitlementClient.Proofs.Http.Exchange
import EntitlementClient.Proofs.Http.Grouping
import EntitlementClient.Proofs.Http.Headers
import EntitlementClient.Proofs.Http.Reply
import EntitlementClient.Proofs.Http.Setup
import EntitlementClient.Proofs.Http.UrlParts
import EntitlementClient.Proofs.Identity.Der
import EntitlementClient.Proofs.Identity.Joining
import EntitlementClient.Proofs.Identity.ObjectId
import EntitlementClient.Proofs.Identity.Pem
import EntitlementClient.Proofs.Identity.Presentation
import EntitlementClient.Proofs.Identity.Section
import EntitlementClient.Proofs.Identity.Subject
import EntitlementClient.Proofs.Identity.UserId
import EntitlementClient.Proofs.Json.Extent
import EntitlementClient.Proofs.Json.Grammar
import EntitlementClient.Proofs.Json.NameMap
import EntitlementClient.Proofs.Json.Numeral
import EntitlementClient.Proofs.Json.Skip
import EntitlementClient.Proofs.Json.Sorted
import EntitlementClient.Proofs.Json.Source
import EntitlementClient.Proofs.Json.Token
import EntitlementClient.Proofs.Json.Writer
import EntitlementClient.Proofs.Model.Absence
import EntitlementClient.Proofs.Model.Carriage
import EntitlementClient.Proofs.Model.Catalogue
import EntitlementClient.Proofs.Model.NewPool
import EntitlementClient.Proofs.Model.NewProduct
import EntitlementClient.Proofs.Model.Overriding
import EntitlementClient.Proofs.Model.Posting
import EntitlementClient.Proofs.Model.Secrets
import EntitlementClient.Proofs.Model.Variation
import EntitlementClient.Proofs.Operation.Decoding
import EntitlementClient.Proofs.Operation.Endpoint
import EntitlementClient.Proofs.Operation.Reading
import EntitlementClient.Proofs.Operation.Request
import EntitlementClient.Proofs.Operation.Upload
import EntitlementClient.Proofs.Result
import EntitlementClient.Proofs.Route.Alphabet
import EntitlementClient.Proofs.Route.Reading
import EntitlementClient.Proofs.Schema.Absence
import EntitlementClient.Proofs.Schema.Addition
import EntitlementClient.Proofs.Schema.Carriage
import EntitlementClient.Proofs.Schema.Decoded
import EntitlementClient.Proofs.Schema.Encoding
import EntitlementClient.Proofs.Schema.Extent
import EntitlementClient.Proofs.Schema.Integral
import EntitlementClient.Proofs.Schema.Local
import EntitlementClient.Proofs.Schema.Meaning
import EntitlementClient.Proofs.Schema.Order
import EntitlementClient.Proofs.Schema.Placement
import EntitlementClient.Proofs.Schema.Reading
import EntitlementClient.Proofs.Schema.RoundTrip
import EntitlementClient.Proofs.Schema.Variation
import EntitlementClient.Proofs.Schema.Within
import EntitlementClient.Proofs.Schema.Written
import EntitlementClient.Proofs.Session.Call
import EntitlementClient.Proofs.Session.Classification
import EntitlementClient.Proofs.Session.History
import EntitlementClient.Proofs.Session.Log
import EntitlementClient.Proofs.Session.Opening
import EntitlementClient.Proofs.Session.OwnConsumer
import EntitlementClient.Proofs.Session.Presenting
import EntitlementClient.Proofs.Session.RequestLine
import EntitlementClient.Proofs.Session.Secrets
import EntitlementClient.Proofs.Session.Sending
import EntitlementClient.Proofs.Text.Cut
import EntitlementClient.Proofs.Text.Lines
import EntitlementClient.Proofs.Text.Percent
import EntitlementClient.Proofs.Text.Quoted
import EntitlementClient.Proofs.Text.Utf8
import EntitlementClient.Proofs.Trace
import EntitlementClient.Route.Address
import EntitlementClient.Route.Basic
import EntitlementClient.Schema.Basic
import EntitlementClient.Schema.Decoder
import EntitlementClient.Schema.Encoder
import EntitlementClient.Schema.Inspect
import EntitlementClient.Session.Basic
import EntitlementClient.Text.Base64
import EntitlementClient.Text.Blank
import EntitlementClient.Text.CodePoints
import EntitlementClient.Text.Hex
import EntitlementClient.Text.Lines
import EntitlementClient.Text.Percent
import EntitlementClient.Text.Quoted
import EntitlementClient.Text.Utf16
import EntitlementClient.Text.Utf8
import EntitlementClient.Trace
