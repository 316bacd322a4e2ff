/-
Base URLs: the scheme, the authority and the path to which the paths of requests are added.
-/
import EntitlementClient.Config.Host
import EntitlementClient.Schema.Inspect
import EntitlementClient.Text.Lines

namespace EntitlementClient

open EntitlementClient.Text

/-- A base URL, as its scheme and what follows the mark after it. -/
structure BaseUrl where
  scheme : String
  rest : String
deriving DecidableEq

namespace BaseUrl

/-- What stands between the scheme and the authority. -/
def mark : String := "://"

/-- The text of the URL. -/
def text (url : BaseUrl) : String :=
  url.scheme ++ mark ++ url.rest

/-- Whether a text is the scheme of a web server; the case of letters does not matter. -/
def isScheme (s : List Char) : Bool :=
  let s := s.map Char.toLower
  s == "http".toList || s == "https".toList

/-- Whether a text can follow the scheme: there is something before the first colon or slash, and no
query or fragment. -/
def isRest (s : List Char) : Bool :=
  !(s.takeWhile fun c => c != ':' && c != '/').isEmpty && s.all fun c => c != '?' && c != '#'

/-- A text without the white space around it, and without the slashes that it then ends with. -/
def normalized (raw : List Char) : List Char :=
  dropEndWhile (· == '/') (trim raw)

/-- The base URL of a text. -/
def of (raw : String) : Except ClientError BaseUrl :=
  match cutAt? mark.toList (normalized raw.toList) with
  | none => .error (.invalidBaseUrl raw)
  | some (scheme, rest) =>
    if isScheme scheme && isRest rest then .ok ⟨String.ofList scheme, String.ofList rest⟩
    else .error (.invalidBaseUrl raw)

/-- The base URL of a server that is reached over a secured connection. -/
def ofHost (host : Host) (port : UInt16) : BaseUrl :=
  ⟨"https", host.text ++ ":" ++ toString port.toNat ++ "/candlepin"⟩

/-- The text for people to read. -/
def inspect (url : BaseUrl) : String :=
  inspectFields "BaseUrl"
    [("url", Quoted.quote url.text), ("scheme_end", toString url.scheme.length)]

end BaseUrl

end EntitlementClient
