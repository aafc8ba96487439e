import Reroll.Document.Shown
import Reroll.Http.Coding
import Reroll.Http.Redirect
import Reroll.Json.Encoding

/-!
# Requests and replies

A download follows redirects, at most twenty of them, and succeeds when the last reply has a
status of success and its body is JSON text. The replies are numbered from the first request on.
-/

namespace Reroll.Http

/-- What comes back for a request: a response, or the name of the trouble on the way. -/
inductive Reply where
  | failure (name : String)
  | response (status : Nat) (headers : List (String × String)) (body : ByteArray)

/-- A request with the headers that a server may look at. -/
structure Request where
  method : String
  url : String
  accept : String
  acceptLanguage : String
  userAgent : String
  deriving DecidableEq

/-- Asks for a document in JSON. -/
def Request.get (url : Url) : Request where
  method := "GET"
  url := url.text
  accept := "application/json"
  acceptLanguage := "en-US,en;q=0.9"
  userAgent := "Mozilla/5.0 (Windows NT 10.0; Win64; x64) AppleWebKit/537.36"

/-- The most redirects that are followed. -/
def redirectLimit : Nat := 20

/-- Why a download fails. -/
inductive DownloadError where
  | transport (name : String)
  | header (name : String)
  | coding
  | noScheme (url : String)
  | host (name : String)
  | tooManyRedirects
  | place (e : UrlError)
  | status (code : Nat)
  | notText
  | json (f : Json.Failure)
  | notAddress (kind shown : String)
  | address (e : UrlError)

namespace DownloadError

/-- The wording of a failed download. -/
def message : DownloadError → String
  | .transport name => name
  | .header name => "header " ++ name ++ " is not ASCII"
  | .coding => "body cannot be unpacked"
  | .noScheme url => "unknown url type: " ++ Text.quoted url
  | .host name => "host cannot be told: " ++ Text.quoted name
  | .tooManyRedirects => "Exceeded maximum allowed redirects."
  | .place e => "Invalid URL in location header: " ++ e.message ++ "."
  | .status code => "status " ++ toString code
  | .notText => "body is not text"
  | .json f => f.message
  | .notAddress kind shown =>
    "Invalid type for url.  Expected str or httpx.URL, got <class '" ++ kind ++ "'>: " ++ shown
  | .address e => e.message

/-- The failure is one of the connection or of the reply, which is reported and got over. -/
def isExpected : DownloadError → Bool
  | .notAddress _ _ => false
  | .address _ => false
  | .json (.tooDeep _) => false
  | _ => true

/-- The failure of a redirect as one of a download. -/
def ofRedirect : Url.RedirectError → DownloadError
  | .place e => .place e
  | .address e => .address e
  | .host name => .host name

end DownloadError

/-- The values of a header, whose name has no case. -/
def headerValues (headers : List (String × String)) (name : String) : List String :=
  (headers.filter fun h => String.ofList (Text.lower h.1.toList) == name).map Prod.snd

/-- The statuses that send a request elsewhere. -/
def redirectStatuses : List Nat := [301, 302, 303, 307, 308]

/-- The place that a response sends a request to. -/
def redirect? (status : Nat) (headers : List (String × String)) : Option String :=
  match headerValues headers "location" with
  | [] => none
  | values =>
    if redirectStatuses.contains status then some (String.intercalate ", " values) else none

/-- Characters of ASCII alone. -/
def isAscii (s : String) : Bool := s.toList.all fun c => c.toNat < 0x80

/-- The unpacked body of a response, whose headers must be in ASCII. -/
def receive (headers : List (String × String)) (body : ByteArray) :
    Except DownloadError ByteArray :=
  match headers.find? fun h => !isAscii h.1 || !isAscii h.2 with
  | some h => .error (.header h.1)
  | none =>
    match Coding.unpackAll? (Coding.namesIn (headerValues headers "content-encoding")) body with
    | some body => .ok body
    | none => .error .coding

/-- The requests of a download and what the last one gave. -/
structure Download where
  requests : List Request
  result : Except DownloadError ByteArray

/-- What a response to a request gives: a body, or the address to ask next. A response to a request
without a scheme, or to a host whose end cannot be told, cannot be used. -/
def outcome (url : Url) (status : Nat) (headers : List (String × String)) (body : ByteArray) :
    Except DownloadError (ByteArray ⊕ Url) := do
  let body ← receive headers body
  if url.scheme.isEmpty then throw (.noScheme url.text)
  if !Host.isBounded url.host.toList then throw (.host url.host)
  match redirect? status headers with
  | none => if 200 ≤ status && status < 300 then return .inl body else throw (.status status)
  | some location => .inr <$> (url.redirected location).mapError DownloadError.ofRedirect

/-- Sends a request and follows redirects, at most `left` of them. `made` requests went before. No
request is sent to a host that cannot be written in ASCII or read. -/
def downloadFrom (replies : Nat → Reply) (made : Nat) (url : Url) (left : Nat) : Download :=
  if !isAscii url.host || !Host.isReadable url.host.toList then ⟨[], .error (.host url.host)⟩
  else
    match replies made with
    | .failure name => ⟨[.get url], .error (.transport name)⟩
    | .response status headers body =>
      match outcome url status headers body, left with
      | .error e, _ => ⟨[.get url], .error e⟩
      | .ok (.inl body), _ => ⟨[.get url], .ok body⟩
      | .ok (.inr _), 0 => ⟨[.get url], .error .tooManyRedirects⟩
      | .ok (.inr next), left + 1 =>
        let rest := downloadFrom replies (made + 1) next left
        ⟨.get url :: rest.requests, rest.result⟩

/-- Downloads a document. Without a host only the path is asked for. -/
def download (replies : Nat → Reply) (made : Nat) (url : Value) : Download :=
  match url with
  | .text s =>
    match Url.ofText s with
    | .error e => ⟨[], .error (.address e)⟩
    | .ok u => downloadFrom replies made (if u.isAbsolute then u else u.pathOnly) redirectLimit
  | v => ⟨[], .error (.notAddress v.fullKindName v.shown)⟩

/-- Reads a body as JSON text. -/
def readBody (body : ByteArray) : Except DownloadError Value :=
  match Json.textOfBytes? body.toList with
  | none => .error .notText
  | some s => (Json.read s).mapError .json

end Reroll.Http
