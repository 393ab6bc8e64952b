import BearerProxy.Forward.Outbound
import BearerProxy.Http.Framing
import BearerProxy.Http.Target
import BearerProxy.Text
import BearerProxy.Text.Base64

/-!
A request as it is written to a server: the request line, the fields that the protocol asks for, and the
body.
-/

namespace BearerProxy

structure Delivery where
  scheme : String
  server : String
  method : String
  resource : String
  headers : Http.Headers
  body : ByteArray
  deriving DecidableEq

namespace Delivery

def value (text : String) : Http.HeaderValue := ⟨text.toUTF8.toList⟩

def withDefault (headers : Http.Headers) (name : String) (value : Http.HeaderValue) : Http.Headers :=
  if headers.contains name then headers else headers.append name value

def decoded? (encoded : String) : Option String :=
  String.fromUTF8? ⟨(Url.percentDecode encoded.toList).toArray⟩

def basicAuthorization? (url : Url) : Option Http.HeaderValue := do
  let username ← decoded? url.username
  let password := url.password.bind decoded?
  if username.isEmpty && password.isNone then none
  let credentials := username ++ ":" ++ password.getD ""
  return value ("Basic " ++ String.ofList (Text.Base64.encode credentials.toUTF8.toList))

def serverOf (url : Url) (host : Url.Host) : String :=
  host.text ++
    match url.port with
    | none => ""
    | some port => ":" ++ toString port

def resourceOf (url : Url) : String :=
  url.path ++
    match url.query with
    | none => ""
    | some query => "?" ++ query

/-! The body. -/

def chunked (body : ByteArray) : ByteArray :=
  let size := Text.upperAscii (String.ofList (Nat.toDigits 16 body.size))
  (size ++ "\r\n").toUTF8 ++ body ++ "\r\n0\r\n\r\n".toUTF8

def addChunkedCoding : List (String × Http.HeaderValue) → List (String × Http.HeaderValue)
  | [] => []
  | field :: rest =>
      let isLast := rest.all fun other => other.1 ≠ "transfer-encoding"
      if field.1 = "transfer-encoding" && isLast then
        (field.1, ⟨field.2.bytes ++ ", chunked".toUTF8.toList⟩) :: rest
      else field :: addChunkedCoding rest

/-- A body of which the length is not told must end with a chunk. -/
def withChunkedCoding (headers : Http.Headers) : Http.Headers :=
  if Http.Framing.endsChunked headers then headers else ⟨addChunkedCoding headers.fields⟩

/-- The headers and the body with a framing that fits. A framing that the headers state is kept. -/
def frame (headers : Http.Headers) (body : ByteArray) : Http.Headers × ByteArray :=
  if body.isEmpty then (headers.remove "transfer-encoding", body)
  else if headers.contains "transfer-encoding" then
    let headers := withChunkedCoding headers
    let isTold := (Http.Framing.length? headers).isSome
    (if isTold then headers.remove "content-length" else headers, chunked body)
  else
    match Http.Framing.length? headers with
    | some length => (headers, body.extract 0 length)
    | none => (headers.insert "content-length" (value (toString body.size)), body)

/-! The whole. -/

/-- How a request is delivered. The URL must be one of the web. -/
def ofOutbound? (outbound : OutboundRequest) : Option Delivery := do
  let url ← (Url.parse outbound.url).toOption
  if url.scheme ≠ "http" && url.scheme ≠ "https" then none
  let server := serverOf url (← url.host)
  let target ← Http.Target.parse? (url.scheme ++ "://" ++ server ++ resourceOf url)
  let authorized :=
    match basicAuthorization? url with
    | none => outbound.headers
    | some authorization => withDefault outbound.headers "authorization" authorization
  let accepting := withDefault authorized "accept" (value "*/*")
  let (headers, body) := frame (withDefault accepting "host" (value server))
    (outbound.body.getD ByteArray.empty)
  let resource := if outbound.method = "CONNECT" then server else target.resource
  return { scheme := url.scheme, server, method := outbound.method, resource, headers, body }

def requestLine (delivery : Delivery) : String :=
  delivery.method ++ " " ++ delivery.resource ++ " HTTP/1.1"

def fieldLines (delivery : Delivery) : List ByteArray :=
  delivery.headers.fields.map fun field =>
    (field.1 ++ ": ").toUTF8 ++ ⟨field.2.bytes.toArray⟩

def bytes (delivery : Delivery) : ByteArray :=
  let lineEnd := "\r\n".toUTF8
  let head := (delivery.requestLine.toUTF8 :: delivery.fieldLines).foldl
    (fun written line => written ++ line ++ lineEnd) ByteArray.empty
  head ++ lineEnd ++ delivery.body

end Delivery

end BearerProxy
