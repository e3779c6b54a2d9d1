/-
Module: CachePilot.Relay.Headers
Layer: Relay
Purpose: The headers and the URL of a forwarded request. The incoming fields are listed in order with every
  occurrence, and a lookup finds the first field of a name. The hop-by-hop fields are left out first, then the host
  and the correlation headers; what is sent is a dictionary, as the source builds one. Names are ASCII, so their lower
  case is that of ASCII; blanks are those of the Latin-1 characters, which is what header values are decoded to. The
  path of a request starts with a slash and ends where its query starts.
Trusted boundary: the reading of proxy.py; header names are ASCII, values Latin-1
Main exports: hopByHopHeaders, connectionTokens, stripHopByHop, correlationHeaderNames, stripCorrelationHeaders,
  forwardedHeaders, buildUpstreamUrl, RequestTarget, forwardedUrl
-/
import Mathlib.Data.List.DropRight
import CachePilot.Lib.Dict
import CachePilot.Relay.Observation

namespace CachePilot

/-- Hop-by-hop headers, and the non-standard `Proxy-Connection`. -/
def hopByHopHeaders : List String :=
  ["connection", "keep-alive", "proxy-authenticate", "proxy-authorization", "proxy-connection", "te", "trailer",
    "transfer-encoding", "upgrade"]

/-- The blanks among the Latin-1 characters. -/
def isBlank (c : Char) : Bool :=
  decide (9 ≤ c.toNat ∧ c.toNat ≤ 13 ∨ 28 ≤ c.toNat ∧ c.toNat ≤ 32 ∨ c.toNat = 133 ∨ c.toNat = 160)

/-- A text without the blanks at its ends. -/
def stripBlanks (text : List Char) : List Char :=
  ((text.dropWhile isBlank).reverse.dropWhile isBlank).reverse

/-- The names that a `Connection` field nominates. -/
def connectionTokens (value : String) : List String :=
  ((value.toList.splitOn ',').map stripBlanks).filterMap fun token =>
    if token = [] then none else some (String.ofList token).toLower

/-- Headers without hop-by-hop fields, and without any header nominated by the first `Connection` field. A name that
    occurs again keeps its place and takes the later value. -/
def stripHopByHop (headers : List (String × String)) : Dict String String :=
  let banned := hopByHopHeaders ++ connectionTokens ((getHeader headers "connection").getD "")
  Dict.ofEntries (headers.filter fun header => header.1.toLower ∉ banned)

/-- Relay-internal correlation headers. -/
def correlationHeaderNames : List String :=
  ["x-cachepilot-session", "x-cachepilot-request", "x-cachepilot-turn", "x-cachepilot-targets"]

/-- Remove the relay-internal correlation headers. -/
def stripCorrelationHeaders (headers : Dict String String) : Dict String String :=
  headers.filterKeys fun name => name.toLower ∉ correlationHeaderNames

/-- The headers that a forward sends upstream. The client's host names the relay, not the upstream. -/
def forwardedHeaders (headers : List (String × String)) : Dict String String :=
  stripCorrelationHeaders ((stripHopByHop headers).erase "host")

/-- Join an incoming path and query onto an upstream base. The base prefix is preserved. -/
def buildUpstreamUrl (base path query : List Char) : List Char :=
  let front := base.rdropWhile (· = '/')
  let requestPath := path.dropWhile (· = '/')
  let url := if requestPath = [] then front else front ++ '/' :: requestPath
  if query = [] then url else url ++ '?' :: query

/-- What a request asks for. -/
structure RequestTarget where
  path : List Char
  query : List Char := []
  path_rooted : path.head? = some '/'
  path_plain : '?' ∉ path
deriving DecidableEq

/-- The URL that a forward requests. -/
def forwardedUrl (upstream : List Char) (target : RequestTarget) : List Char :=
  buildUpstreamUrl upstream target.path target.query

end CachePilot
