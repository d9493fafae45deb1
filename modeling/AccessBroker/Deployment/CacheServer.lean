import AccessBroker.Net.Url
import AccessBroker.Text.Integer

/-! # The server of the fast tiers

A locator names the server: a host, with credentials and a database number, or
the path of a socket.  Its query may choose the protocol.
-/

namespace AccessBroker.CacheServer

/-- The schemes of a server that is reached over the network. -/
def networkSchemes : List String := ["redis", "valkey"]

/-- The schemes of a server that is reached through a socket. -/
def socketSchemes : List String := ["unix", "redis+unix", "valkey+unix"]

def protocols : List String := ["2", "resp2", "3", "resp3"]

/-- What a query says of a field; of a repeated one the last counts. -/
def lastValue? (q : Http.Query) (name : String) : Option String :=
  (q.reverse.find? (·.1 = name)).map (·.2)

def isDatabase (s : String) : Bool :=
  (Text.integer (.signed 64) s).isOk

/-- Whether a path names a database: slashes around a number, or around nothing. -/
def namesDatabase (segments : List String) : Bool :=
  let named := segments.dropWhile (·.isEmpty)
  match (named.reverse.dropWhile (·.isEmpty)).reverse with
  | [] => true
  | [number] => isDatabase number
  | _ => false

/-- Whether a query leaves the protocol open or names a version. -/
def namesProtocol (q : Http.Query) : Bool :=
  (lastValue? q "protocol").all protocols.contains

/-- Whether a locator names one host of the network, and what is to be said to it. -/
def isNetworkServer (u : Url) : Bool :=
  u.host.any (!·.isWildcard) && u.credentials.all (fun s => (Text.percentDecoded? s).isSome) &&
    namesDatabase (u.segments.getD []) && namesProtocol u.query

/-- Whether a locator names a socket of this machine, and what is to be said to it. -/
def isSocket (u : Url) : Bool :=
  u.host.all (· = .named "localhost") && u.segments.isSome &&
    (lastValue? u.query "db").all isDatabase && namesProtocol u.query

/-- Whether a locator names a server that can be reached. -/
def isReached (u : Url) : Bool :=
  if networkSchemes.contains u.scheme then isNetworkServer u
  else socketSchemes.contains u.scheme && isSocket u

end AccessBroker.CacheServer
