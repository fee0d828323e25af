import Interchain.Channel.Order
import Interchain.Client.Identifier
import Interchain.Commitment.Material
import Interchain.Identifier.Names
import Interchain.Text.Blank
import Interchain.Time.Span
import Interchain.Trace

/-
  Connections between chains.

  A connection end names the client that follows the other
  chain, and what it knows of the end there.  The features of
  its versions are the packet orders that it supports.

  Main declarations:
    * `ConnectionError`
    * `ConnectionVersion`
    * `ConnectionEnd`
-/

------------------------------------------------------------
-- Errors
------------------------------------------------------------

namespace Interchain

/- What is wrong with a connection, or with its versions. -/
inductive ConnectionError where
  | notFound (id : ConnectionId)
  | emptyVersions
  | emptyFeatures
  deriving DecidableEq

namespace ConnectionError

/- What is reported of an error. -/
def message : ConnectionError → String
  | .notFound id =>
      "no connection was found for the previous connection " ++
        "id provided " ++ id.text
  | .emptyVersions => "empty supported versions"
  | .emptyFeatures => "empty supported features"

/- The name of an error. -/
def name : ConnectionError → String
  | .notFound _ => "ConnectionNotFound"
  | .emptyVersions => "EmptyVersions"
  | .emptyFeatures => "EmptyFeatures"

instance : Traced ConnectionError where
  trace e := [⟨e.name, e.message⟩]

end ConnectionError

end Interchain

------------------------------------------------------------
-- Versions
------------------------------------------------------------

namespace Interchain

/- A version of the connection protocol, with the features that
   it offers. -/
structure ConnectionVersion where
  identifier : String
  features : List String
  deriving DecidableEq

namespace ConnectionVersion

/- A version whose identifier and features are not blank. -/
def make
    (identifier : String)
    (features : List String) :
    Except ConnectionError ConnectionVersion :=
  if Text.isBlankText identifier then .error .emptyVersions
  else if features.any Text.isBlankText then
    .error .emptyFeatures
  else .ok ⟨identifier, features⟩

/- The version that supports both packet orders. -/
def standard : ConnectionVersion :=
  ⟨"1", [ChannelOrder.ordered.name,
    ChannelOrder.unordered.name]⟩

/- The feature is among those that the version offers. -/
def supports
    (v : ConnectionVersion)
    (feature : String) :
    Bool :=
  v.features.contains feature

/- How a version is written in a message. -/
def display (v : ConnectionVersion) : String :=
  "Version \x7b identifier: " ++ v.identifier ++
    ", features: " ++ Text.listing v.features ++ " \x7d"

/- The record of a version. -/
def toJson (v : ConnectionVersion) : Json :=
  .object
    [ ("identifier", .text v.identifier),
      ("features", .array (v.features.map .text)) ]

/- The version that a record describes. -/
def ofJson? (value : Json) : Option ConnectionVersion := do
  match ← value.slots? .lenient ["identifier", "features"] with
  | [identifier, features] =>
      let identifier ← Json.required? Json.text? identifier
      let features ←
        Json.required? (Json.list? Json.text?) features
      return ⟨identifier, features⟩
  | _ => none

instance : Recorded ConnectionVersion := ⟨toJson, ofJson?⟩

end ConnectionVersion

end Interchain

------------------------------------------------------------
-- States
------------------------------------------------------------

namespace Interchain

/- Where a connection is in its life. -/
inductive ConnectionState where
  | uninitialized
  | init
  | tryOpen
  | open
  deriving DecidableEq

namespace ConnectionState

/- Every state. -/
def all : List ConnectionState :=
  [.uninitialized, .init, .tryOpen, .open]

/- How a state is written in a message. -/
def display : ConnectionState → String
  | .uninitialized => "UNINITIALIZED"
  | .init => "INIT"
  | .tryOpen => "TRYOPEN"
  | .open => "OPEN"

/- The case name in records. -/
def tag : ConnectionState → String
  | .uninitialized => "Uninitialized"
  | .init => "Init"
  | .tryOpen => "TryOpen"
  | .open => "Open"

/- The record of a state is its name. -/
def toJson (state : ConnectionState) : Json := .text state.tag

/- The state that a record names. -/
def ofJson? (value : Json) : Option ConnectionState :=
  value.tag?.bind fun s =>
    all.find? fun state => state.tag == s

instance : Recorded ConnectionState := ⟨toJson, ofJson?⟩

end ConnectionState

end Interchain

------------------------------------------------------------
-- Connection Ends
------------------------------------------------------------

namespace Interchain

/- What a connection end knows of the end it faces. -/
structure ConnectionPeer where
  client : ClientId
  connection : Option ConnectionId
  storePrefix : CommitmentPrefix
  deriving DecidableEq

namespace ConnectionPeer

/- The record of a peer. -/
def toJson (p : ConnectionPeer) : Json :=
  .object
    [ ("client_id", p.client.toJson),
      ("connection_id",
        .ofOption ConnectionId.toJson p.connection),
      ("prefix", p.storePrefix.toJson) ]

/- The peer that a record describes. -/
def ofJson? (value : Json) : Option ConnectionPeer := do
  match ← value.slots? .lenient
      ["client_id", "connection_id", "prefix"] with
  | [client, connection, start] =>
      let client ← Json.required? ClientId.ofJson? client
      let connection ←
        Json.optional? ConnectionId.ofJson? connection
      let start ←
        Json.required? CommitmentPrefix.ofJson? start
      return ⟨client, connection, start⟩
  | _ => none

instance : Recorded ConnectionPeer := ⟨toJson, ofJson?⟩

end ConnectionPeer

/- What a chain keeps of its end of a connection: the client
   that follows the other chain, and the versions that the ends
   agreed on. -/
structure ConnectionEnd where
  state : ConnectionState
  client : ClientId
  peer : ConnectionPeer
  versions : List ConnectionVersion
  delay : Span
  deriving DecidableEq

namespace ConnectionEnd

/- Channels can use the connection. -/
def isOpen (c : ConnectionEnd) : Bool := c.state == .open

/- The record of a connection. -/
def toJson (c : ConnectionEnd) : Json :=
  .object
    [ ("state", c.state.toJson),
      ("client_id", c.client.toJson),
      ("counterparty", c.peer.toJson),
      ("versions",
        .array (c.versions.map ConnectionVersion.toJson)),
      ("delay_period", c.delay.toJson) ]

/- The connection that a record describes. -/
def ofJson? (value : Json) : Option ConnectionEnd := do
  match ← value.slots? .lenient
      ["state", "client_id", "counterparty", "versions",
        "delay_period"] with
  | [state, client, peer, versions, delay] =>
      let state ← Json.required? ConnectionState.ofJson? state
      let client ← Json.required? ClientId.ofJson? client
      let peer ← Json.required? ConnectionPeer.ofJson? peer
      let versions ← Json.required?
        (Json.list? ConnectionVersion.ofJson?) versions
      let delay ← Json.required? Span.ofJson? delay
      return ⟨state, client, peer, versions, delay⟩
  | _ => none

instance : Recorded ConnectionEnd := ⟨toJson, ofJson?⟩

end ConnectionEnd

end Interchain
