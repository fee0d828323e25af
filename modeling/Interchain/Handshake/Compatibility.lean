import Interchain.Host.State

/-
  Compatible proposals.

  Two ends can upgrade together if they propose the same order
  and version, over an open connection whose other end is the
  connection that the counterparty proposes.

  Main declarations:
    * `Host.checkCompatible`
-/

------------------------------------------------------------
-- Compatibility
------------------------------------------------------------

namespace Interchain

/- How a missing or given connection is named in a reason. -/
def inspectHop : Option ConnectionId → String
  | none => "None"
  | some id => "Some(ConnectionId(" ++ Text.quoted id.text ++ "))"

namespace Host

/- The connection that an end proposes leads to the one that
   the counterparty proposes. -/
def checkHops
    (h : Host)
    (own counterparty : UpgradeFields) :
    Except ChannelError Unit :=
  match own.hop? with
  | none => .error (.hopCount 1 0)
  | some id =>
      match h.connectionEnd id with
      | .error e => .error e
      | .ok connection =>
          if connection.isOpen = false then
            .error (.incompatible
              ("proposed connection " ++ id.text ++
                " is in state " ++ connection.state.display ++
                ", expected OPEN"))
          else if connection.peer.connection =
              counterparty.hop? then
            .ok ()
          else
            .error (.incompatible
              ("proposed connection " ++ id.text ++
                " does not have counterparty " ++
                inspectHop counterparty.hop?))

/- Order, version and connections of two proposals fit. -/
def checkCompatible
    (h : Host)
    (own counterparty : UpgradeFields) :
    Except ChannelError Unit :=
  if own.order ≠ counterparty.order then
    .error (.incompatible
      ("expected upgrade ordering " ++ own.order.name ++
        " to match counterparty proposed ordering " ++
        counterparty.order.name))
  else if own.version ≠ counterparty.version then
    .error (.incompatible
      ("expected upgrade version " ++ own.version.text ++
        " to match counterparty proposed version " ++
        counterparty.version.text))
  else
    h.checkHops own counterparty

end Host

end Interchain
