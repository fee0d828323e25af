import Interchain.Channel.Sequence
import Interchain.Identifier.Names

/-
  Paths of the records that a chain commits to.

  Main declarations:
    * `Path`
    * `Path.display`
-/

------------------------------------------------------------
-- Paths
------------------------------------------------------------

namespace Interchain

/- The values that a chain can prove to another. -/
inductive Path where
  | channel (key : ChannelKey)
  | upgrade (key : ChannelKey)
  | errorReceipt (key : ChannelKey)
  | packet (key : ChannelKey) (sequence : Sequence)
  deriving DecidableEq

namespace Path

/- The part of a path that names the channel. -/
def location (key : ChannelKey) : String :=
  "ports/" ++ key.port.text ++ "/channels/" ++
    key.channel.text

/- Where a value lies in the store, below the prefix. -/
def display : Path → String
  | .channel key => "channelEnds/" ++ location key
  | .upgrade key => "channelUpgrades/upgrades/" ++ location key
  | .errorReceipt key =>
      "channelUpgrades/upgradeError/" ++ location key
  | .packet key sequence =>
      "commitments/" ++ location key ++ "/sequences/" ++
        sequence.display

end Path

end Interchain
