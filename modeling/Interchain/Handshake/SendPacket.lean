import Interchain.Handshake.Outcome

/-
  Sending packets.

  A packet is sent on an open channel to the peer of its
  source, with the next sequence of the channel.  Sending is
  blocked while the channel flushes.

  Main declarations:
    * `Host.processSend`
    * `sendPlan`
    * `Host.send`
-/

------------------------------------------------------------
-- Step
------------------------------------------------------------

namespace Interchain

/- What is written when a packet is sent. -/
structure SendStep where
  key : PacketKey
  next : Sequence
  commitment : PacketCommitment
  deriving DecidableEq

namespace Host

/- The packet fits the channel that it is sent on. -/
def checkSend
    (h : Host)
    (p : Packet) :
    Except ChannelError Unit := do
  p.validate
  let c ← h.channelEnd p.source
  if c.state ≠ .open then
    throw (.channelState p.source.channel c.state)
  if c.peer ≠ p.destination.peer then
    throw (.packetCounterparty p.destination)
  let next ← h.nextSequence p.source
  if p.sequence ≠ next then
    throw (.packetSequence p.sequence next)

/- A packet that can be sent, with what is to be stored for it. -/
def processSend
    (hash : Hash)
    (h : Host)
    (p : Packet) :
    Except ChannelError (EventReport SendStep) := do
  h.checkSend p
  let line :=
    "packet " ++ p.sequence.display ++ " committed on " ++
      p.source.display
  return ((Transcript.empty.note line).emit
    (.sendPacket p)).close
      ⟨⟨p.source, p.sequence⟩, p.sequence.next,
        p.commitment hash⟩

end Host

end Interchain

------------------------------------------------------------
-- Writes
------------------------------------------------------------

namespace Interchain

/- Store the commitment, and the next sequence. -/
def sendPlan (step : SendStep) : Plan SendStep :=
  ⟨[ .commitment step.key step.commitment,
      .nextSequence step.key.source step.next ], step⟩

namespace Session

/- Check a packet, and write it. -/
def send
    (hash : Hash)
    (s : Session)
    (p : Packet) :
    Except DispatchError (EventReport SendStep) × Session :=
  match s.host.processSend hash p with
  | .error e => (.error (.rejected e), s)
  | .ok report =>
      match s.writeAll (sendPlan report.result).writes with
      | (.ok (), next) => (.ok report, next)
      | (.error e, next) => (.error (.fatal e), next)

end Session

end Interchain
