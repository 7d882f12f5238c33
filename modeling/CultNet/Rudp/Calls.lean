/-
A session as a machine.

The public `&mut self` methods of `CultNetRudpSession` are the inputs, and what
a call creates, hands out again or delivers is the output.  A call that returns
`Err` leaves the session wherever the method had brought it and outputs nothing
but the fault; a call that panics has no successor.
-/
import CultNet.Lib.Machine
import CultNet.Rudp.Session

namespace CultNet.Rudp

/-- A call of one of the session's methods. -/
inductive Call where
  | createConnect (nowMs : Nat) (payload : List UInt8)
  | acceptConnect (packet : Packet) (nowMs : Nat) (payload : List UInt8)
  | resetPeerState
  | assumeConnected (nowMs : Nat)
  | send (channelId : String) (payload : List UInt8) (options : SendOptions)
  | sendMany (channelId : String) (payload : List UInt8) (options : SendOptions)
      (maxFragmentBytes : Option Nat)
  | receive (packet : Packet) (nowMs : Nat)
  | createAck
  | createPing (payload : List UInt8)
  | createDisconnect (reason : List UInt8)
  | checkTimeout (nowMs timeoutMs : Nat)
  | dueResends (nowMs : Nat)

/-- What a call hands back. -/
structure Output where
  /-- The packets the call created, in order. -/
  created : List Packet := []
  /-- The frames the call delivered, in order. -/
  delivered : List DeliveredFrame := []
  /-- The pending packets the call handed out for another transmission. -/
  resent : List Packet := []
  /-- The error, when the call returned `Err`. -/
  failure : Option String := none

/-- The outcome of a method as a machine step. -/
def toStep {α : Type} (output : α → Output) :
    Except Fault α × Session → Option (Output × Session)
  | (.ok a, s) => some (output a, s)
  | (.error (.error message), s) => some ({ failure := some message }, s)
  | (.error (.panic _), _) => none

/-- One call on a session. -/
def Session.call (s : Session) : Call → Option (Output × Session)
  | .createConnect nowMs payload =>
    toStep (fun packet => { created := [packet] }) (s.createConnect nowMs payload)
  | .acceptConnect packet nowMs payload =>
    toStep (fun response => { created := [response] }) (s.acceptConnect packet nowMs payload)
  | .resetPeerState => some ({}, s.resetPeerState)
  | .assumeConnected nowMs => some ({}, s.assumeConnected nowMs)
  | .send channelId payload options =>
    toStep (fun packet => { created := [packet] }) (s.send channelId payload options)
  | .sendMany channelId payload options maxFragmentBytes =>
    toStep (fun packets => { created := packets })
      (s.sendMany channelId payload options maxFragmentBytes)
  | .receive packet nowMs =>
    toStep (fun result => { created := result.reply.toList, delivered := result.delivered })
      (s.receive packet nowMs)
  | .createAck => toStep (fun packet => { created := [packet] }) s.createAck
  | .createPing payload => toStep (fun packet => { created := [packet] }) (s.createPing payload)
  | .createDisconnect reason =>
    toStep (fun packet => { created := [packet] }) (s.createDisconnect reason)
  | .checkTimeout nowMs timeoutMs => some ({}, (s.checkTimeout nowMs timeoutMs).2)
  | .dueResends nowMs =>
    some ({ resent := (s.dueResends nowMs).1 }, (s.dueResends nowMs).2)

/-- The packet a call takes in from the peer. -/
def Call.input? : Call → Option Packet
  | .receive packet _ => some packet
  | .acceptConnect packet _ _ => some packet
  | _ => none

/-- A log of calls with their outputs. -/
abbrev CallLog := List (Call × Output)

/-- Every packet created along a log, in order. -/
def CallLog.created (log : CallLog) : List Packet := log.flatMap fun entry => entry.2.created

/-- Every frame delivered along a log, in order. -/
def CallLog.delivered (log : CallLog) : List DeliveredFrame :=
  log.flatMap fun entry => entry.2.delivered

end CultNet.Rudp
