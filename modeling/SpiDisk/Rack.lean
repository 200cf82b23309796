import SpiDisk.Disk.Basic
import SpiDisk.Disk.Packet

/-!
# `SpiDisk.Rack` — several devices on one controller

The devices of a rack share one arbiter, one clock and one logger. Whatever is done with a rack is an
`Action` on one of its devices. An action that would have to wait for a bus that another device owns
is refused, and so is one that drives lines without the bus.

## Contents
- **Devices.** `Device`: a channel, a card, or a disk.
- **Actions.** `ChannelAction`, `CardAction`, `DiskAction`, `Action`, and what they answer.
- **The rack.** `Rack`, which devices are added to, and `Rack.perform`, one action on one device.
-/

namespace SpiDisk

/-- A device of a rack. -/
inductive Device (H : Type) where
  | channel (channel : Channel H)
  | card (card : Card H)
  | disk (disk : Disk H)

namespace Device

variable {H C : Type}

/-- The channel that a device talks through. -/
def link : Device H → Channel H
  | channel c => c
  | card c => c.channel
  | disk d => d.card.channel

/-- Replace the channel of a device. -/
def setLink (device : Device H) (link : Channel H) : Device H :=
  match device with
  | channel _ => channel link
  | card c => card { c with channel := link }
  | disk d => disk { d with card := { d.card with channel := link } }

/-- The card of a device that has one. -/
def card? : Device H → Option (Card H)
  | channel _ => none
  | card c => some c
  | disk d => some d.card

/-- Replace the card of a device that has one. -/
def setCard (device : Device H) (replacement : Card H) : Device H :=
  match device with
  | channel c => channel c
  | card _ => card replacement
  | disk d => disk { d with card := replacement }

/-- The unit that a device is, if it is one. -/
def disk? : Device H → Option (Disk H)
  | disk d => some d
  | _ => none

end Device

/-! ## Actions -/

/-- What can be done with the channel of any device. -/
inductive ChannelAction (H : Type) where
  | bind (id : UInt8)
  | obtain
  | release
  | select
  | deselect
  | shutdown
  | setSpeed (speed : Speed)
  | read (count : Nat)
  | readByte
  | write (bytes : List UInt8)
  /-- Change the board from outside. -/
  | adjust (change : H → H)
  | hostRead (count : Nat)
  | hostWrite (bytes : List UInt8)
  | hostExchange (bytes : List UInt8) (count : Nat)
  | hostFlush
  | hostPauseMicros (us : UInt32)
  | hostPauseNanos (ns : UInt32)

/-- What can be done with a card. -/
inductive CardAction where
  | bringUp
  | send (command : Command) (argument : UInt32)
  | address (lba : UInt32)
  | read (lba : UInt32) (buffer : List UInt8)
  | write (lba : UInt32) (bytes : List UInt8)
  | forget
  | info

/-- What can be done with a disk. -/
inductive DiskAction where
  | bringUp
  | identify (buffer : List UInt16)
  | read (lba count : UInt32) (buffer : List UInt8)
  | write (lba count : UInt32) (bytes : List UInt8)
  | setTransferMethod (method : TransferMethod)
  | setPioMode (mode : UInt8)
  | describe
  | packet (request : PacketRequest) (packet : Packet)
  | presence (present : Bool)

/-- What can be done with a device. -/
inductive Action (H : Type) where
  | onChannel (action : ChannelAction H)
  | onCard (action : CardAction)
  | onDisk (action : DiskAction)
  /-- Take the device out of the rack. -/
  | drop

/-- The reasons for which an action is not even begun. -/
inductive Refusal where
  /-- The device is no longer there. -/
  | dropped
  /-- The device does not own the bus. -/
  | noBus
  /-- Another device owns the bus. -/
  | wouldBlock
  /-- The device has no card, or is no disk. -/
  | notOffered
  deriving DecidableEq

/-- What an action answers. -/
inductive Answer where
  | done
  | refused (reason : Refusal)
  | bound (outcome : Except BusError Unit)
  | byte (value : UInt8)
  | bytes (bytes : List UInt8)
  /-- A call on the board, with what came back. -/
  | called (fault : Option Fault) (bytes : List UInt8)
  | flag (value : Bool)
  | card (outcome : Except CardError Unit)
  | cardRead (outcome : Except CardError Unit) (buffer : List UInt8)
  | address (argument : Option UInt32)
  | info (info : CardInfo)
  | disk (outcome : Except DiskError Unit)
  | diskRead (outcome : Except DiskError Unit) (buffer : List UInt8)
  | identified (done : Bool) (buffer : List UInt16)
  | unit (number wiredTo : UInt8) (geometry : Geometry) (present : Bool)
  | packet (outcome : Except DiskError Unit) (packet : Packet)

namespace Action

variable {H : Type}

/-- Whether an action may have to take the bus. -/
def takesBus : Action H → Bool
  | onChannel .obtain => true
  | onCard .bringUp | onCard (.send ..) | onCard (.read ..) | onCard (.write ..) => true
  | onDisk .bringUp | onDisk (.read ..) | onDisk (.write ..) => true
  | _ => false

/-- Whether an action is for the owner of the bus only. -/
def needsBus : Action H → Bool
  | onChannel .select | onChannel .deselect => true
  | _ => false

end Action

section Run

open SessionM

variable {H C : Type} [Host H] [TickSource C]

/-- Do something with a channel. -/
def ChannelAction.run : ChannelAction H → ChannelM H C Answer
  | bind id => do pure (.bound (← ChannelM.bindTo id))
  | obtain => do ChannelM.obtain; pure .done
  | release => do ChannelM.release; pure .done
  | select => do ChannelM.select; pure .done
  | deselect => do ChannelM.deselect; pure .done
  | shutdown => do ChannelM.shutdown; pure .done
  | setSpeed speed => do ChannelM.setSpeed speed; pure .done
  | read count => do pure (.bytes (← ChannelM.read count))
  | readByte => do pure (.byte (← ChannelM.readByte))
  | write bytes => do ChannelM.write bytes; pure .done
  | adjust change => do
    onDevice fun channel => ((), { channel with host := change channel.host })
    pure .done
  | hostRead count => do
    let (bytes, fault) ← onDevice (Channel.callRead count)
    pure (.called fault bytes)
  | hostWrite bytes => do pure (.called (← onDevice (Channel.callWrite bytes)) [])
  | hostExchange bytes count => do
    let (got, fault) ← onDevice (Channel.callExchange bytes count)
    pure (.called fault got)
  | hostFlush => do pure (.called (← onDevice Channel.callFlush) [])
  | hostPauseMicros us => do onDevice (Channel.callPause us); pure (.called none [])
  | hostPauseNanos ns => do onDevice (Channel.callPauseNanos ns); pure (.called none [])

/-- Do something with a card. -/
def CardAction.run (patience : Nat) : CardAction → SessionM (Card H) C Answer
  | bringUp => do pure (.card (← Card.bringUp patience))
  | send command argument => do pure (.byte (← Card.send patience command argument))
  | address lba => do pure (.address ((← device).info.address? lba))
  | read lba buffer => do
    let (outcome, buffer) ← Card.read patience lba buffer
    pure (.cardRead outcome buffer)
  | write lba bytes => do pure (.card (← Card.write patience lba bytes))
  | forget => do Card.forget; pure .done
  | info => do pure (.info (← device).info)

/-- Do something with a disk. -/
def DiskAction.run (patience : Nat) : DiskAction → SessionM (Disk H) C Answer
  | bringUp => do pure (.flag (← Disk.bringUp patience))
  | identify buffer => do
    let (done, buffer) ← Disk.identify buffer
    pure (.identified done buffer)
  | read lba count buffer => do
    let (outcome, buffer) ← Disk.read patience lba count buffer
    pure (.diskRead outcome buffer)
  | write lba count bytes => do pure (.disk (← Disk.write patience lba count bytes))
  | setTransferMethod method => do Disk.setTransferMethod method; pure .done
  | setPioMode mode => do pure (.disk (← Disk.setPioMode mode))
  | describe => do
    let disk ← device
    pure (.unit disk.number disk.wiredTo disk.geometry disk.card.info.isPresent)
  | packet request content =>
    let (outcome, content) := request.answer content
    pure (.packet outcome content)
  | presence present => pure (.flag (presenceChanged present))

/-- Do something with a device. -/
def Action.run (patience : Nat) : Action H → SessionM (Device H) C Answer
  | onChannel action => within Device.link Device.setLink action.run
  | onCard action => do
    match (← device).card? with
    | none => pure (.refused .notOffered)
    | some card => within (fun _ => card) Device.setCard (action.run patience)
  | onDisk action => do
    match (← device).disk? with
    | none => pure (.refused .notOffered)
    | some disk => within (fun _ => disk) (fun _ disk => .disk disk) (action.run patience)
  | drop => do
    within Device.link Device.setLink ChannelM.drop
    pure .done

end Run

/-! ## The rack -/

/-- Devices on one controller; a device that was taken out leaves its place empty. -/
structure Rack (H C : Type) where
  devices : List (Option (Device H))
  env : Env C

/-- What came of an action: the answer, and what the device's channel did, oldest first. -/
structure Outcome where
  answer : Answer
  events : List Event := []

namespace Rack

variable {H C : Type}

/-- A rack without devices. -/
def empty (env : Env C) : Rack H C where
  devices := []
  env := env

/-- Put one more device into a rack, at the place behind the last. -/
def add (rack : Rack H C) (device : Device H) : Rack H C :=
  { rack with devices := rack.devices ++ [some device] }

/-- The device at a place. -/
def device? (rack : Rack H C) (place : Nat) : Option (Device H) :=
  (rack.devices[place]?).join

/-- Why an action on a device cannot be begun, if it cannot. -/
def refusal? (env : Env C) (device : Device H) (action : Action H) : Option Refusal :=
  if device.link.owns then none
  else if action.needsBus then some .noBus
  else if action.takesBus && env.bus.held then some .wouldBlock
  else none

/-- Set the clock. -/
def setClock (rack : Rack H C) (change : C → C) : Rack H C :=
  { rack with env.clock := change rack.env.clock }

/-- Set the threshold of the logger. -/
def setThreshold (rack : Rack H C) (threshold : Threshold) : Rack H C :=
  { rack with env.log := rack.env.log.setThreshold threshold }

/-- What a channel did since it had so many events behind it, oldest first. -/
def eventsSince (count : Nat) (channel : Channel H) : List Event :=
  (channel.history.take (channel.history.length - count)).reverse

variable [Host H] [TickSource C]

/-- One action on the device at a place. There is no outcome if the action never comes back. -/
def perform (patience : Nat) (place : Nat) (action : Action H) (rack : Rack H C) :
    Option (Outcome × Rack H C) :=
  match rack.device? place with
  | none => some ({ answer := .refused .dropped }, rack)
  | some device =>
    match refusal? rack.env device action with
    | some reason => some ({ answer := .refused reason }, rack)
    | none =>
      (action.run patience ⟨device, rack.env⟩).map fun (answer, session) =>
        let left := match action with
          | .drop => none
          | _ => some session.device
        ({ answer, events := eventsSince device.link.history.length session.device.link },
          { devices := rack.devices.set place left, env := session.env })

end Rack

end SpiDisk
