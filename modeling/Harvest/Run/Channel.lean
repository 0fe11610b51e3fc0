import Harvest.Run.Job

/-!
Contract: the channel that carries the events of a page.

A channel holds the latest events, up to its capacity; what a subscription has not read by
then is lost to it. A subscription begins behind all that has been sent. Nothing comes
after the end of a closed channel.
-/

namespace Harvest

/-- A channel: how many events it holds, all that have been sent, whether more can come, and the place up to
which each subscription has read. -/
structure Channel where
  capacity : Nat
  sent : Array PageEvent := #[]
  isClosed : Bool := false
  places : Array Nat := #[]

namespace Channel

/-- An open channel that holds at least a number of events. Channels hold a power of two. -/
def ofCapacity (capacity : Nat) : Channel where
  capacity := capacity.nextPowerOfTwo

def send (channel : Channel) (event : PageEvent) : Channel :=
  { channel with sent := channel.sent.push event }

def sendAll (channel : Channel) (events : List PageEvent) : Channel :=
  events.foldl send channel

def close (channel : Channel) : Channel :=
  { channel with isClosed := true }

def subscribe (channel : Channel) : Channel × Nat :=
  ({ channel with places := channel.places.push channel.sent.size }, channel.places.size)

/-- Whether an event ends a wait: it is an awaited one, or an error. -/
def endsWait (awaited : Awaited) (event : PageEvent) : Bool :=
  match event with
  | .error _ => true
  | other => awaited other

/-- The place of the first event that ends a wait, among some from a place on. -/
def findFrom (channel : Channel) (awaited : Awaited) : (remaining place : Nat) → Option (Nat × PageEvent)
  | 0, _ => none
  | remaining + 1, place =>
    match channel.sent[place]? with
    | none => none
    | some event =>
      if endsWait awaited event then some (place, event) else channel.findFrom awaited remaining (place + 1)

/-- Where a subscription goes on: behind what it has read and what the channel no longer holds. -/
def nextPlace (channel : Channel) (subscription : Nat) : Nat :=
  max (channel.places[subscription]?.getD channel.sent.size) (channel.sent.size - channel.capacity)

/-- What a subscription hears at once, if it is anything. Events that do not end the wait are passed over. -/
def hear? (channel : Channel) (subscription : Nat) (awaited : Awaited) : Option (Channel × Heard) :=
  let place := channel.nextPlace subscription
  match channel.findFrom awaited (channel.sent.size - place) place with
  | some (found, event) =>
    some ({ channel with places := channel.places.setIfInBounds subscription (found + 1) }, .event event)
  | none => if channel.isClosed then some (channel, .closed) else none

end Channel

end Harvest
