import Harvest.Run.Channel

/-!
Contract: what a subscription hears.

A channel continues for a subscription as long as nobody hears on it: its place stays, and more
events may be sent. What is then heard on it is the first event that ends the wait, among those
that the channel still holds of the ones sent since.
-/

namespace Harvest

namespace Channel

variable {channel later : Channel} {subscription place : Nat} {awaited : Awaited}

def sentSince (channel : Channel) (place : Nat) : List PageEvent :=
  channel.sent.toList.drop place

/-- The events sent from a place on that the channel still holds, which are the latest ones. -/
def heldSince (channel : Channel) (place : Nat) : List PageEvent :=
  (channel.sentSince place).drop ((channel.sentSince place).length - channel.capacity)

theorem findFrom_eq (remaining place : Nat) : (channel.findFrom awaited remaining place).map Prod.snd =
    ((channel.sentSince place).take remaining).find? (endsWait awaited) := by
  induction remaining generalizing place with
  | zero => rfl
  | succ remaining inductionHypothesis =>
    rw [findFrom, sentSince]
    cases here : channel.sent[place]? with
    | none =>
      have beyond : channel.sent.toList.drop place = [] := by
        rw [List.drop_eq_nil_iff, Array.length_toList]
        exact Array.getElem?_eq_none_iff.mp here
      rw [beyond]
      rfl
    | some event =>
      obtain ⟨inside, rfl⟩ := Array.getElem?_eq_some_iff.mp here
      have next : channel.sent.toList.drop place = channel.sent[place] :: channel.sentSince (place + 1) :=
        List.drop_eq_getElem_cons (by rwa [Array.length_toList])
      rw [next, List.take_succ_cons, List.find?_cons]
      dsimp only
      cases endsWait awaited channel.sent[place] with
      | true => rfl
      | false => exact inductionHypothesis (place + 1)

/-- What a subscription finds among the events is the first that ends the wait, of those held since its place. -/
theorem findFrom_nextPlace (opened : channel.places[subscription]? = some place) :
    (channel.findFrom awaited (channel.sent.size - channel.nextPlace subscription)
      (channel.nextPlace subscription)).map Prod.snd = (channel.heldSince place).find? (endsWait awaited) := by
  have all : (channel.sentSince (channel.nextPlace subscription)).length =
      channel.sent.size - channel.nextPlace subscription := by
    rw [sentSince, List.length_drop, Array.length_toList]
  have held : channel.sentSince (channel.nextPlace subscription) = channel.heldSince place := by
    unfold heldSince sentSince nextPlace
    rw [opened, Option.getD_some, List.drop_drop, List.length_drop, Array.length_toList]
    congr 1
    omega
  rw [findFrom_eq, ← all, List.take_length, held]

theorem hear?_event (opened : channel.places[subscription]? = some place)
    {event : PageEvent} (first : (channel.heldSince place).find? (endsWait awaited) = some event) :
    ∃ later, channel.hear? subscription awaited = some (later, .event event) := by
  rw [← findFrom_nextPlace opened] at first
  obtain ⟨⟨found, heard⟩, finds, rfl⟩ := Option.map_eq_some_iff.mp first
  refine ⟨{ channel with places := channel.places.setIfInBounds subscription (found + 1) }, ?_⟩
  unfold hear?
  dsimp only
  rw [finds]

theorem hear?_none (opened : channel.places[subscription]? = some place)
    (none_ends : (channel.heldSince place).find? (endsWait awaited) = none) :
    channel.hear? subscription awaited = if channel.isClosed then some (channel, .closed) else none := by
  rw [← findFrom_nextPlace opened, Option.map_eq_none_iff] at none_ends
  unfold hear?
  dsimp only
  rw [none_ends]

/-- A channel goes on, and a subscription has not been heard on. -/
structure Continues (subscription : Nat) (channel later : Channel) : Prop where
  capacity : later.capacity = channel.capacity
  place : later.places[subscription]? = channel.places[subscription]?
  sent : channel.sent.toList <+: later.sent.toList

namespace Continues

theorem refl (subscription : Nat) (channel : Channel) : Continues subscription channel channel :=
  ⟨rfl, rfl, List.prefix_rfl⟩

theorem trans {middle : Channel} (first : Continues subscription channel middle)
    (second : Continues subscription middle later) : Continues subscription channel later :=
  ⟨second.capacity.trans first.capacity, second.place.trans first.place, first.sent.trans second.sent⟩

theorem sendAll (channel : Channel) (events : List PageEvent) :
    Continues subscription channel (channel.sendAll events) := by
  induction events generalizing channel with
  | nil => exact refl subscription channel
  | cons event events inductionHypothesis =>
    have one : Continues subscription channel (channel.send event) := by
      refine ⟨rfl, rfl, ?_⟩
      rw [send, Array.toList_push]
      exact List.prefix_append _ _
    exact one.trans (inductionHypothesis (channel.send event))

theorem subscribe (opened : subscription < channel.places.size) :
    Continues subscription channel channel.subscribe.1 := by
  refine ⟨rfl, ?_, List.prefix_rfl⟩
  show (channel.places.push channel.sent.size)[subscription]? = channel.places[subscription]?
  rw [Array.getElem?_push, if_neg (Nat.ne_of_lt opened)]

theorem hear {other : Nat} (different : other ≠ subscription) {heard : Heard}
    (hears : channel.hear? other awaited = some (later, heard)) : Continues subscription channel later := by
  unfold hear? at hears
  dsimp only at hears
  split at hears
  · cases hears
    refine ⟨rfl, ?_, List.prefix_rfl⟩
    rw [Array.getElem?_setIfInBounds_ne different]
  · split at hears
    · cases hears
      exact refl subscription channel
    · cases hears

theorem opened (continues : Continues subscription channel later) (known : subscription < channel.places.size) :
    subscription < later.places.size := by
  have here : later.places[subscription]? = some channel.places[subscription] := by
    rw [continues.place]
    exact Array.getElem?_eq_getElem known
  exact (Array.getElem?_eq_some_iff.mp here).1

end Continues

theorem hear?_size {heard : Heard} (hears : channel.hear? subscription awaited = some (later, heard)) :
    later.places.size = channel.places.size := by
  unfold hear? at hears
  dsimp only at hears
  split at hears
  · cases hears
    exact Array.size_setIfInBounds
  · split at hears
    · cases hears
      rfl
    · cases hears

end Channel

end Harvest
