namespace RouteAtlas

structure Subscriber where
  number : Nat
  pending : Bool
  live : Bool
deriving DecidableEq, Repr

/-- The subscribers, each with one pending signal at most. Those that have left are forgotten at the
next round. -/
structure Signals where
  subscribers : List Subscriber
  next : Nat
  /-- How many times all subscribers have been signalled. -/
  rounds : Nat
deriving DecidableEq, Repr

namespace Signals

def empty : Signals := ⟨[], 0, 0⟩

def subscribe (signals : Signals) : Signals :=
  { signals with
    subscribers := signals.subscribers ++ [⟨signals.next, false, true⟩]
    next := signals.next + 1 }

def notify (signals : Signals) : Signals :=
  { signals with
    subscribers := (signals.subscribers.filter (·.live)).map fun subscriber =>
      { subscriber with pending := true }
    rounds := signals.rounds + 1 }

def live? (signals : Signals) (number : Nat) : Option Subscriber :=
  signals.subscribers.find? fun subscriber => subscriber.number == number && subscriber.live

def update (signals : Signals) (number : Nat) (change : Subscriber → Subscriber) : Signals :=
  { signals with subscribers := signals.subscribers.map fun subscriber =>
    if subscriber.number = number then change subscriber else subscriber }

def take (signals : Signals) (number : Nat) : Signals :=
  signals.update number fun subscriber => { subscriber with pending := false }

def leave (signals : Signals) (number : Nat) : Signals :=
  signals.update number fun subscriber => { subscriber with live := false }

end Signals

end RouteAtlas
