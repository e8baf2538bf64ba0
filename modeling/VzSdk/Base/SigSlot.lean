import Mathlib.Logic.Function.Basic
import VzSdk.Std.Machine

/-!
# Signals and slots

A signal keeps a list of connections, and an object with slots the set of the
signals that are connected to it; each of them tells the other when it goes away.
Emitting a signal calls the connections one after the other, with an iterator to
the next one taken before each call, and whoever is called may connect,
disconnect, delete and emit in turn. `fault` is set once an object or a
connection is used that is not there.
-/

namespace VzSdk.Base

open VzSdk.Std

/-- A connection; the number stands for its place in the memory. -/
structure Connection where
  id : Nat
  /-- `m_pobject`. -/
  dest : Nat
  /-- `m_pmemfun`. -/
  slot : Nat
deriving DecidableEq, Repr

/-- A signal that is being emitted. -/
structure Emission where
  signal : Nat
  /-- `itNext`, or the end of the list. -/
  itNext : Option Nat
  /-- Ghost: the connections when it began. -/
  started : List Nat
  /-- Ghost: the connections called. -/
  called : List Nat
deriving DecidableEq, Repr

/-- The signals and the objects that are there. -/
@[ext]
structure SigSlot where
  /-- `m_connected_slots` of the signals. -/
  connected : Nat → Option (List Connection)
  /-- `m_senders` of the objects. -/
  senders : Nat → Option (List Nat)
  emissions : List Emission
  /-- The place of the next connection. -/
  next : Nat
  fault : Bool

/-- What a thread does with the signals and the slot objects. -/
inductive SigSlotAction where
  | newSignal (signal : Nat)
  | newSlots (dest : Nat)
  | copySignal (signal copy : Nat)
  | copySlots (dest copy : Nat)
  | deleteSignal (signal : Nat)
  | deleteSlots (dest : Nat)
  | connect (signal dest slot : Nat)
  | disconnect (signal dest : Nat)
  /-- `disconnect_all` of a signal. -/
  | disconnectSignal (signal : Nat)
  /-- `disconnect_all` of an object with slots. -/
  | disconnectSlots (dest : Nat)
  | emit (signal : Nat)
  /-- The slot that was called last returns. -/
  | goOn
deriving DecidableEq, Repr

/-- What is seen of it. -/
inductive SigSlotEvent where
  | call (signal : Nat) (connection : Connection)
  /-- An emission is over; what it began with, what it called, and what is connected now. -/
  | done (signal : Nat) (started called left : List Nat)
deriving DecidableEq, Repr

/-- The connection behind one in the list. -/
def itNext (connections : List Connection) (id : Nat) : Option Nat :=
  (connections.dropWhile (·.id ≠ id)).tail.head?.map (·.id)

namespace SigSlot

/-- No signals, no slot objects, and no emission. -/
def new : SigSlot := ⟨fun _ => none, fun _ => none, [], 0, false⟩

variable (state : SigSlot)

/-- The signal's list of connections becomes another one; `none` when it is deleted. -/
def setConnected (signal : Nat) (connections : Option (List Connection)) : SigSlot :=
  { state with connected := Function.update state.connected signal connections }

/-- The slot object's set of senders becomes another one; `none` when it is deleted. -/
def setSenders (dest : Nat) (senders : Option (List Nat)) : SigSlot :=
  { state with senders := Function.update state.senders dest senders }

/-- Something is used that is not there. -/
def fail : SigSlot := { state with fault := true }

/-- A slot object notes a signal that is connected to it. -/
def signalConnect (dest sender : Nat) : SigSlot :=
  match state.senders dest with
  | none => state.fail
  | some senders => state.setSenders dest (some (senders.insert sender))

/-- A slot object forgets a signal. -/
def signalDisconnect (dest sender : Nat) : SigSlot :=
  match state.senders dest with
  | none => state.fail
  | some senders => state.setSenders dest (some (senders.filter (· ≠ sender)))

/-- `m_connected_slots.push_back`. -/
def pushBack (signal dest slot : Nat) : SigSlot :=
  match state.connected signal with
  | none => state.fail
  | some connections =>
      { state.setConnected signal (some (connections ++ [⟨state.next, dest, slot⟩])) with
        next := state.next + 1 }

/-- A signal drops all its connections to a slot object. -/
def slotDisconnect (signal dest : Nat) : SigSlot :=
  match state.connected signal with
  | none => state.fail
  | some connections => state.setConnected signal (some (connections.filter (·.dest ≠ dest)))

/-- The loop meets the connections that it adds, which are none of the old target. -/
def slotDuplicate (signal oldTarget newTarget : Nat) : SigSlot :=
  match state.connected signal with
  | none => state.fail
  | some connections =>
      connections.foldl (fun state connection =>
        if connection.dest = oldTarget then state.pushBack signal newTarget connection.slot
        else state) state

/-- Connect a slot to a signal; each of the two notes the other. -/
def connect (signal dest slot : Nat) : SigSlot :=
  (state.pushBack signal dest slot).signalConnect dest signal

/-- The copy constructor of a signal. -/
def copySignal (signal copy : Nat) : SigSlot :=
  match state.connected signal with
  | none => state.fail
  | some connections =>
      connections.foldl (fun state connection =>
        (state.signalConnect connection.dest copy).pushBack copy connection.dest connection.slot)
        (state.setConnected copy (some []))

/-- The copy constructor of an object with slots. -/
def copySlots (dest copy : Nat) : SigSlot :=
  match state.senders dest with
  | none => state.fail
  | some senders =>
      senders.foldl (fun state sender =>
        (state.slotDuplicate sender dest copy).signalConnect copy sender)
        (state.setSenders copy (some []))

/-- The first connection to the object goes. -/
def disconnect (signal dest : Nat) : SigSlot :=
  match state.connected signal with
  | none => state.fail
  | some connections =>
      if connections.any (·.dest = dest) then
        (state.setConnected signal (some (connections.eraseP (·.dest = dest)))).signalDisconnect dest
          signal
      else
        state

/-- `disconnect_all` of a signal: every slot object forgets it. -/
def disconnectSignal (signal : Nat) : SigSlot :=
  match state.connected signal with
  | none => state.fail
  | some connections =>
      (connections.foldl (fun state connection => state.signalDisconnect connection.dest signal)
        state).setConnected signal (some [])

/-- `disconnect_all` of a slot object: every sender drops its connections to it. -/
def disconnectSlots (dest : Nat) : SigSlot :=
  match state.senders dest with
  | none => state.fail
  | some senders =>
      (senders.foldl (fun state sender => state.slotDisconnect sender dest) state).setSenders dest
        (some [])

/-- A slot is called. -/
def call (connection : Connection) : SigSlot :=
  if (state.senders connection.dest).isSome then state else state.fail

/-- Begin an emission with the first connection; the iterator stands behind it while it is called.
-/
def emit (signal : Nat) : SigSlot × List SigSlotEvent :=
  match state.connected signal with
  | none => (state.fail, [])
  | some [] => (state, [.done signal [] [] []])
  | some (connection :: rest) =>
      ({ state.call connection with
        emissions := ⟨signal, rest.head?.map (·.id), (connection :: rest).map (·.id),
          [connection.id]⟩ :: state.emissions }, [.call signal connection])

/-- The loop of an emission behind a call. -/
def goOn (emission : Emission) (below : List Emission) : SigSlot × List SigSlotEvent :=
  match state.connected emission.signal with
  | none => ({ state.fail with emissions := below }, [])
  | some connections =>
      match emission.itNext with
      | none =>
          ({ state with emissions := below },
            [.done emission.signal emission.started emission.called (connections.map (·.id))])
      | some id =>
          match connections.find? (·.id = id) with
          | none => ({ state.fail with emissions := below }, [])
          | some connection =>
              ({ state.call connection with
                emissions :=
                  { emission with
                    itNext := VzSdk.Base.itNext connections id
                    called := emission.called ++ [id] } :: below },
                [.call emission.signal connection])

/-- The members are called of objects that are there, and new objects are made where none is. -/
def step : SigSlotAction → Option (SigSlot × List SigSlotEvent)
  | .newSignal signal =>
      if (state.connected signal).isNone then some (state.setConnected signal (some []), []) else none
  | .newSlots dest =>
      if (state.senders dest).isNone then some (state.setSenders dest (some []), []) else none
  | .copySignal signal copy =>
      if (state.connected signal).isSome && (state.connected copy).isNone then
        some (state.copySignal signal copy, [])
      else
        none
  | .copySlots dest copy =>
      if (state.senders dest).isSome && (state.senders copy).isNone then
        some (state.copySlots dest copy, [])
      else
        none
  | .deleteSignal signal =>
      if (state.connected signal).isSome then
        some ((state.disconnectSignal signal).setConnected signal none, [])
      else
        none
  | .deleteSlots dest =>
      if (state.senders dest).isSome then
        some ((state.disconnectSlots dest).setSenders dest none, [])
      else
        none
  | .connect signal dest slot =>
      if (state.connected signal).isSome && (state.senders dest).isSome then
        some (state.connect signal dest slot, [])
      else
        none
  | .disconnect signal dest =>
      if (state.connected signal).isSome && (state.senders dest).isSome then
        some (state.disconnect signal dest, [])
      else
        none
  | .disconnectSignal signal =>
      if (state.connected signal).isSome then some (state.disconnectSignal signal, []) else none
  | .disconnectSlots dest =>
      if (state.senders dest).isSome then some (state.disconnectSlots dest, []) else none
  | .emit signal => if (state.connected signal).isSome then some (state.emit signal) else none
  | .goOn =>
      match state.emissions with
      | [] => none
      | emission :: below => some (state.goOn emission below)

/-- The machine of signals and slot objects. -/
def machine : Machine SigSlot SigSlotAction SigSlotEvent := ⟨step⟩

/-- The connection that an emission goes to next. -/
def upcoming (emission : Emission) : Option Connection :=
  (state.connected emission.signal).bind fun connections =>
    emission.itNext.bind fun id => connections.find? (·.id = id)

/-- What the signals rely on: nobody takes off the connection that an emission goes to next, or
deletes a signal that is being emitted, and an object that is connected to a signal more than
once is not disconnected from it alone. -/
def Proper : SigSlotAction → Prop
  | .disconnect signal dest =>
      (state.connected signal).all (fun connections => connections.countP (·.dest = dest) ≤ 1) = true ∧
        ∀ emission ∈ state.emissions,
          emission.signal = signal → (state.upcoming emission).all (·.dest ≠ dest) = true
  | .disconnectSignal signal =>
      ∀ emission ∈ state.emissions, emission.signal = signal → emission.itNext = none
  | .deleteSignal signal => ∀ emission ∈ state.emissions, emission.signal ≠ signal
  | .disconnectSlots dest | .deleteSlots dest =>
      ∀ emission ∈ state.emissions, (state.upcoming emission).all (·.dest ≠ dest) = true
  | _ => True

instance (action : SigSlotAction) : Decidable (state.Proper action) :=
  match action with
  | .disconnect signal dest =>
      inferInstanceAs (Decidable (
        (state.connected signal).all (fun connections => connections.countP (·.dest = dest) ≤ 1) = true ∧
          ∀ emission ∈ state.emissions,
            emission.signal = signal → (state.upcoming emission).all (·.dest ≠ dest) = true))
  | .disconnectSignal signal =>
      inferInstanceAs (Decidable (
        ∀ emission ∈ state.emissions, emission.signal = signal → emission.itNext = none))
  | .deleteSignal signal =>
      inferInstanceAs (Decidable (∀ emission ∈ state.emissions, emission.signal ≠ signal))
  | .disconnectSlots dest | .deleteSlots dest =>
      inferInstanceAs (Decidable (
        ∀ emission ∈ state.emissions, (state.upcoming emission).all (·.dest ≠ dest) = true))
  | .newSignal _ | .newSlots _ | .copySignal _ _ | .copySlots _ _ | .connect _ _ _ | .emit _ | .goOn =>
      inferInstanceAs (Decidable True)

end SigSlot

end VzSdk.Base
