import EthercatSim.VirtualSlave.Model

/-!
# `NetworkSimulator`

The model of `core/simulation/network_simulator.cpp`.

* The slaves are objects behind shared pointers.  `objects` is the heap they
  live in, and a slot of the registry is a reference into it or null.  Nothing
  keeps a slave from being registered twice.
* `make_shared` takes the reference `nextRef`.
* A weak pointer can be locked while the registry or `heldOutside` holds the
  object.
* The clock is an argument, in nanoseconds.
* A shift of a 32-bit word by 32 or more is undefined in C++, so `runOnce` is
  `none` when it would make one.

The mutex is left out: every function holds it from its first access to its
last, so calls do not interleave.
-/

namespace EthercatSim

open Kickcat Bytes

/-- A pointer to a slave object. -/
abbrev SlaveRef := Nat

/-- `FrameItem`: a frame in flight and the time from which on it can be
received. -/
structure FrameItem where
  frame : List UInt8
  readyAt : Int
  deriving DecidableEq, Repr

/-- `InputMap`: the inputs of a slave appear in the logical memory. -/
structure InputMap where
  slave : Option SlaveRef
  logicalAddress : UInt32
  widthBytes : Nat
  deriving DecidableEq, Repr

structure NetworkSimulator (σ : Type) where
  linkUp : Bool
  latencyMs : UInt32
  virtualSlaveCount : Nat
  queue : List FrameItem
  slaves : List (Option SlaveRef)
  logical : Cells UInt8 16384
  inputMaps : List InputMap
  objects : SlaveRef → VirtualSlave σ
  heldOutside : SlaveRef → Bool
  nextRef : SlaveRef

namespace NetworkSimulator

variable {σ : Type}

/-- The default member initialisers.  `blank` stands at the references that are
not in use. -/
def new (blank : VirtualSlave σ) : NetworkSimulator σ where
  linkUp := true
  latencyMs := 0
  virtualSlaveCount := 0
  queue := []
  slaves := []
  logical := Cells.fill 0
  inputMaps := []
  objects := fun _ => blank
  heldOutside := fun _ => false
  nextRef := 0

/-- Change the object at `ref`. -/
def setObject (sim : NetworkSimulator σ) (ref : SlaveRef) (s : VirtualSlave σ) :
    NetworkSimulator σ :=
  { sim with objects := fun r => if r = ref then s else sim.objects r }

/-- The slot is not null and its slave is online. -/
def isOnline (sim : NetworkSimulator σ) : Option SlaveRef → Bool
  | some ref => (sim.objects ref).online
  | none => false

/-- `make_shared<VirtualSlave>` or of a subclass. -/
def makeShared (sim : NetworkSimulator σ) (s : VirtualSlave σ) : SlaveRef × NetworkSimulator σ :=
  (sim.nextRef, { sim.setObject sim.nextRef s with nextRef := sim.nextRef + 1 })

/-! ## The registry -/

def addVirtualSlave (sim : NetworkSimulator σ) (slave : Option SlaveRef) : NetworkSimulator σ :=
  { sim with
    slaves := sim.slaves ++ [slave]
    virtualSlaveCount := (sim.slaves ++ [slave]).length }

def clearSlaves (sim : NetworkSimulator σ) : NetworkSimulator σ :=
  { sim with slaves := [], virtualSlaveCount := 0 }

/-- The first loop of `setVirtualSlaveCount`: `n` more slaves of the base class,
each with the address behind the one before it.  `stub` is the empty data of
the base class. -/
def pushStubs (sim : NetworkSimulator σ) (stub : σ) : Nat → NetworkSimulator σ
  | 0 => sim
  | n + 1 =>
    let nextAddr : UInt16 :=
      match sim.slaves.getLast? with
      | some (some ref) => (sim.objects ref).address + 1
      | _ => 1
    let (ref, sim) := sim.makeShared (VirtualSlave.new nextAddr 0 0 stub)
    pushStubs { sim with slaves := sim.slaves ++ [some ref] } stub n

/-- `setVirtualSlaveCount`.  A registry that ends in a null slot cannot grow:
the code dereferences its last slot. -/
def setVirtualSlaveCount (sim : NetworkSimulator σ) (stub : σ) (n : Nat) :
    Option (NetworkSimulator σ) :=
  if sim.slaves.length < n ∧ sim.slaves.getLast? = some none then none
  else
    let sim := sim.pushStubs stub (n - sim.slaves.length)
    let sim := { sim with slaves := sim.slaves.take n }
    some { sim with virtualSlaveCount := sim.slaves.length }

/-- `startAllSlaves` -/
def startAllSlaves (sim : NetworkSimulator σ) : NetworkSimulator σ :=
  sim.slaves.foldl
    (fun sim slot =>
      match slot with
      | some ref => sim.setObject ref (sim.objects ref).start
      | none => sim)
    sim

/-- `onlineSlaveCount`, with the extra count of slaves that are not in the
registry. -/
def onlineSlaveCount (sim : NetworkSimulator σ) : Nat :=
  let n := sim.slaves.countP sim.isOnline
  if sim.virtualSlaveCount > sim.slaves.length then
    n + (sim.virtualSlaveCount - sim.slaves.length)
  else n

def setLinkUp (sim : NetworkSimulator σ) (up : Bool) : NetworkSimulator σ :=
  { sim with linkUp := up }

def setLatencyMs (sim : NetworkSimulator σ) (ms : UInt32) : NetworkSimulator σ :=
  { sim with latencyMs := ms }

/-! ## Frames in flight -/

def sendFrame (sim : NetworkSimulator σ) (frame : List UInt8) (now : Int) :
    Bool × NetworkSimulator σ :=
  if !sim.linkUp then (false, sim)
  else
    let item : FrameItem := { frame, readyAt := now + sim.latencyMs.toNat * 1000000 }
    (true, { sim with queue := sim.queue ++ [item] })

def receiveFrame (sim : NetworkSimulator σ) (now : Int) :
    Option (List UInt8) × NetworkSimulator σ :=
  if !sim.linkUp then (none, sim)
  else
    match sim.queue with
    | [] => (none, sim)
    | item :: rest =>
      if now < item.readyAt then (none, sim) else (some item.frame, { sim with queue := rest })

/-! ## Addressed register access -/

/-- `getSlaveByStationAddressNoLock` -/
def getSlaveByStationAddress (sim : NetworkSimulator σ) (addr : UInt16) : Option SlaveRef :=
  sim.slaves.findSome? fun slot =>
    match slot with
    | some ref =>
      if (sim.objects ref).online = true ∧ (sim.objects ref).address = addr then some ref else none
    | none => none

/-- `getSlaveByIndexNoLock` -/
def getSlaveByIndex (sim : NetworkSimulator σ) (index : Nat) : Option SlaveRef :=
  if index < sim.slaves.length then sim.slaves.getD index none else none

/-- An access to a station that the count announces, in a simulator without a
registry. -/
def isStub (sim : NetworkSimulator σ) (stationAddress : UInt16) : Bool :=
  sim.slaves.isEmpty && 1 ≤ stationAddress.toNat && stationAddress.toNat ≤ sim.virtualSlaveCount

section Write

variable [SlaveDevice σ]

/-- The write to the object itself. -/
def writeObject (sim : NetworkSimulator σ) (ref : SlaveRef) (reg : UInt16) (data : List UInt8) :
    Bool × NetworkSimulator σ :=
  let (ok, s) := (sim.objects ref).write reg data
  (ok, sim.setObject ref s)

def writeToSlave (sim : NetworkSimulator σ) (stationAddress reg : UInt16) (data : List UInt8) :
    Bool × NetworkSimulator σ :=
  match sim.getSlaveByStationAddress stationAddress with
  | some ref => sim.writeObject ref reg data
  | none => (sim.isStub stationAddress, sim)

def writeToSlaveByIndex (sim : NetworkSimulator σ) (index : Nat) (reg : UInt16)
    (data : List UInt8) : Bool × NetworkSimulator σ :=
  match sim.getSlaveByIndex index with
  | some ref => if (sim.objects ref).online then sim.writeObject ref reg data else (false, sim)
  | none => (false, sim)

end Write

/-- The read from the object itself. -/
def readObject (sim : NetworkSimulator σ) (ref : SlaveRef) (reg : UInt16) (out : List UInt8) :
    Bool × List UInt8 × NetworkSimulator σ :=
  let (ok, bytes, s) := (sim.objects ref).read reg out
  (ok, bytes, sim.setObject ref s)

def readFromSlave (sim : NetworkSimulator σ) (stationAddress reg : UInt16) (out : List UInt8) :
    Bool × List UInt8 × NetworkSimulator σ :=
  match sim.getSlaveByStationAddress stationAddress with
  | some ref => sim.readObject ref reg out
  | none =>
    if sim.isStub stationAddress then (true, List.replicate out.length 0, sim)
    else (false, out, sim)

def readFromSlaveByIndex (sim : NetworkSimulator σ) (index : Nat) (reg : UInt16)
    (out : List UInt8) : Bool × List UInt8 × NetworkSimulator σ :=
  match sim.getSlaveByIndex index with
  | some ref => if (sim.objects ref).online then sim.readObject ref reg out else (false, out, sim)
  | none => (false, out, sim)

/-! ## Logical memory -/

def writeLogical (sim : NetworkSimulator σ) (logicalAddress : UInt32) (data : List UInt8) :
    Bool × NetworkSimulator σ :=
  if logicalAddress.toNat + data.length > 16384 then (false, sim)
  else (true, { sim with logical := sim.logical.store logicalAddress.toNat data })

def readLogical (sim : NetworkSimulator σ) (logicalAddress : UInt32) (out : List UInt8) :
    Bool × List UInt8 :=
  if logicalAddress.toNat + out.length > 16384 then (false, out)
  else (true, sim.logical.load logicalAddress.toNat out.length)

/-! ## Periodic processing -/

/-- `InputMap::slave.lock()` -/
def lock (sim : NetworkSimulator σ) (slave : Option SlaveRef) : Option SlaveRef :=
  match slave with
  | some ref => if sim.heldOutside ref = true ∨ some ref ∈ sim.slaves then some ref else none
  | none => none

/-- `mapDigitalInputs` -/
def mapDigitalInputs (sim : NetworkSimulator σ) (slave : Option SlaveRef)
    (logicalAddress : UInt32) (widthBytes : Nat) : NetworkSimulator σ :=
  let m : InputMap := { slave, logicalAddress, widthBytes }
  let sim := { sim with inputMaps := sim.inputMaps ++ [m] }
  match slave with
  | some ref => sim.setObject ref ((sim.objects ref).setInputPDOMapped true)
  | none => sim

/-- `clearInputMappings` -/
def clearInputMappings (sim : NetworkSimulator σ) : NetworkSimulator σ :=
  let sim := sim.inputMaps.foldl
    (fun sim m =>
      match sim.lock m.slave with
      | some ref => sim.setObject ref ((sim.objects ref).setInputPDOMapped false)
      | none => sim)
    sim
  { sim with inputMaps := [] }

/-- The loop of `runOnce` over the registry. -/
def runRoutines (sim : NetworkSimulator σ) : NetworkSimulator σ :=
  sim.slaves.foldl
    (fun sim slot =>
      match slot with
      | some ref =>
        if (sim.objects ref).online then sim.setObject ref (sim.objects ref).routine else sim
      | none => sim)
    sim

/-- A result of `std::size_t` arithmetic, which wraps. -/
def castSize (n : Nat) : Nat := n % 0x10000000000000000

/-- The bytes `i`, `i + 1`, … of a mapping, `n` of them, copied into the logical
memory. -/
def copyInputs (logical : Cells UInt8 16384) (base : Nat) (bits : UInt32) :
    (i n : Nat) → Option (Cells UInt8 16384)
  | _, 0 => some logical
  | i, n + 1 =>
    let x := castSize (base + i)
    let shift := castSize (8 * i)
    if x < 16384 then
      if shift < 32 then
        copyInputs (logical.set x (bits >>> shift.toUInt32).toUInt8) base bits (i + 1) n
      else none
    else copyInputs logical base bits (i + 1) n

/-- The loop of `runOnce` over the mappings; a mapping of a dead slave is
erased. -/
def refreshInputs [SlaveDevice σ] (sim : NetworkSimulator σ) :
    List InputMap → Option (List InputMap × NetworkSimulator σ)
  | [] => some ([], sim)
  | m :: maps =>
    match sim.lock m.slave with
    | some ref => do
      let (bits, device) := SlaveDevice.readDigitalInputsBitfield (sim.objects ref).device
      let sim := sim.setObject ref { sim.objects ref with device }
      let logical ← match bits with
        | some bits => copyInputs sim.logical m.logicalAddress.toNat bits 0 m.widthBytes
        | none => some sim.logical
      let (kept, sim) ← refreshInputs { sim with logical } maps
      return (m :: kept, sim)
    | none => refreshInputs sim maps

/-- `runOnce` -/
def runOnce [SlaveDevice σ] (sim : NetworkSimulator σ) : Option (NetworkSimulator σ) := do
  let sim := sim.runRoutines
  let (inputMaps, sim) ← sim.refreshInputs sim.inputMaps
  return { sim with inputMaps }

end NetworkSimulator

end EthercatSim
