import EthercatSim.Kickcat.Protocol
import EthercatSim.Lib.Fallible

/-!
# The master's commands

`MasterController` carries out the commands `scan`, `initPreop` and
`requestOperational` on a KickCAT bus and writes what came of them into the
`MasterModel`.  The bus is a compiled library: here it is an oracle that says, for
the calls in the order in which they are made, whether the call throws, what it
returns and what it leaves in the list `slaves()`.  What it throws is a
`std::exception`, so the `catch (...)` branches have nothing to do.

Logging, the mutexes and the delays are left out.
-/

namespace EthercatSim

open Kickcat

/-! ## The model that the views read -/

/-- `SlavesRow` -/
structure SlavesRow where
  address : Nat
  state : String
  alCode : String
  deriving DecidableEq, Repr

/-- `MasterSnapshot`, without what the SDO commands and the view's selection
write. -/
structure MasterSnapshot where
  detectedSlaves : Int := 0
  preop : Bool := false
  operational : Bool := false
  status : String := ""
  slaves : List SlavesRow := []
  deriving DecidableEq, Repr

/-! ## The bus -/

/-- `kickcat::Slave`, as far as the controller reads it. -/
structure KickcatSlave where
  address : UInt16
  alStatus : UInt8
  alStatusCode : UInt16
  deriving DecidableEq, Repr

/-- The calls into KickCAT and the socket. -/
inductive BusCall where
  | openSocket
  | makeLink
  | makeBus
  | detectSlaves
  | sendNop
  | finalizeDatagrams
  | processAwaitingFrames
  | init
  | requestState (state : State)
  /-- The background task is part of the call. -/
  | waitForState (state : State) (timeout : Nat)
  | createMapping
  | sendGetRegister (address reg : UInt16)
  deriving DecidableEq, Repr

/-- What a call does: the text of the exception if it throws, the count that
`detectSlaves` returns, the register that `sendGetRegister` reads, and the list
`slaves()` that it leaves. -/
structure BusAnswer where
  thrown : Option String := none
  detected : Int := 0
  register : UInt16 := 0
  slaves : List KickcatSlave := []
  deriving DecidableEq, Repr

/-- `MasterController`: the model, whether `link_` and `bus_` are there, and the
slaves of the bus.  `answers n call` is the answer to `call` as the `n`-th call. -/
structure MasterController where
  model : MasterSnapshot := {}
  hasLink : Bool := false
  hasBus : Bool := false
  slaves : List KickcatSlave := []
  calls : Nat := 0
  answers : Nat → BusCall → BusAnswer

/-- A member function of the controller; the exceptions are kept as their
`what()`. -/
abbrev Master (α : Type) := Fallible MasterController String α

namespace MasterController

/-! ## The AL status of a slave -/

def kStateMask : UInt8 := 0x0F

/-- A `kickcat::State` of the code can be a value that no enumerator has: it is kept
as its byte. -/
def normalizeState (raw : UInt8) : UInt8 := raw &&& kStateMask

def stateToString (state : UInt8) : String :=
  let state := normalizeState state
  if state = State.INIT.toByte then "INIT"
  else if state = State.PRE_OP.toByte then "PRE_OP"
  else if state = State.BOOT.toByte then "BOOT"
  else if state = State.SAFE_OP.toByte then "SAFE_OP"
  else if state = State.OPERATIONAL.toByte then "OP"
  else "INVALID"

/-- A digit of `std::uppercase << std::hex`. -/
def hexDigit (n : Nat) : Char :=
  if n < 10 then Char.ofNat ('0'.toNat + n) else Char.ofNat ('A'.toNat + (n - 10))

def formatAlStatusCode (code : UInt16) : String :=
  let n := code.toNat
  "0x" ++ String.ofList [hexDigit (n / 4096 % 16), hexDigit (n / 256 % 16), hexDigit (n / 16 % 16),
    hexDigit (n % 16)]

def makeRow (slave : KickcatSlave) : SlavesRow where
  address := slave.address.toNat
  state := stateToString (normalizeState slave.alStatus)
  alCode := formatAlStatusCode slave.alStatusCode

def snapshotSlaves (c : MasterController) : List SlavesRow :=
  if c.hasBus then c.slaves.map makeRow else []

def allSlavesInState (c : MasterController) (state : State) : Bool :=
  c.hasBus && !c.slaves.isEmpty &&
    c.slaves.all fun s => normalizeState s.alStatus == state.toByte

/-! ## Calls and setters -/

/-- The answer to `call`, or the exception that it throws. -/
def outcome (c : MasterController) (call : BusCall) : Except String BusAnswer :=
  match (c.answers c.calls call).thrown with
  | some what => .error what
  | none => .ok (c.answers c.calls call)

/-- A call that does not go through the bus object. -/
def linkCall (call : BusCall) : Master BusAnswer :=
  Fallible.attempt fun c => (c.outcome call, { c with calls := c.calls + 1 })

/-- A call of a member function of the bus. -/
def busCall (call : BusCall) : Master BusAnswer :=
  Fallible.attempt fun c =>
    (c.outcome call, { c with calls := c.calls + 1, slaves := (c.answers c.calls call).slaves })

def setDetectedSlaves (n : Int) : Master Unit :=
  modify fun c => { c with model := { c.model with detectedSlaves := n } }

def setPreop (v : Bool) : Master Unit :=
  modify fun c => { c with model := { c.model with preop := v } }

def setOperational (v : Bool) : Master Unit :=
  modify fun c => { c with model := { c.model with operational := v } }

def setStatus (s : String) : Master Unit :=
  modify fun c => { c with model := { c.model with status := s } }

def setSlaves (rows : List SlavesRow) : Master Unit :=
  modify fun c => { c with model := { c.model with slaves := rows } }

section Setters

variable (c : MasterController)

@[simp] theorem exec_setPreop (v : Bool) : (setPreop v).exec c =
    (.ok (), { c with model := { c.model with preop := v } }) := rfl

@[simp] theorem exec_setSlaves (rows : List SlavesRow) : (setSlaves rows).exec c =
    (.ok (), { c with model := { c.model with slaves := rows } }) := rfl

end Setters

/-! ## The steps of the commands -/

/-- `ensureBus_`.  After an attempt that threw, the socket and the link are made anew.  The
timeouts and latencies are only stored. -/
def ensureBus : Master Unit := do
  let c ← get
  if c.hasBus then pure ()
  else
    let _ ← linkCall .openSocket
    let _ ← linkCall .makeLink
    modify fun c => { c with hasLink := true }
    let _ ← linkCall .makeBus
    modify fun c => { c with hasBus := true, slaves := [] }

/-- The loop of `detectSlavesWithRetries_`; `detected` is what the last round found. -/
def detectLoop : Nat → Int → Master Int
  | 0, detected => pure detected
  | attempts + 1, _ => do
    let answer ← busCall .detectSlaves
    setDetectedSlaves answer.detected
    if answer.detected > 0 then
      let _ ← busCall .processAwaitingFrames
      pure answer.detected
    else
      let _ ← busCall .sendNop
      let _ ← busCall .finalizeDatagrams
      let _ ← busCall .processAwaitingFrames
      detectLoop attempts answer.detected

def detectSlavesWithRetries (attempts : Nat) : Master Int := detectLoop attempts 0

/-- A round of `refreshSlaveAlStatusUnlocked_`: the cached values stay when a register
read fails. -/
def refreshSlave (slave : KickcatSlave) : Master KickcatSlave :=
  tryCatch
    (do
      let status ← linkCall (.sendGetRegister slave.address 0x0130)
      let code ← linkCall (.sendGetRegister slave.address 0x0134)
      pure { slave with alStatus := status.register.toUInt8, alStatusCode := code.register })
    fun _ => pure slave

def refreshSlaveAlStatus : Master Unit := do
  let c ← get
  if !c.hasBus || !c.hasLink then pure ()
  else
    let slaves ← c.slaves.mapM refreshSlave
    modify fun c => { c with slaves := slaves }

def requestAndWaitState (target : State) (timeout : Nat) : Master Bool := do
  let c ← get
  if !c.hasBus then pure false
  else if c.allSlavesInState target then pure true
  else
    tryCatch
      (do
        let _ ← busCall (.requestState target)
        let _ ← busCall .finalizeDatagrams
        let _ ← busCall .processAwaitingFrames
        let _ ← busCall (.waitForState target timeout)
        refreshSlaveAlStatus
        let c ← get
        pure (c.allSlavesInState target))
      fun _ => do
        refreshSlaveAlStatus
        let c ← get
        pure (c.allSlavesInState target)

/-- What `initPreop` and `requestOperational` start with: a bus, and a slave on it. -/
def findSlaves : Master Bool := do
  ensureBus
  let c ← get
  if c.slaves.isEmpty then
    let detected ← detectSlavesWithRetries 10
    pure (decide (0 < detected))
  else pure true

/-! ## `scan` -/

def scan : Master Unit :=
  tryCatch
    (do
      ensureBus
      let n ← detectSlavesWithRetries 10
      if n ≤ 0 then
        setSlaves []
        setStatus "scan err: no slave detected"
      else
        refreshSlaveAlStatus
        let c ← get
        setSlaves c.snapshotSlaves
        setStatus "scan ok")
    fun what => setStatus ("scan err: " ++ what)

/-! ## `initPreop` -/

/-- The inner `try` of `initPreop`: (`initReached`, `preopReached`) after `bus_->init()`. -/
def initBus : Master (Bool × Bool) :=
  tryCatch
    (do
      let _ ← busCall .init
      refreshSlaveAlStatus
      let c ← get
      let preopReached := c.allSlavesInState .PRE_OP
      pure (preopReached || c.allSlavesInState .INIT, preopReached))
    fun _ => pure (false, false)

/-- The second try, by hand, when PRE_OP is not confirmed. -/
def retryStates (reached : Bool × Bool) : Master (Bool × Bool) :=
  if !reached.2 then do
    let initReached ← requestAndWaitState .INIT 8000
    let preopReached ← requestAndWaitState .PRE_OP 8000
    pure (initReached || reached.1, preopReached)
  else pure reached

/-- The end of `initPreop`. -/
def reportPreop (reached : Bool × Bool) : Master Unit := do
  let c ← get
  let initReached := reached.1 || c.allSlavesInState .INIT
  let preopReached := reached.2 || c.allSlavesInState .PRE_OP
  setSlaves c.snapshotSlaves
  setPreop preopReached
  if preopReached then setStatus "preop ok"
  else if !initReached then setStatus "preop err: INIT state not reached"
  else setStatus "preop err: PRE_OP state mismatch"

def initPreop : Master Unit :=
  tryCatch
    (do
      let found ← findSlaves
      if found then
        let reached ← initBus
        let reached ← retryStates reached
        refreshSlaveAlStatus
        reportPreop reached
      else
        setSlaves []
        setPreop false
        setStatus "preop err: no slave detected")
    fun what => setStatus ("preop err: " ++ what)

/-! ## `requestOperational` -/

/-- The bus calls of `requestOperational`, up to the end of the wait. -/
def enterOperational : Master Bool := do
  let found ← findSlaves
  if found then
    let _ ← busCall .createMapping
    let _ ← busCall (.requestState .OPERATIONAL)
    let _ ← busCall (.waitForState .OPERATIONAL 2000)
    pure true
  else pure false

/-- The end of `requestOperational`. -/
def reportOperational : Master Unit := do
  let c ← get
  setSlaves c.snapshotSlaves
  setOperational true
  setStatus "op ok"

def requestOperational : Master Unit :=
  tryCatch
    (do
      let entered ← enterOperational
      if entered then
        refreshSlaveAlStatus
        reportOperational
      else setStatus "op err: no slave detected")
    fun what => setStatus ("op err: " ++ what)

/-! ## Runs -/

/-- The controller's constructor. -/
def create (answers : Nat → BusCall → BusAnswer) : MasterController := { answers }

/-- The commands of the master. -/
inductive MasterCommand where
  | scan
  | initPreop
  | requestOperational
  deriving DecidableEq, Repr

def MasterCommand.body : MasterCommand → Master Unit
  | .scan => MasterController.scan
  | .initPreop => MasterController.initPreop
  | .requestOperational => MasterController.requestOperational

/-- The controller after a command. -/
def step (c : MasterController) (command : MasterCommand) : MasterController :=
  (command.body.exec c).2

end MasterController

end EthercatSim
