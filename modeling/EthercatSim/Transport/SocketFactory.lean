import EthercatSim.Lib.Run
import EthercatSim.Transport.SystemCalls

/-!
# `SocketFactory`

The model of `core/communication/socket_factory.cpp`: a table of creators, one for each type
of endpoint.  The creator for `uds` is in `SocketAddress`.

* `Creator.Clean`: a creator leaves the socket open that it returns, and no other one; when it
  throws it leaves nothing open.
* `createTcp_clean` and `createUds_clean`: the two default creators are clean.
* `createSocket_clean`: so is `createSocket`, whatever clean creators were registered, in any
  order, and it is supported exactly when one was registered for the type of the endpoint.
-/

namespace EthercatSim

open Descriptors StepRun UnixSocket

namespace SocketFactory

/-! ## The creators -/

/-- What the creators ask of the system. -/
structure System where
  unix : Kernel
  inet : InetKernel
  strerror : List InetCall → List UInt8

/-- `SocketCreator`, with what it does with descriptors. -/
abbrev Creator := System → List UInt8 → Except RuntimeError Int × List (Use Int)

/-- The creator that is registered for `tcp`. -/
def createTcp (sys : System) (ep : List UInt8) : Except RuntimeError Int × List InetCall :=
  -- the parser assigns the port whenever it accepts
  match EndpointParser.parseTcpEndpoint ep [] 0 with
  | (false, _, _) => (.error ⟨"Invalid TCP endpoint: ", ep⟩, [])
  | (true, host, port) =>
    let sock := sys.inet.answer .socket
    if sock < 0 then
      (.error ⟨"Failed to create TCP socket: ", sys.strerror [.socket]⟩, [.socket])
    else
      let name := cString host
      let (found, calls) :=
        if sys.inet.answer (.inetPton name) ≤ 0 then
          -- try to resolve the host name
          (decide (0 ≤ sys.inet.answer (.gethostbyname name)),
            [.socket, .inetPton name, .gethostbyname name])
        else (true, [.socket, .inetPton name])
      if !found then (.error ⟨"Failed to resolve host: ", host⟩, calls ++ [.close sock])
      else if sys.inet.answer (.connect sock name port) < 0 then
        let calls := calls ++ [.connect sock name port, .close sock]
        (.error ⟨"Failed to connect to TCP endpoint: ", sys.strerror calls⟩, calls)
      else (.ok sock, calls ++ [.connect sock name port])

def tcpCreator : Creator := fun sys ep =>
  ((createTcp sys ep).1, inetUses sys.inet (createTcp sys ep).2)

def udsCreator : Creator := fun sys ep =>
  ((createUds sys.unix ep).1, unixUses sys.unix (createUds sys.unix ep).2)

/-! ## The table -/

/-- The text that `getEndpointType` returns. -/
def typeText : EndpointParser.EndpointType → String
  | .tcp => "tcp"
  | .uds => "uds"
  | .unknown => "unknown"

/-- `creators_` -/
abbrev Creators := String → Option Creator

def registerCreator (creators : Creators) (type : String) (creator : Creator) : Creators :=
  fun t => if t = type then some creator else creators t

def registerDefaultCreators (creators : Creators) : Creators :=
  registerCreator (registerCreator creators "tcp" tcpCreator) "uds" udsCreator

def createSocket (creators : Creators) : Creator := fun sys ep =>
  let type := typeText (EndpointParser.getEndpointType ep)
  match creators type with
  | none => (.error ⟨"Unsupported endpoint type: ", type.toUTF8.toList⟩, [])
  | some creator => creator sys ep

def isSupported (creators : Creators) (ep : List UInt8) : Bool :=
  (creators (typeText (EndpointParser.getEndpointType ep))).isSome

/-- The calls that change the table. -/
inductive Registration where
  | register (type : String) (creator : Creator)
  | defaults

def step (creators : Creators) : Registration → Creators
  | .register type creator => registerCreator creators type creator
  | .defaults => registerDefaultCreators creators

/-! ## Clean creators -/

/-- The result of a creator agrees with the table of descriptors behind it. -/
def Tidy (table : List Int) (out : Except RuntimeError Int × List (Use Int)) : Prop :=
  match out.1 with
  | .ok fd => replay table out.2 = some (fd :: table) ∧ 0 ≤ fd
  | .error _ => replay table out.2 = some table

/-- With a system that opens no descriptor twice, the socket that a creator returns is open
behind it, and nothing else is that was not before. -/
def Creator.Clean (create : Creator) : Prop :=
  ∀ (sys : System) (ep : List UInt8) (table : List Int), sys.unix.answer .socket ∉ table →
    sys.inet.answer .socket ∉ table → Tidy table (create sys ep)

theorem createTcp_clean : Creator.Clean tcpCreator := by
  intro sys ep table _ hfresh
  rw [tcpCreator, createTcp]
  split
  · exact replay_nil table
  · rename_i host port _
    have hopened := replay_opened hfresh
    simp only []
    split
    · rename_i hfd
      simp [Tidy, inetUses, socketUses, hfd]
    · rename_i hfd
      -- whether the name is resolved or not, these calls use no descriptor
      by_cases hpton : sys.inet.answer (.inetPton (cString host)) ≤ 0
      · simp only [if_pos hpton]
        split
        · simp [Tidy, inetUses, socketUses, hfd, hopened, replay_closed]
        · split
          · simp [Tidy, inetUses, socketUses, hfd, hopened, replay_used, replay_closed]
          · simp [Tidy, inetUses, socketUses, hfd, hopened, replay_used]
            omega
      · simp only [if_neg hpton, Bool.not_true, Bool.false_eq_true, if_false]
        split
        · simp [Tidy, inetUses, socketUses, hfd, hopened, replay_used, replay_closed]
        · simp [Tidy, inetUses, socketUses, hfd, hopened, replay_used]
          omega

theorem createUds_clean : Creator.Clean udsCreator := by
  intro sys ep table hfresh _
  rw [udsCreator, createUds]
  split
  · exact replay_nil table
  · have hopened := replay_opened hfresh
    simp only []
    split
    · rename_i hfd
      simp [Tidy, unixUses, socketUses, hfd]
    · rename_i hfd
      split
      · simp [Tidy, unixUses, socketUses, hfd, hopened, replay_closed]
      · split
        · simp [Tidy, unixUses, socketUses, hfd, hopened, replay_used, replay_closed]
        · simp [Tidy, unixUses, socketUses, hfd, hopened, replay_used]
          omega

/-! ## Whole runs -/

/-- All creators in the table are clean. -/
def Creators.Clean (creators : Creators) : Prop :=
  ∀ type creator, creators type = some creator → Creator.Clean creator

/-- The registration is of a clean creator. -/
def Registration.IsClean : Registration → Prop
  | .register _ creator => Creator.Clean creator
  | .defaults => True

/-- The types that a registration is for. -/
def Registration.types : Registration → List String
  | .register type _ => [type]
  | .defaults => ["tcp", "uds"]

theorem registerCreator_clean {creators : Creators} (h : creators.Clean) (type : String)
    {creator : Creator} (hcreator : Creator.Clean creator) :
    Creators.Clean (registerCreator creators type creator) := by
  intro t found hfound
  rw [registerCreator] at hfound
  split at hfound
  · obtain rfl := Option.some.inj hfound
    exact hcreator
  · exact h t found hfound

theorem step_clean {creators : Creators} (h : creators.Clean) {op : Registration}
    (hop : op.IsClean) : Creators.Clean (step creators op) := by
  cases op with
  | register type creator => exact registerCreator_clean h type hop
  | defaults =>
    exact registerCreator_clean (registerCreator_clean h "tcp" createTcp_clean) "uds"
      createUds_clean

/-- A creator is in the table once one was registered for its type. -/
theorem step_isSome (creators : Creators) (op : Registration) (type : String) :
    (step creators op type).isSome = true ↔ (creators type).isSome = true ∨ type ∈ op.types := by
  cases op with
  | register t creator =>
    simp only [step, registerCreator, Registration.types, List.mem_singleton]
    split <;> simp [*]
  | defaults =>
    simp only [step, registerDefaultCreators, registerCreator, Registration.types, List.mem_cons,
      List.not_mem_nil, or_false]
    split
    · simp [*]
    · split <;> simp [*]

theorem run_isSome (creators : Creators) (ops : List Registration) (type : String) :
    (run step creators ops type).isSome = true ↔
      (creators type).isSome = true ∨ ∃ op ∈ ops, type ∈ op.types := by
  induction ops generalizing creators with
  | nil => simp
  | cons op ops ih =>
    rw [run_cons, ih, step_isSome, List.exists_mem_cons_iff, or_assoc]

/-- After any registrations of clean creators, `createSocket` is clean: the socket that it
returns is open, and when it throws nothing is left open.  It is supported exactly when a
creator was registered for the type of the endpoint, and makes no system call otherwise. -/
theorem createSocket_clean {ops : List Registration} (hops : ∀ op ∈ ops, op.IsClean) :
    let creators := run step (fun _ => none) ops
    Creator.Clean (createSocket creators) ∧
      ∀ ep, let type := typeText (EndpointParser.getEndpointType ep)
        (isSupported creators ep = true ↔ ∃ op ∈ ops, type ∈ op.types) ∧
        (isSupported creators ep = false → ∀ sys, createSocket creators sys ep =
          (.error ⟨"Unsupported endpoint type: ", type.toUTF8.toList⟩, [])) := by
  intro creators
  have hstep : ∀ (creators : Creators) op, creators.Clean → op.IsClean →
      Creators.Clean (step creators op) := fun _ _ h hop => step_clean h hop
  have hempty : Creators.Clean fun _ => none := by
    intro type creator hfound
    cases hfound
  have hclean : Creators.Clean creators := run_invariant hstep hempty hops
  refine ⟨?_, fun ep => ⟨?_, ?_⟩⟩
  · intro sys ep table hunix hinet
    rw [createSocket]
    cases hfound : creators (typeText (EndpointParser.getEndpointType ep)) with
    | none => exact replay_nil table
    | some creator => exact hclean _ _ hfound sys ep table hunix hinet
  · rw [isSupported, run_isSome]
    simp
  · intro hnone sys
    rw [isSupported, Option.isSome_eq_false_iff, Option.isNone_iff_eq_none] at hnone
    rw [createSocket]
    simp only [hnone]

/-- With the default creators, a refused connection leaves nothing open. -/
theorem createSocket_clean_defaults :
    let creators := run step (fun _ => none) [.defaults]
    let refused : System :=
      ⟨⟨fun | .connect _ _ => -1 | _ => 3, fun _ => []⟩, ⟨fun _ => 3⟩, fun _ => []⟩
    isSupported creators (EndpointParser.UDS_PREFIX ++ [0x73]) = true ∧
      replay [] (createSocket creators refused (EndpointParser.UDS_PREFIX ++ [0x73])).2 =
        some [] := by
  intro creators refused
  obtain ⟨hclean, hsupported⟩ := @createSocket_clean [.defaults]
    fun op hop => by
      obtain rfl := List.mem_singleton.mp hop
      trivial
  refine ⟨(hsupported _).1.mpr ⟨.defaults, by simp, by decide⟩, ?_⟩
  have htidy := hclean refused (EndpointParser.UDS_PREFIX ++ [0x73]) [] (by simp) (by simp)
  have hrefused : (createSocket creators refused (EndpointParser.UDS_PREFIX ++ [0x73])).1 =
      .error ⟨"Failed to connect to UDS endpoint: ", []⟩ := by
    rfl
  rw [Tidy, hrefused] at htidy
  exact htidy

end SocketFactory

end EthercatSim
