import EthercatSim.Lib.Writes
import EthercatSim.Transport.Sessions

/-!
# The process image over all clients

The process image is the one thing that the server keeps from client to client.  It is
written by LWR and LRW, and read by LRD.

* `Bus.serveFrames_image`: behind any frames the image holds what their writes, one after
  the other, leave in it.
* `imageHistory`: what a client reads is, byte by byte, what the last write put there,
  whichever client made it.
-/

namespace EthercatSim

open Kickcat SlavesEndpoint

/-- The write that a datagram makes in the image.  One that does not fit is not made. -/
def Datagram.imageWrite (d : Datagram) : Option (CellWrite UInt8) :=
  if (d.command = .LWR ∨ d.command = .LRW) ∧ d.address.toNat + d.data.length ≤ 16384 then
    some ⟨d.address.toNat, d.data⟩
  else none

/-- The writes of frames, in order. -/
def imageWrites (frames : List (List Datagram)) : List (CellWrite UInt8) :=
  frames.flatten.filterMap Datagram.imageWrite

theorem imageWrites_append (xs ys : List (List Datagram)) :
    imageWrites (xs ++ ys) = imageWrites xs ++ imageWrites ys := by
  rw [imageWrites, List.flatten_append, List.filterMap_append]
  rfl

/-! ## The bus -/

namespace Bus

variable {σ : Type} [SlaveDevice σ]

theorem interpret_image (b : Bus σ) (d : Datagram) :
    (b.interpret d).1.image = b.image.storeAll d.imageWrite.toList := by
  cases ha : d.access with
  | some a =>
    have hnone : d.imageWrite = none := by
      cases hc : d.command <;> simp only [Datagram.access, hc, reduceCtorEq] at ha <;>
        simp [Datagram.imageWrite, hc]
    rw [interpret, ha, hnone]
    show (b.perform a).2.2.image = b.image
    rw [perform]
    split <;> rfl
  | none =>
    cases hc : d.command <;> simp only [Datagram.access, hc, reduceCtorEq] at ha <;>
      simp only [interpret, Datagram.access, Datagram.imageWrite, hc, reduceCtorEq, false_or,
        or_false, true_and, false_and, if_false]
    case LWR => split <;> rfl
    case LRW => split <;> rfl
    case LRD => split <;> rfl
    all_goals rfl

theorem processFrame_image (b : Bus σ) (frame : List Datagram) :
    (b.processFrame frame).1.image = b.image.storeAll (frame.filterMap Datagram.imageWrite) := by
  induction frame generalizing b with
  | nil => rfl
  | cons d ds ih =>
    have hwrites : (d :: ds).filterMap Datagram.imageWrite =
        d.imageWrite.toList ++ ds.filterMap Datagram.imageWrite := by
      rw [List.filterMap_cons]
      cases d.imageWrite <;> rfl
    show ((b.interpret d).1.processFrame ds).1.image = _
    rw [ih, interpret_image, hwrites, Cells.storeAll_append]

/-- The routines leave the image alone. -/
theorem serveFrames_image (b : Bus σ) (frames : List (List Datagram)) :
    (b.serveFrames frames).1.image = b.image.storeAll (imageWrites frames) := by
  induction frames generalizing b with
  | nil => rfl
  | cons frame frames ih =>
    show ((b.processFrame frame).1.runOnce.serveFrames frames).1.image = _
    rw [ih]
    show (b.processFrame frame).1.image.storeAll _ = _
    rw [processFrame_image, ← Cells.storeAll_append, imageWrites, imageWrites, List.flatten_cons,
      List.filterMap_append]

end Bus

/-! ## All clients -/

/-- The sessions of clients, one after the other.  Each of them asks for a number of slaves
and sends frames. -/
def serveSessions (sim : NetworkSimulator El1258) :
    List (Nat × List (List Datagram)) → Option (NetworkSimulator El1258)
  | [] => some sim
  | (n, frames) :: sessions => do
    let (sim, _) ← serveFrames (prepare n sim) frames
    serveSessions sim sessions

/-- The image that they leave. -/
theorem serveSessions_logical (sessions : List (Nat × List (List Datagram)))
    {sim : NetworkSimulator El1258} (h : sim.inputMaps = []) :
    ∃ sim', serveSessions sim sessions = some sim' ∧ sim'.inputMaps = [] ∧
      sim'.logical = sim.logical.storeAll (sessions.flatMap fun s => imageWrites s.2) := by
  induction sessions generalizing sim with
  | nil => exact ⟨sim, rfl, h, rfl⟩
  | cons session sessions ih =>
    obtain ⟨n, frames⟩ := session
    obtain ⟨served, hserve, hrep⟩ := (prepare_represents n h).serveFrames frames
    obtain ⟨sim', hsessions, hmaps, hlogical⟩ := ih hrep.unmapped
    refine ⟨sim', ?_, hmaps, ?_⟩
    · rw [serveSessions, hserve]
      exact hsessions
    · rw [hlogical, hrep.image, Bus.serveFrames_image, List.flatMap_cons, Cells.storeAll_append]
      rfl

/-- Any clients have been served, and the client that is served now has sent frames.  In the
next frame an LRD that fits comes back acknowledged.  Every byte of it is what the last write
that covers the byte put there, of this client or of one before, and 0 when there is none. -/
theorem imageHistory (blank : El1258Slave) (sessions : List (Nat × List (List Datagram))) (n : Nat)
    (frames : List (List Datagram)) (before after : List Datagram) {d : Datagram}
    (hread : d.command = .LRD) (hfits : d.address.toNat + d.data.length ≤ 16384) :
    ∃ sim sim' outs last, serveSessions (NetworkSimulator.new blank) sessions = some sim ∧
      serveFrames (prepare n sim) (frames ++ [before ++ d :: after]) = some (sim', outs ++ [last]) ∧
      outs.length = frames.length ∧
      last[before.length]? = some { d with
        wkc := 1
        data := (List.range d.data.length).map fun i =>
          (CellWrite.lastWritten (sessions.flatMap (fun s => imageWrites s.2) ++
            imageWrites (frames ++ [before])) (d.address.toNat + i)).getD 0 } := by
  have hnew : (NetworkSimulator.new blank).inputMaps = [] := rfl
  obtain ⟨sim, hsessions, hmaps, hlogical⟩ := serveSessions_logical sessions hnew
  obtain ⟨sim', hserve, -⟩ :=
    (prepare_represents n hmaps).serveFrames (frames ++ [before ++ d :: after])
  let served := ((Bus.fresh n sim.logical).serveFrames frames).1
  let reached := (served.processFrame before).1
  refine ⟨sim, sim', ((Bus.fresh n sim.logical).serveFrames frames).2,
    (served.processFrame (before ++ d :: after)).2, hsessions, ?_, Bus.length_serveFrames _ _, ?_⟩
  · rw [hserve, Bus.serveFrames_append]
    rfl
  -- the image in front of the datagram holds all writes so far
  have himage : reached.image = (Cells.fill 0 : Cells UInt8 16384).storeAll
      (sessions.flatMap (fun s => imageWrites s.2) ++ imageWrites (frames ++ [before])) := by
    have hbefore : imageWrites [before] = before.filterMap Datagram.imageWrite := by
      rw [imageWrites, List.flatten_singleton]
    have hfresh : (Bus.fresh n sim.logical).image = sim.logical := rfl
    rw [Bus.processFrame_image, Bus.serveFrames_image, hfresh, hlogical, imageWrites_append,
      hbefore, Cells.storeAll_append, Cells.storeAll_append]
    rfl
  have hinterpret : (reached.interpret d).2 =
      { d with data := reached.image.load d.address.toNat d.data.length, wkc := 1 } := by
    rw [Bus.interpret]
    simp only [Datagram.access, hread, if_pos hfits]
  rw [Bus.processFrame_getElem?, hinterpret, himage]
  congr 2
  apply List.map_congr_left
  intro i hi
  have hcell : d.address.toNat + i < 16384 := by
    have hlt := List.mem_range.mp hi
    omega
  rw [Cells.get_storeAll _ _ hcell, Cells.get_fill, if_pos hcell]

/-- A client writes two bytes, the next one overwrites the second of them, and the third one
reads both. -/
theorem imageHistory_three_clients :
    ∃ sim sim' outs last,
      serveSessions (NetworkSimulator.new (El1258Slave.new 1 0 0))
        [(1, [[{ command := .LWR, address := 8, data := [1, 2], wkc := 0 }]]),
          (2, [[{ command := .LRW, address := 9, data := [3], wkc := 0 }]])] = some sim ∧
      serveFrames (prepare 3 sim) [[{ command := .LRD, address := 8, data := [0, 0], wkc := 0 }]] =
        some (sim', outs ++ [last]) ∧
      outs.length = 0 ∧
      last[0]? = some { command := .LRD, address := 8, data := [1, 3], wkc := 1 } :=
  imageHistory (El1258Slave.new 1 0 0) _ 3 [] [] [] rfl (by decide)

end EthercatSim
