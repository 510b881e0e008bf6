/-
**Launch geometry.**

A kernel is launched on a grid of blocks, each block being a grid of threads.  Threads are numbered
through the whole launch with `x` fastest: first inside a block, then block by block.

Main definitions:

* `Offload.Extent`, `Offload.Geometry` — three-dimensional sizes, and those of a launch;
* `Offload.Extent.count`, `Offload.Geometry.count` — exact numbers of points and threads;
* `Offload.Extent.volume`, `Offload.Geometry.totalThreads` — the same in machine words;
* `Offload.Thread` — the position of one thread, with its flat indices `globalX` and `globalLinear`;
* `Offload.Extent.point`, `Offload.Geometry.thread` — the point and the thread with a given number.
-/

import Offload.Outcome

set_option autoImplicit false

namespace Offload

/-- A size, or a position, in three dimensions. -/
structure Extent where
  x : UInt32
  y : UInt32
  z : UInt32
deriving DecidableEq, Repr, Inhabited

namespace Extent

/-- A size in one dimension. -/
def line (x : UInt32) : Extent :=
  ⟨x, 1, 1⟩

/-- The number of points. -/
def count (e : Extent) : Nat :=
  e.x.toNat * e.y.toNat * e.z.toNat

/-- The number of points as a machine word. -/
def volume (e : Extent) : Outcome Nat := do
  let area ← Word.mul e.x.toNat e.y.toNat
  Word.mul area e.z.toNat

/-- The point with a given number, `x` fastest. -/
def point (e : Extent) (n : Nat) : Extent :=
  ⟨UInt32.ofNat (n % e.x.toNat), UInt32.ofNat (n / e.x.toNat % e.y.toNat),
    UInt32.ofNat (n / e.x.toNat / e.y.toNat)⟩

/-- An extent as it is printed. -/
def text (e : Extent) : String :=
  s!"({e.x},{e.y},{e.z})"

end Extent

/-- The size of a launch: a grid of blocks and a block of threads. -/
structure Geometry where
  grid : Extent
  block : Extent
deriving DecidableEq, Repr, Inhabited

/-- The place of a thread in a launch. -/
structure Thread where
  grid : Extent
  block : Extent
  blockIndex : Extent
  threadIndex : Extent
deriving DecidableEq, Repr, Inhabited

namespace Geometry

/-- The number of threads. -/
def count (g : Geometry) : Nat :=
  g.grid.count * g.block.count

/-- The number of threads as a machine word. -/
def totalThreads (g : Geometry) : Outcome Nat := do
  let blocks ← g.grid.volume
  let threads ← g.block.volume
  Word.mul blocks threads

/-- The thread with a given number. -/
def thread (g : Geometry) (n : Nat) : Thread :=
  ⟨g.grid, g.block, g.grid.point (n / g.block.count), g.block.point (n % g.block.count)⟩

/-- A geometry as it is printed. -/
def text (g : Geometry) : String :=
  s!"grid={g.grid.text} block={g.block.text}"

end Geometry

namespace Thread

/-- The index of a thread along the first dimension of the launch. -/
def globalX (t : Thread) : Outcome Nat := do
  let base ← Word.mul t.blockIndex.x.toNat t.block.x.toNat
  Word.add base t.threadIndex.x.toNat

/-- The number of a point in an extent, `x` fastest, in machine words. -/
def flatten (size index : Extent) : Outcome Nat := do
  let planes ← Word.mul index.z.toNat size.y.toNat
  let rows ← Word.add planes index.y.toNat
  let cells ← Word.mul rows size.x.toNat
  Word.add cells index.x.toNat

/-- The number of a thread in the launch. -/
def globalLinear (t : Thread) : Outcome Nat := do
  let block ← flatten t.grid t.blockIndex
  let thread ← flatten t.block t.threadIndex
  let volume ← t.block.volume
  let base ← Word.mul block volume
  Word.add base thread

end Thread

end Offload
