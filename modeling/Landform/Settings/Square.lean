import Landform.Settings.Basic

/-! # Squares of chunks

The keys of all chunks around a center, row by row from the least coordinates on. -/

namespace Landform

namespace RunSettings

/-- The number of chunks along a side of the square. -/
def side (r : RunSettings) : Nat := 2 * r.radius.toNat + 1

/-- The coordinate `offset` chunks away from one of the center's coordinates, if it is one of 32
bits. -/
def coordinate (r : RunSettings) (center : Int32) (offset : Int) : Except RequestError Int32 :=
  match Text.WholeRange.int32.check (center.toInt + offset) with
  | some n => .ok (Int32.ofInt n)
  | none => .error (.outOfRange r.centerX r.centerZ)

/-- The key of the chunk that is so far from the center along x and along z. -/
def keyAt (r : RunSettings) (dimension : Dimension) (dx dz : Int) :
    Except RequestError ChunkKey := do
  let x ← r.coordinate r.centerX dx
  let z ← r.coordinate r.centerZ dz
  let key : ChunkKey := ⟨x, z, r.seed, dimension⟩
  key.check
  pure key

/-- Takes a step for each of `count` numbers from `first` on. The first step that fails ends the
walk. -/
def walk {σ ε : Type} (step : Int → σ → Except ε σ) : (count : Nat) → (first : Int) → σ → Except ε σ
  | 0, _, s => .ok s
  | count + 1, first, s =>
    match step first s with
    | .ok s => walk step count (first + 1) s
    | .error e => .error e

/-- One chunk more, after those that are there already, the last one first. -/
def addKey (r : RunSettings) (dimension : Dimension) (dz dx : Int) (done : List ChunkKey) :
    Except RequestError (List ChunkKey) :=
  return (← r.keyAt dimension dx dz) :: done

/-- All keys of the square, or the first thing that is wrong with it. The rows are walked along one
after the other. -/
def keys (r : RunSettings) : Except RequestError (List ChunkKey) := do
  let dimension ← Dimension.ofText r.dimension
  let first : Int := -r.radius.toNat
  let row (dz : Int) : List ChunkKey → Except RequestError (List ChunkKey) :=
    walk (r.addKey dimension dz) r.side first
  let done ← walk row r.side first []
  pure done.reverse

end RunSettings

end Landform
