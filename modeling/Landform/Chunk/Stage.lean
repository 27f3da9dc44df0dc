import Landform.Chunk.Plan

/-! # Stages

A stage fills a field. Its units read what earlier stages wrote, and all of them add to one counter.
A unit over a column gives one reading, which is collected or written to its place; a unit over a
layer writes all places of the layer. -/

namespace Landform

open Layout

/-- A value for a place of a field, and what it adds to the counter. -/
structure Reading (β : Type) where
  value : β
  anomalies : Nat

/-- A field that is being filled, and the counter. -/
structure Filling (β : Type) (n : Nat) where
  field : Vector β n
  anomalies : Nat

/-- Writes one place. -/
@[inline]
def Filling.write {β : Type} {n : Nat} (f : Filling β n) (i : Fin n) (r : Reading β) :
    Filling β n :=
  ⟨f.field.set i r.value, f.anomalies + r.anomalies⟩

/-- Fills all places from readings that have been collected in the order of the places. -/
def Filling.collect {β : Type} {n : Nat} (f : Filling β n) (readings : Vector (Reading β) n) :
    Filling β n :=
  ⟨readings.map (·.value), readings.foldl (fun anomalies r => anomalies + r.anomalies) f.anomalies⟩

/-- Runs the units of a stage over the columns. The readings of units that run one after the other
are collected, and turned round at the end if the units ran downwards. Units that run at the same
time write each to its own place. The first unit that fails ends the stage. -/
@[specialize]
def runColumns {β ε : Type} (order : UnitOrder area) (unit : Fin area → Except ε (Reading β))
    (start : Filling β area) : Except ε (Filling β area) :=
  match order with
  | .forward => return start.collect (← Vector.ofFnM unit)
  | .reverse => return start.collect (← Vector.ofFnM fun i => unit i.rev).reverse
  | .free units _ => units.foldlM (fun f i => return f.write i (← unit i)) start

/-- One unit of a stage over the layers: writes the layer at height `y`, column by column. -/
@[specialize]
def writeLayer {β : Type} (unit : Fin height → Fin area → Reading β) (y : Fin height)
    (start : Filling β volume) : Filling β volume :=
  (List.finRange area).foldl (fun f i => f.write (layerPlace y i) (unit y i)) start

/-- Runs the units of a stage over the layers. -/
@[specialize]
def runLayers {β : Type} (order : UnitOrder height) (unit : Fin height → Fin area → Reading β)
    (start : Filling β volume) : Filling β volume :=
  order.units.foldl (fun f y => writeLayer unit y f) start

end Landform
