import Landform.Proofs.Chunk.Voxelwise

/-! # Generation that looks at its flag

A request can be withdrawn while its chunk is being generated. A generation looks at the flag before
it starts, in every unit of every stage, and after every stage. A unit that finds the flag raised
leaves its place as it is, and a generation that finds it raised after a stage ends there. A flag
that is raised stays raised. So no chunk with a place left out is ever handed on, and all these
looks come to the same as one look at the very end. -/

namespace Landform

open Layout

/-- A stage of a generation. -/
inductive Stage where
  | columns
  | density
  | ground
  | marks
  deriving DecidableEq

/-- Where a generation looks at its flag. -/
inductive Look where
  | start
  | unit (stage : Stage) (i : Nat)
  | after (stage : Stage)

namespace Look

/-- The number of a stage. -/
def stageNumber : Stage → Nat
  | .columns => 1
  | .density => 2
  | .ground => 3
  | .marks => 4

/-- When the look takes place. The units of a stage come in any order. -/
def time : Look → Nat
  | start => 1
  | unit stage _ => 2 * stageNumber stage
  | after stage => 2 * stageNumber stage + 1

theorem time_lt_last {look : Look} (h : look ≠ after .marks) :
    look.time < (after .marks).time := by
  cases look with
  | start => decide
  | unit stage i => cases stage <;> simp only [time, stageNumber] <;> decide
  | after stage =>
    cases stage with
    | marks => exact absurd rfl h
    | _ => decide

end Look

/-- What a generation sees of a flag that stays raised. -/
def StaysRaised (watch : Look → Bool) : Prop :=
  ∀ before after : Look, before.time < after.time → watch before = true → watch after = true

/-- Runs the units of a stage over the layers, apart from those that are left out. -/
def runLayersUnless {β : Type} (skip : Fin height → Bool) (order : UnitOrder height)
    (unit : Fin height → Fin area → Reading β) (start : Filling β volume) : Filling β volume :=
  order.units.foldl (fun f y => if skip y then f else writeLayer unit y f) start

theorem runLayersUnless_false {β : Type} (order : UnitOrder height)
    (unit : Fin height → Fin area → Reading β) (start : Filling β volume) :
    runLayersUnless (fun _ => false) order unit start = runLayers order unit start := by
  unfold runLayersUnless runLayers
  simp only [Bool.false_eq_true, if_false]

namespace Generator

variable (g : Generator)

/-- Generates a chunk by a plan, looking at a flag. -/
def runWatched (plan : Plan) (key : ChunkKey) (watch : Look → Bool) :
    Except RequestError Chunk := do
  key.check
  if watch .start then throw .cancelled
  let w ← Worksite.ofTable g.table key
  let columns ← runColumns plan.columns
    (fun i => if watch (.unit .columns i) then pure ⟨.blank, 0⟩ else w.column i)
    ⟨Vector.replicate _ .blank, 0⟩
  if watch (.after .columns) then throw .cancelled
  let density := runLayersUnless (fun y => watch (.unit .density y)) plan.density
    (w.density columns.field) ⟨Vector.replicate _ 0, columns.anomalies⟩
  if watch (.after .density) then throw .cancelled
  let ground := runLayersUnless (fun y => watch (.unit .ground y)) plan.ground
    (w.groundMaterial columns.field density.field) ⟨Vector.replicate _ .air, 0⟩
  if watch (.after .ground) then throw .cancelled
  let final := runLayersUnless (fun y => watch (.unit .marks y)) plan.marks
    (w.finish columns.field ground.field) ⟨Vector.replicate _ (.air, 0), 0⟩
  if watch (.after .marks) then throw .cancelled
  let biome := columns.field.map (·.biome)
  pure
    { key
      density := density.field
      material := final.field.map (·.1)
      marks := final.field.map (·.2)
      biome
      checksum := Checksum.ofBiomes key biome.toList
      diagnostics := .ofFields density.anomalies ground.field final.field }

/-- A flag that is never raised makes no difference. -/
theorem runWatched_of_not {watch : Look → Bool} (h : ∀ look, watch look = false) (plan : Plan)
    (key : ChunkKey) : g.runWatched plan key watch = g.run plan key false := by
  unfold runWatched run
  simp only [h, runLayersUnless_false, Bool.false_eq_true, if_false]

/-- The columns of a watched generation, of which some may be left out. -/
theorem columns_watched (skip : Fin area → Bool) (key : ChunkKey) (order : UnitOrder area)
    (start : Filling ColumnData area) :
    ∃ columns, runColumns order
      (fun i => if skip i then .ok ⟨.blank, 0⟩ else (g.worksite key).column i) start =
        .ok columns := by
  have hunit : ∀ i, (if skip i then .ok ⟨.blank, 0⟩ else (g.worksite key).column i) =
      Except.ok (if skip i then ⟨.blank, 0⟩ else g.columnReading key i) := by
    intro i
    split
    · rfl
    · exact g.column_eq_ok key i
  exact ⟨_, runColumns_eq_ok order hunit start⟩

/-- A flag that is raised before the end has the generation break off. -/
theorem runWatched_of_raised {watch : Look → Bool} (h : watch (.after .marks) = true) (plan : Plan)
    (key : ChunkKey) : g.runWatched plan key watch = g.run plan key true := by
  unfold runWatched run
  cases hcheck : key.check with
  | error e => rfl
  | ok _ =>
    obtain ⟨columns, hcolumns⟩ := g.columns_watched (fun i => watch (.unit .columns i)) key
      plan.columns ⟨Vector.replicate _ .blank, 0⟩
    -- Whichever look is the first to see the flag raised, the generation ends with the same error.
    simp only [g.worksite_eq_ok key, hcolumns, h, bind, Except.bind, pure, Except.pure, throw,
      throwThe, MonadExceptOf.throw, if_true, ite_self]

/-- All the looks of a generation come to the same as one look at the end. -/
theorem runWatched_eq_run {watch : Look → Bool} (h : StaysRaised watch) (plan : Plan)
    (key : ChunkKey) : g.runWatched plan key watch = g.run plan key (watch (.after .marks)) := by
  cases hlast : watch (.after .marks) with
  | true => exact g.runWatched_of_raised hlast plan key
  | false =>
    refine g.runWatched_of_not (fun look => ?_) plan key
    by_cases hlook : look = .after .marks
    · rw [hlook]
      exact hlast
    · -- A flag that was seen raised would be seen so at the end as well.
      cases hseen : watch look with
      | false => rfl
      | true =>
        have hraised := h look _ (Look.time_lt_last hlook) hseen
        exact absurd (hlast.symm.trans hraised) Bool.false_ne_true

end Generator

end Landform
