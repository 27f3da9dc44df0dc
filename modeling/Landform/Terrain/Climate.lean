import Landform.Biome
import Landform.Terrain.Density

/-! # Climate

Two noises, temperature and humidity, decide the biome of a column by an ordered list of rules. -/

namespace Landform

open scoped Scalar

/-- What a rule asks of a climate. -/
inductive ClimateTest where
  | warmAndWet
  | warm
  | cold
  | wet
  deriving DecidableEq, Repr

/-- The biome of the climates that pass a test. -/
structure BiomeRule where
  test : ClimateTest
  biome : Biome
  deriving DecidableEq, Repr

/-- The first rule that holds decides, and the fallback where none does. -/
structure BiomeRules (α : Type) where
  rules : List BiomeRule
  fallback : Biome
  warm : α
  cold : α
  wet : α

namespace BiomeRules

variable {α : Type} [Scalar α]

/-- Warm and wet is forest, other warm land plains, cold land taiga, and other wet land swamp. -/
def ofTable (t : ClimateTable α) : BiomeRules α where
  rules := [⟨.warmAndWet, .forest⟩, ⟨.warm, .plains⟩, ⟨.cold, .taiga⟩, ⟨.wet, .swamp⟩]
  fallback := .plain
  warm := t.warm
  cold := t.cold
  wet := t.wet

/-- Whether a climate passes a test. The limits themselves are neither warm nor cold nor wet. -/
def holds (r : BiomeRules α) (temperature humidity : α) : ClimateTest → Bool
  | .warmAndWet => decide (r.warm < temperature) && decide (r.wet < humidity)
  | .warm => decide (r.warm < temperature)
  | .cold => decide (temperature < r.cold)
  | .wet => decide (r.wet < humidity)

/-- The biome of a climate. -/
def classify (r : BiomeRules α) (temperature humidity : α) : Biome :=
  match r.rules.find? (fun rule => r.holds temperature humidity rule.test) with
  | some rule => rule.biome
  | none => r.fallback

end BiomeRules

/-- The climate of one dimension of a world. -/
structure Climate (α : Type) where
  temperature : Fractal α
  humidity : Fractal α
  rules : BiomeRules α

namespace Climate

variable {α : Type} [Scalar α]

/-- The climate of a world under a table. -/
def ofTable (t : ClimateTable α) (worldSeed : UInt64) (d : Dimension) : Climate α :=
  let noise (c : NoiseChannel α) : Fractal α :=
    .ofOctaves (channelSeed worldSeed d c.salt) c.octaves c.frequency
  ⟨noise t.temperature, noise t.humidity, .ofTable t⟩

/-- The temperature at a point. -/
@[specialize]
def temperatureAt (c : Climate α) (p : Point2 α) : α := c.temperature.sample2 p.x p.z

/-- The humidity at a point. -/
@[specialize]
def humidityAt (c : Climate α) (p : Point2 α) : α := c.humidity.sample2 p.x p.z

/-- The biome at a point. -/
@[specialize]
def biomeAt (c : Climate α) (p : Point2 α) : Biome :=
  c.rules.classify (c.temperatureAt p) (c.humidityAt p)

end Climate

end Landform
