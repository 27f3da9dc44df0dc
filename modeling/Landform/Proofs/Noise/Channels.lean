import Landform.Proofs.Noise.Mixing
import Landform.Proofs.Table.Accepted
import Landform.Terrain.Climate
import Landform.Terrain.Marking

/-! # Channels apart

The seed of a channel is mixed from the seed of the world, the code of the dimension and the salt,
one after the other, and each goes in by a step that can be undone. So in one dimension of a world
the salts alone tell the channels apart, and one salt has different seeds in different worlds and in
different dimensions. Across two dimensions a seed comes up again only at another salt, which is
always equally far from the first. A table that gives a channel salts so far apart has it share its
seed between the two dimensions. -/

namespace Landform

open Function

/-! ## Seeds of channels -/

/-- What the seeds of all channels of a dimension of a world have in common. -/
def channelBase (world : UInt64) (d : Dimension) : UInt64 :=
  Lattice.mix (Lattice.mix (world ^^^ 0x5EED000000000000) ^^^
    d.code.toUInt64 * 0x9E3779B97F4A7C15)

theorem channelSeed_eq (world : UInt64) (d : Dimension) (salt : UInt64) :
    channelSeed world d salt = Lattice.mix (channelBase world d + salt) := rfl

section Seeds

variable (world : UInt64) (d : Dimension) (salt : UInt64)

theorem channelBase_bijective : Bijective fun world => channelBase world d := by
  have hworld : Bijective fun world : UInt64 => Lattice.mix (world ^^^ 0x5EED000000000000) :=
    Lattice.mix_bijective.comp (Lattice.xor_right_bijective 0x5EED000000000000)
  have hdimension : Bijective fun h => h ^^^ d.code.toUInt64 * 0x9E3779B97F4A7C15 :=
    Lattice.xor_right_bijective (d.code.toUInt64 * 0x9E3779B97F4A7C15)
  exact Lattice.mix_bijective.comp (hdimension.comp hworld)

theorem channelBase_injective : Injective (channelBase world) := by
  have hcode : Injective fun d : Dimension => d.code.toUInt64 * 0x9E3779B97F4A7C15 := by
    intro d d' h
    cases d <;> cases d' <;> first | rfl | exact absurd h (by decide)
  exact Lattice.mix_bijective.injective.comp ((Lattice.xor_bijective _).injective.comp hcode)

theorem channelSeed_bijective_salt : Bijective (channelSeed world d) :=
  Lattice.mix_bijective.comp (Lattice.add_bijective (channelBase world d))

theorem channelSeed_bijective_world : Bijective fun world => channelSeed world d salt :=
  Lattice.mix_bijective.comp ((Lattice.add_right_bijective salt).comp (channelBase_bijective d))

/-- Seeds agree where the sums do that are mixed into them. -/
theorem channelSeed_eq_iff {world : UInt64} {d d' : Dimension} {salt salt' : UInt64} :
    channelSeed world d salt = channelSeed world d' salt' ↔
      channelBase world d + salt = channelBase world d' + salt' := by
  rw [channelSeed_eq, channelSeed_eq, Lattice.mix_bijective.injective.eq_iff]

theorem channelSeed_injective_dimension : Injective fun d => channelSeed world d salt := by
  intro d d' h
  have hsum := channelSeed_eq_iff.mp h
  exact channelBase_injective world ((UInt64.add_left_inj salt).mp hsum)

/-- Between two dimensions the salts of equal seeds are a fixed distance apart, which is never
zero. -/
theorem exists_salt_gap {d d' : Dimension} (hne : d ≠ d') :
    ∃ gap, gap ≠ 0 ∧ ∀ salt salt',
      channelSeed world d salt = channelSeed world d' salt' ↔ salt' = salt + gap := by
  have hbase : channelBase world d ≠ channelBase world d' := (channelBase_injective world).ne hne
  refine ⟨channelBase world d - channelBase world d', ?_, fun salt salt' => ?_⟩
  · intro hzero
    exact hbase (by grind)
  · rw [channelSeed_eq_iff]
    constructor <;> intro h <;> grind

end Seeds

/-! ## Channels of a table -/

/-- The uses that terrain makes of noise. -/
inductive Channel where
  /-- A layer of the heights, by its place in the list. -/
  | layer (i : Nat)
  | ridges
  | ripple
  | caves
  | marker (m : Marker)
  | temperature
  | humidity
  deriving DecidableEq, Repr

namespace Marking

variable {α : Type}

/-- The noise of a marker among the markers of a chunk. -/
def noise? (k : Marking α) : Marker → Option (MarkerNoise α)
  | .cave => k.cave
  | .ore => k.ore
  | .water => k.water
  | .structure_ => k.structure_

theorem noise?_ofTable [Scalar α] (t : MarkerTable α) (key : ChunkKey) (m : Marker) :
    (ofTable t key).noise? m = (t.channel m).map (·.noise key) := by
  cases m <;> rfl

end Marking

namespace Channel

variable {α : Type} [Scalar α]

/-- The salt that a table gives a channel in a dimension, if the channel is there. -/
def salt? (t : Table α) (d : Dimension) : Channel → Option UInt64
  | layer i => (t.dimension d).height.layers[i]?.map (·.salt)
  | ridges => (t.dimension d).height.ridge.map (·.salt)
  | ripple => some (t.dimension d).ripple.salt
  | caves => (t.dimension d).caves.map (·.salt)
  | marker m => ((t.dimension d).markers.channel m).map (·.salt)
  | temperature => some t.climate.temperature.salt
  | humidity => some t.climate.humidity.salt

/-- The noise of a channel, where the ground, the markers or the climate of a key keep it. -/
def noise? (t : Table α) (key : ChunkKey) (c : Channel) : Option (Fractal α) :=
  let ground := Ground.ofTable (t.dimension key.dimension) key
  let marking := Marking.ofTable (t.dimension key.dimension).markers key
  let climate := Climate.ofTable t.climate key.seed key.dimension
  match c with
  | layer i => ground.layers[i]?.map (·.noise)
  | ridges => ground.ridges.map (·.noise)
  | ripple => some ground.ripple.noise
  | caves => ground.caves.map (·.noise)
  | marker m => (marking.noise? m).map (·.noise)
  | temperature => some climate.temperature
  | humidity => some climate.humidity

/-- The noise of a channel is there if the table has the channel, and it has the seed of the world,
the dimension and the salt that the table gives it. -/
theorem seed_noise? (t : Table α) (key : ChunkKey) (c : Channel) :
    (c.noise? t key).map (·.seed) =
      (c.salt? t key.dimension).map (channelSeed key.seed key.dimension) := by
  cases c with
  | layer i =>
    simp only [noise?, salt?, Ground.ofTable, List.getElem?_map, Option.map_map]
    rfl
  | ridges | caves =>
    simp only [noise?, salt?, Ground.ofTable, Option.map_map]
    rfl
  | marker m =>
    simp only [noise?, salt?, Marking.noise?_ofTable, Option.map_map]
    rfl
  | ripple | temperature | humidity => rfl

theorem exists_salt {t : Table α} {key : ChunkKey} {c : Channel} {n : Fractal α}
    (h : c.noise? t key = some n) :
    ∃ salt, c.salt? t key.dimension = some salt ∧
      n.seed = channelSeed key.seed key.dimension salt := by
  have hseed := seed_noise? t key c
  rw [h, Option.map_some, eq_comm, Option.map_eq_some_iff] at hseed
  obtain ⟨salt, hsalt, hn⟩ := hseed
  exact ⟨salt, hsalt, hn.symm⟩

end Channel

/-- Every seed of a channel belongs to exactly one salt in a dimension of a world, and to exactly
one world for a salt in a dimension, and a salt has different seeds in all three dimensions of a
world. So two channels of a key share a seed if and only if their salts are equal, and a salt that a
table gives to channels in two dimensions gives them different seeds. In two dimensions a seed comes
up again only at the salt that lies further by a distance which the world and the dimensions fix,
and which is not zero. -/
theorem channelSeed_separates {α : Type} [Scalar α] :
    (∀ world d, Bijective fun salt => channelSeed world d salt) ∧
      (∀ d salt, Bijective fun world => channelSeed world d salt) ∧
      (∀ world salt, Injective fun d => channelSeed world d salt) ∧
      (∀ (t : Table α) (key : ChunkKey) (c c' : Channel) (n n' : Fractal α),
        c.noise? t key = some n → c'.noise? t key = some n' →
          (n.seed = n'.seed ↔ c.salt? t key.dimension = c'.salt? t key.dimension)) ∧
      (∀ (t : Table α) (key key' : ChunkKey) (c c' : Channel) (n n' : Fractal α),
        key.seed = key'.seed → key.dimension ≠ key'.dimension →
          c.noise? t key = some n → c'.noise? t key' = some n' →
            c.salt? t key.dimension = c'.salt? t key'.dimension → n.seed ≠ n'.seed) ∧
      ∀ world d d', d ≠ d' → ∃ gap, gap ≠ 0 ∧ ∀ salt salt',
        channelSeed world d salt = channelSeed world d' salt' ↔ salt' = salt + gap := by
  refine ⟨channelSeed_bijective_salt, channelSeed_bijective_world,
    channelSeed_injective_dimension, ?_, ?_, fun world _ _ hne => exists_salt_gap world hne⟩
  · intro t key c c' n n' hn hn'
    obtain ⟨salt, hsalt, hseed⟩ := Channel.exists_salt hn
    obtain ⟨salt', hsalt', hseed'⟩ := Channel.exists_salt hn'
    rw [hseed, hseed', hsalt, hsalt', Option.some_inj]
    exact (channelSeed_bijective_salt key.seed key.dimension).injective.eq_iff
  · intro t key key' c c' n n' hworld hdimension hn hn' hsame
    obtain ⟨salt, hsalt, hseed⟩ := Channel.exists_salt hn
    obtain ⟨salt', hsalt', hseed'⟩ := Channel.exists_salt hn'
    rw [hsalt, hsalt', Option.some_inj] at hsame
    rw [hseed, hseed', ← hsame, ← hworld]
    exact (channelSeed_injective_dimension key.seed salt).ne hdimension

/-- Under the default table the ground and the caves of the overworld have different seeds, and so
has the temperature in the overworld and in the nether. -/
theorem channelSeed_separates_default :
    let t : Table Float := Table.default
    let key : ChunkKey := ⟨0, 0, 42, .overworld⟩
    let key' : ChunkKey := ⟨0, 0, 42, .nether⟩
    ∃ n₁ n₂ n₃ n₄,
      (Channel.noise? t key (.layer 1) = some n₁ ∧ Channel.noise? t key .caves = some n₂ ∧
        Channel.noise? t key .temperature = some n₃ ∧
        Channel.noise? t key' .temperature = some n₄ ∧
        key.seed = key'.seed ∧ key.dimension ≠ key'.dimension ∧
        Channel.salt? t key.dimension .temperature =
          Channel.salt? t key'.dimension .temperature) ∧
      n₁.seed ≠ n₂.seed ∧ n₃.seed ≠ n₄.seed := by
  intro t key key'
  have hdimension : key.dimension ≠ key'.dimension := by decide
  obtain ⟨-, -, -, hsame, hother, -⟩ := channelSeed_separates (α := Float)
  refine ⟨_, _, _, _, ⟨rfl, rfl, rfl, rfl, rfl, hdimension, rfl⟩, ?_, ?_⟩
  · exact fun h => absurd ((hsame t key (.layer 1) .caves _ _ rfl rfl).mp h) (by decide)
  · exact hother t key key' .temperature .temperature _ _ rfl hdimension rfl rfl rfl

/-- The default table with another salt for the ripple of the nether. In the world of seed 42 it
lies at that distance from the salt of the overworld at which seeds come up again. -/
def sharedRipple : Table Float :=
  let t : Table Float := Table.default
  let ripple := { t.nether.ripple with salt := 16407641550656111494 }
  { t with nether := { t.nether with ripple := ripple } }

/-- The check of a table does not compare the salts of two dimensions, so a channel can have one
seed in both. -/
theorem channelSeed_shared :
    sharedRipple.check = .ok () ∧
      ∃ n n', Channel.noise? sharedRipple ⟨0, 0, 42, .overworld⟩ .ripple = some n ∧
        Channel.noise? sharedRipple ⟨0, 0, 42, .nether⟩ .ripple = some n' ∧
        n.seed = n'.seed := by
  have hcheck : sharedRipple.check.toBool = true := by decide +kernel
  exact ⟨check_eq_ok_of_toBool hcheck, _, _, rfl, rfl, by decide +kernel⟩

end Landform
