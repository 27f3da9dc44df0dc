import Landform.Pool.Client
import Landform.Pool.Worker

/-! # Waiting for results -/

namespace Landform.Pool

variable {β : Type}

/-- The next result for a caller, among the next `count` results that come. The workers do all they
can before a result is taken. -/
def awaitWithin (make : Maker β) : (count : Nat) → Pool β → Option (TaskResult β) × Pool β
  | 0, p => (none, p)
  | count + 1, p =>
    match (p.settle make).receive? with
    | none => (none, p.settle make)
    | some (some result, p) => (some result, p)
    | some (none, p) => awaitWithin make count p

/-- The next result for a caller. There is none only if no more result comes. -/
def await (make : Maker β) (p : Pool β) : Option (TaskResult β) × Pool β :=
  awaitWithin make (p.results.length + p.inFlight + 1) p

end Landform.Pool
