import Landform.Log.Directive

/-! # Log filters

Which events a log shows. A filter is a list of directives with commas between them, of which the
most specific one decides about an event. -/

namespace Landform

/-- The directives of a log, in the order in which they are given. -/
structure LogFilter where
  directives : List Directive
  deriving DecidableEq, Repr

namespace LogFilter

/-- The directive that a text says, if it makes sense. There is no answer at all where it tears a
character apart. -/
def sensible? (cs : List Char) : Option (Option Directive) :=
  match Directive.ofText cs with
  | .ok d => some (some d)
  | .error .malformed => some none
  | .error .torn => none

/-- The filter that a text says. The empty text shows everything from `info` on. Directives that
make no sense are left out, and if none is left only errors are shown. Where a directive tears a
character apart there is no filter. -/
def ofText? (s : String) : Option LogFilter :=
  if s = "" then some ⟨[.ofLevel .info]⟩
  else do
    let parts := (s.toList.splitOn ',').filter (!·.isEmpty)
    let directives := (← parts.mapM sensible?).filterMap id
    some ⟨if directives.isEmpty then [.ofLevel .error] else directives⟩

/-- The more specific one of two directives; the second one if both are equally specific. -/
def narrower (a b : Directive) : Directive := if b.isAsSpecificAs a then b else a

/-- How far down the events of a source with the given fields are shown. -/
def verbosity (f : LogFilter) (source : List Char) (fields : List (List Char)) : Nat :=
  match f.directives.filter (·.applies source fields) with
  | [] => 0
  | d :: ds => (ds.foldl narrower d).verbosity

/-- The name under which batch runs report. -/
def batchSource : String := "strata_worker"

/-- The fields of the events of batch runs. -/
def batchFields : List String := ["message"]

/-- Whether an event is shown. -/
def shows (f : LogFilter) (e : Event) : Bool :=
  e.level.verbosity ≤ f.verbosity batchSource.toList (batchFields.map String.toList)

end LogFilter

end Landform
