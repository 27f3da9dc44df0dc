import Landform.Document.Printer
import Landform.Settings.Basic
import Landform.Table.Write

/-! # Writing settings

Settings as a document that names every value. -/

namespace Landform

/-- How the work is shared out, as a document. -/
def WorkerSettings.toDocument (w : WorkerSettings) : Document :=
  .fields [("threads", .integer w.threads.toNat),
    ("queue_capacity", .integer w.queueCapacity.toNat),
    ("result_capacity", .integer w.resultCapacity.toNat),
    ("parallel_columns", .bool w.parallelColumns)]

/-- Which chunks are made, as a document. -/
def RunSettings.toDocument (r : RunSettings) : Document :=
  .fields [("seed", .integer r.seed.toNat), ("dimension", .text r.dimension),
    ("center_x", .integer r.centerX.toInt), ("center_z", .integer r.centerZ.toInt),
    ("radius", .integer r.radius.toNat)]

/-- What is logged, as a document. -/
def DebugSettings.toDocument (d : DebugSettings) : Document :=
  .fields [("log_level", .text d.logLevel), ("json_log", .bool d.jsonLog)]

/-- Settings as a document. -/
def Settings.toDocument (s : Settings) : Document :=
  .fields [("worker", s.worker.toDocument), ("generation", s.generation.toDocument),
    ("run", s.run.toDocument), ("debug", s.debug.toDocument)]

/-- Settings as RON text. -/
def Settings.toRon (s : Settings) : String := Ron.print s.toDocument

end Landform
