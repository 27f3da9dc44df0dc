import Landform.Document.Json
import Landform.Main
import Landform.Pool.Await
import Landform.Proofs.Chunk.Voxelwise
import Landform.Proofs.Pool.Accounts
import Landform.Proofs.Pool.Delivery
import Landform.Proofs.Pool.Pending
import Landform.Proofs.Chunk.Agreement
import Landform.Proofs.Chunk.Overlay
import Landform.Proofs.Pool.Outcome
import Landform.Proofs.Batch.Errand
import Landform.Proofs.Batch.Balance
import Landform.Proofs.Batch.Completion
import Landform.Proofs.Chunk.Checksum
import Landform.Proofs.Chunk.Guarded
import Landform.Proofs.Table.Partial
import Landform.Proofs.Settings.RoundTrip
import Landform.Proofs.Chunk.Preview
import Landform.Proofs.Terrain.Seam
import Landform.Proofs.Pool.Handover
import Landform.Proofs.Pool.Submission
import Landform.Proofs.Pool.Order
import Landform.Proofs.Pool.Reception
import Landform.Proofs.Settings.Square
import Landform.Proofs.Chunk.Polynomial
import Landform.Proofs.Number.Equality
import Landform.Proofs.Settings.Usable
import Landform.Proofs.Settings.Reload
import Landform.Proofs.Noise.Channels
import Landform.Proofs.Request.Names
import Landform.Proofs.Terrain.Smoothing
import Landform.Proofs.Chunk.Topsoil
import Landform.Proofs.Chunk.Stored
import Landform.Proofs.Noise.Slope
import Landform.Proofs.Request.Label
import Landform.Proofs.Terrain.Rows
