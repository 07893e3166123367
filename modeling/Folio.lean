import Folio.Query
import Folio.Link
import Folio.Config.Decode
import Folio.Service.Check
import Folio.Config.Load
import Folio.Envelope
import Folio.Http.App
import Folio.Post.Schema
import Folio.Store.Record
import Folio.Main
import Folio.Proofs.Url.Form
import Folio.Proofs.Url.Query
import Folio.Proofs.TextMap
import Folio.Proofs.Text.Decimal
import Folio.Proofs.Request
import Folio.Proofs.Compose
import Folio.Proofs.Store.Memory
import Folio.Proofs.Walk
import Folio.Proofs.Text.Lower
import Folio.Proofs.Text.Like
import Folio.Proofs.Store.Database
import Folio.Proofs.Request.Steps
import Folio.Proofs.Request.Pairs
import Folio.Proofs.Direction
import Folio.Proofs.Store.Pattern
import Folio.Proofs.Request.Offset
import Folio.Proofs.Link
import Folio.Proofs.Store.StorageOrder
import Folio.Proofs.Order
import Folio.Proofs.Compose.Reference
import Folio.Proofs.Order.Steps
import Folio.Proofs.Compose.Shape
import Folio.Proofs.Filter.Key
import Folio.Proofs.Log.Route
import Folio.Proofs.Text.LikeLoop
import Folio.Proofs.Time.Calendar
import Folio.Proofs.Text.Jaro
