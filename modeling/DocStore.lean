import DocStore.Codec.Hex
import DocStore.Main
import DocStore.Service
import DocStore.Proofs.Codec.Bytes
import DocStore.Proofs.Log.Record
import DocStore.Proofs.SortedMap
import DocStore.Proofs.Number.Text
import DocStore.Proofs.Json.Text
import DocStore.Proofs.Json.Spacing
import DocStore.Proofs.Log.Manifest
import DocStore.Proofs.Tables
import DocStore.Proofs.Snapshot
import DocStore.Proofs.Plan
import DocStore.Proofs.Log.Name
import DocStore.Proofs.Log.Contents
import DocStore.Proofs.Log.Writer
import DocStore.Proofs.Recovery
import DocStore.Proofs.Store.Durable
import DocStore.Proofs.Store.Request
import DocStore.Proofs.Store.Session
import DocStore.Proofs.Store.Crash
import DocStore.Proofs.FieldCounts
import DocStore.Proofs.Accounting
import DocStore.Proofs.Store.Accounting
import DocStore.Proofs.Store.Interleaving
import DocStore.Proofs.Log.Damage
import DocStore.Proofs.Store.Past
import DocStore.Proofs.Store.Damage
import DocStore.Proofs.Log.Resume
import DocStore.Proofs.Store.Opening
import DocStore.Proofs.Query.Literal
import DocStore.Proofs.Query.Parser
import DocStore.Proofs.Query.Token
import DocStore.Proofs.Query.Number
import DocStore.Proofs.Query.Text
import DocStore.Proofs.Projection
import DocStore.Proofs.Number.Binary64
import DocStore.Proofs.Query.Meaning
import DocStore.Proofs.Catalog
import DocStore.Proofs.Store.Catalog
import DocStore.Proofs.Store.Refinement
import DocStore.Proofs.Number.Nearest
import DocStore.Proofs.Number.Shortest
import DocStore.Proofs.Number.Layout
import DocStore.Proofs.Number.Decimal
import DocStore.Proofs.Number.Format
import DocStore.Proofs.Json.Number
import DocStore.Proofs.Json.Levels
import DocStore.Proofs.JsonForm
import DocStore.Proofs.Storable
import DocStore.Proofs.Snapshot.Entry
import DocStore.Proofs.Snapshot.RoundTrip
import DocStore.Proofs.Codec.Cbor.Header
import DocStore.Proofs.Json.Settled
import DocStore.Proofs.Codec.Cbor.Collections
import DocStore.Proofs.Codec.Cbor.Json
import DocStore.Proofs.Log.Body
import DocStore.Proofs.Log.Encoding
import DocStore.Proofs.Service
import DocStore.Proofs.Plan.Faults
import DocStore.Proofs.Store.Containment
import DocStore.Proofs.Log.Lagging
import DocStore.Proofs.Store.Lagging
import DocStore.Proofs.Log.Batches
import DocStore.Proofs.Store.Enqueued
import DocStore.Proofs.Store.Queue
import DocStore.Proofs.Store.Overlay
import DocStore.Proofs.Service.Changes
import DocStore.Proofs.Query.Stored
import DocStore.Proofs.Offline.Verification
import DocStore.Proofs.Codec.Crc32c
import DocStore.Proofs.Log.Scan
import DocStore.Proofs.Log.Parts
import DocStore.Proofs.Log.Rotation
import DocStore.Proofs.Log.Trimming
import DocStore.Proofs.Codec.Base64Url
import DocStore.Proofs.Access.Token
import DocStore.Proofs.Codec.ByteOrder
import DocStore.Proofs.Pages
import DocStore.Proofs.Unicode.CodeSet
import DocStore.Proofs.Regex.Match
import DocStore.Proofs.Regex.Glob
import DocStore.Proofs.Consistency
import DocStore.Proofs.Query.Scan
import DocStore.Proofs.Query.Compilation
import DocStore.Proofs.Query.Composition
import DocStore.Proofs.Query.Order
import DocStore.Proofs.FieldCounts.Merging
import DocStore.Proofs.Source
import DocStore.Proofs.Query.Tiling
import DocStore.Proofs.Query.Blame
import DocStore.Proofs.Number.Rounding
import DocStore.Proofs.Query.Decimal
