import MultipartUpload.BlobStore
import MultipartUpload.Config.Environment
import MultipartUpload.Json.Config
import MultipartUpload.Json.Reader
import MultipartUpload.Json.Stored
import MultipartUpload.Json.Writer
import MultipartUpload.Memory.Service
import MultipartUpload.Service.Script
import MultipartUpload.Proofs.Text.Strip
import MultipartUpload.Proofs.Text.Hex
import MultipartUpload.Proofs.Checksum.Composite
import MultipartUpload.Proofs.Plan.Geometry
import MultipartUpload.Proofs.Plan.Growth
import MultipartUpload.Proofs.Plan.Limits
import MultipartUpload.Proofs.Slice.Tiling
import MultipartUpload.Proofs.Slice.Shortage
import MultipartUpload.Proofs.Slice.Chunking
import MultipartUpload.Proofs.Options.Algorithm
import MultipartUpload.Proofs.Options.RoundTrip
import MultipartUpload.Proofs.Options.LastSetting
import MultipartUpload.Proofs.Options.Obtainable
import MultipartUpload.Proofs.Upload.Loop
import MultipartUpload.Proofs.Upload.Sending
import MultipartUpload.Proofs.Upload.Conversation
import MultipartUpload.Proofs.Upload.Replay
import MultipartUpload.Proofs.Upload.Outline
import MultipartUpload.Proofs.Upload.Coverage
import MultipartUpload.Proofs.Upload.Retry
import MultipartUpload.Proofs.Upload.Supply
import MultipartUpload.Proofs.Upload.Shortfall
import MultipartUpload.Proofs.Upload.Demand
import MultipartUpload.Proofs.Memory.Table
import MultipartUpload.Proofs.Memory.Manifest
import MultipartUpload.Proofs.Memory.Answer
import MultipartUpload.Proofs.Memory.Reachable
import MultipartUpload.Proofs.Memory.Run
import MultipartUpload.Proofs.Name.Labels
import MultipartUpload.Proofs.Memory.Underway
import MultipartUpload.Proofs.Memory.Grant
import MultipartUpload.Proofs.Memory.Shipping
import MultipartUpload.Proofs.Memory.Assembly
import MultipartUpload.Proofs.Memory.History
import MultipartUpload.Proofs.Memory.Isolation
import MultipartUpload.Proofs.BlobStore.Panic
import MultipartUpload.Proofs.BlobStore.Cleanup
import MultipartUpload.Proofs.BlobStore.Delivery
import MultipartUpload.Proofs.BlobStore.Directory
import MultipartUpload.Proofs.BlobStore.Agreement
import MultipartUpload.Proofs.BlobStore.Sources
import MultipartUpload.Proofs.BlobStore.Translation
import MultipartUpload.Proofs.Memory.Lifetime
import MultipartUpload.Proofs.Memory.Flat
import MultipartUpload.Proofs.Memory.Soundness
import MultipartUpload.Proofs.Memory.Completion
import MultipartUpload.Proofs.Memory.Atomicity
import MultipartUpload.Proofs.Memory.Visibility
import MultipartUpload.Proofs.Plan.Interleaving
import MultipartUpload.Proofs.Config.Environment
import MultipartUpload.Proofs.Json.Lexing
import MultipartUpload.Proofs.Json.Reading
import MultipartUpload.Proofs.Json.Record
import MultipartUpload.Proofs.Json.RoundTrip
import MultipartUpload.Proofs.Upload.Bookkeeping
