import Portrait.Avatar.Artwork
import Portrait.Avatar.Event
import Portrait.Avatar.Failure
import Portrait.Avatar.Letter
import Portrait.Avatar.Memory
import Portrait.Avatar.Records
import Portrait.Avatar.Service
import Portrait.Bits
import Portrait.Bmp
import Portrait.Bytes
import Portrait.Checksum
import Portrait.Deflate.Block
import Portrait.Deflate.Stream
import Portrait.Exif
import Portrait.Form.Body
import Portrait.Form.Problem
import Portrait.Form.Whole
import Portrait.Gif.Animation
import Portrait.Gif.ColorTable
import Portrait.Gif.Container
import Portrait.Gif.Error
import Portrait.Gif.Fit
import Portrait.Gif.Lzw.Decoder
import Portrait.Gif.Lzw.Encoder
import Portrait.Gif.Parser
import Portrait.Gif.Quantize
import Portrait.Gif.Still
import Portrait.Gif.SubBlocks
import Portrait.Gif.Writer
import Portrait.Huffman
import Portrait.Jpeg.File
import Portrait.Jpeg.Header
import Portrait.Jpeg.Scan
import Portrait.Json.Basic
import Portrait.Json.Parser
import Portrait.Json.Printer
import Portrait.Log.Console
import Portrait.Log.Lifespan
import Portrait.Log.Record
import Portrait.Log.Setup
import Portrait.Log.Shown
import Portrait.Png.Chunk
import Portrait.Png.File
import Portrait.Png.Form
import Portrait.Png.Rows
import Portrait.Proofs.Avatar.CommitPoint
import Portrait.Proofs.Avatar.Files
import Portrait.Proofs.Avatar.Interleaving
import Portrait.Proofs.Avatar.Progress
import Portrait.Proofs.Gif.Blocks
import Portrait.Proofs.Gif.Codec
import Portrait.Proofs.Gif.ColorTable
import Portrait.Proofs.Gif.Compositing
import Portrait.Proofs.Gif.Decoded
import Portrait.Proofs.Gif.Extent
import Portrait.Proofs.Gif.Failure
import Portrait.Proofs.Gif.Gate
import Portrait.Proofs.Gif.Grammar
import Portrait.Proofs.Gif.Idempotence
import Portrait.Proofs.Gif.Lzw.Packing
import Portrait.Proofs.Gif.Lzw.RoundTrip
import Portrait.Proofs.Gif.Pipeline
import Portrait.Proofs.Gif.Quantization
import Portrait.Proofs.Gif.SizeField
import Portrait.Proofs.Gif.Splicing
import Portrait.Proofs.Gif.Truncation
import Portrait.Proofs.Json.Depth
import Portrait.Proofs.Json.RoundTrip
import Portrait.Proofs.Raster.Interlace
import Portrait.Proofs.Raster.Orientation
import Portrait.Proofs.Roster
import Portrait.Proofs.Still.Opacity
import Portrait.Proofs.Still.Orientation
import Portrait.Proofs.Storage.Calls
import Portrait.Proofs.Storage.Effects
import Portrait.Proofs.Storage.Isolation
import Portrait.Proofs.Storage.Sound
import Portrait.Proofs.Storage.Tree
import Portrait.Proofs.Text.Ascii
import Portrait.Proofs.Text.Base64
import Portrait.Proofs.Text.Split
import Portrait.Proofs.Token.Genuine
import Portrait.Proofs.Token.Lifetime
import Portrait.Proofs.Web.Admission
import Portrait.Proofs.Web.Deeds
import Portrait.Proofs.Web.Permission
import Portrait.Proofs.Web.Refusal
import Portrait.Proofs.Web.Routing
import Portrait.Proofs.Web.SizeCheck
import Portrait.Proofs.Web.Truth
import Portrait.Proofs.Web.Uploads
import Portrait.Raster.Basic
import Portrait.Raster.Cubic
import Portrait.Raster.Interlace
import Portrait.Raster.Orientation
import Portrait.Raster.Pixel
import Portrait.Raster.Sample
import Portrait.Settings.Basic
import Portrait.Settings.Dotenv
import Portrait.Settings.Sources
import Portrait.Still.Encoded
import Portrait.Still.Picture
import Portrait.Still.Prepare
import Portrait.Still.Probe
import Portrait.Storage.Backend
import Portrait.Storage.Cloud
import Portrait.Storage.Local
import Portrait.Storage.Tree
import Portrait.Text.Base64
import Portrait.Text.Capital
import Portrait.Text.CodePoints
import Portrait.Text.Decimal
import Portrait.Text.Integer
import Portrait.Text.Quoted
import Portrait.Text.Uuid
import Portrait.Tiff.Directory
import Portrait.Tiff.File
import Portrait.Token.Duration
import Portrait.Token.Issue
import Portrait.Token.Sha2
import Portrait.Token.Signature
import Portrait.Token.Verify
import Portrait.Web.Answer
import Portrait.Web.Caller
import Portrait.Web.Cors
import Portrait.Web.Form
import Portrait.Web.Handler
import Portrait.Web.Parameters
import Portrait.Web.Rejection
import Portrait.Web.Request
import Portrait.Web.Response
import Portrait.Web.Route
import Portrait.Web.Site
import Portrait.Web.Target
import Portrait.Webp
