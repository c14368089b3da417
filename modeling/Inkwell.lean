import Inkwell.Studio
import Inkwell.Cache.Script
import Inkwell.Proofs.Cache.Soundness
import Inkwell.Proofs.Chain.Provenance
import Inkwell.Proofs.Renderer.Direct
import Inkwell.Proofs.Layout.Placement
import Inkwell.Proofs.Studio.Workshop
import Inkwell.Proofs.Cache.Activity
import Inkwell.Proofs.Text.Decoding
import Inkwell.Proofs.Text.Tiling
import Inkwell.Proofs.Renderer.Clusters
import Inkwell.Proofs.Paint.Pixels
import Inkwell.Proofs.Paint.Painting
import Inkwell.Proofs.Layout.Stamping
import Inkwell.Proofs.Studio.Easel
import Inkwell.Proofs.Cache.Recency
import Inkwell.Proofs.Text.Seam
import Inkwell.Proofs.Layout.Pen
import Inkwell.Proofs.Renderer.Concatenation
import Inkwell.Proofs.Glyph.Acceptance
import Inkwell.Proofs.Glyph.Scaling
import Inkwell.Proofs.Chain.Sheets
import Inkwell.Proofs.Renderer.Limits
import Inkwell.Proofs.Toml.Lines
import Inkwell.Proofs.Config.RoundTrip
import Inkwell.Proofs.Cache.Bookkeeping
import Inkwell.Proofs.Cache.Counters
import Inkwell.Proofs.Glyph.Ledger
import Inkwell.Proofs.Layout.Inking
import Inkwell.Proofs.Text.Pairing
import Inkwell.Proofs.Glyph.Redrawing
import Inkwell.Proofs.Text.Flags
import Inkwell.Proofs.Text.Repair
import Inkwell.Proofs.Glyph.Magnification
import Inkwell.Proofs.Glyph.Narrowing
import Inkwell.Proofs.Chain.Assembly
import Inkwell.Proofs.Layout.Spans
import Inkwell.Proofs.Layout.Headroom
import Inkwell.Proofs.Paint.Border
import Inkwell.Proofs.Renderer.Measuring
import Inkwell.Proofs.Paint.Intersection
import Inkwell.Proofs.Paint.Filling
import Inkwell.Proofs.Glyph.RowArt
import Inkwell.Proofs.Registry.Recall
import Inkwell.Proofs.Glyph.HollowBox
import Inkwell.Proofs.Layout.MissingBoxes
