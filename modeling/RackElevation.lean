import RackElevation.Main
import RackElevation.Session.Request
import RackElevation.Proofs.Number.Zero
import RackElevation.Proofs.Number.Half
import RackElevation.Proofs.Number.Characters
import RackElevation.Proofs.Number.Numeral
import RackElevation.Proofs.Number.Range
import RackElevation.Proofs.Number.Scaling
import RackElevation.Proofs.Drawing.Shapes
import RackElevation.Proofs.Drawing.Printing
import RackElevation.Proofs.Drawing.Preorder
import RackElevation.Proofs.Rack.Placement
import RackElevation.Proofs.Rack.Stacking
import RackElevation.Proofs.Rack.Shifting
import RackElevation.Proofs.Markup.DistinctAttributes
import RackElevation.Proofs.Markup.CharacterData
import RackElevation.Proofs.Rack.Content
import RackElevation.Proofs.Rack.ReadBack
import RackElevation.Proofs.Session.ReadBack
import RackElevation.Proofs.Raster.Agreement
import RackElevation.Proofs.Binary64.Range
import RackElevation.Proofs.Layout.Range
import RackElevation.Proofs.Session.Tracing
import RackElevation.Proofs.Session.Independence
import RackElevation.Proofs.Markup.Refusal
import RackElevation.Proofs.Markup.Repetition
import RackElevation.Proofs.Rack.Encodings
import RackElevation.Proofs.Session.Failures
import RackElevation.Proofs.Command.Arguments
import RackElevation.Proofs.Store
import RackElevation.Proofs.Command.Exit
import RackElevation.Proofs.Store.Opening
import RackElevation.Proofs.Session.Saving
import RackElevation.Proofs.Command.Files
import RackElevation.Proofs.Number.Sign
import RackElevation.Proofs.Settings.Acceptance
import RackElevation.Proofs.Layout.Geometry
import RackElevation.Proofs.Layout.Whole
import RackElevation.Proofs.Layout.Mounting
import RackElevation.Proofs.Raster.Runs
import RackElevation.Proofs.Raster.Covering
import RackElevation.Proofs.Raster.Tiles
import RackElevation.Proofs.Raster.Visibility
import RackElevation.Proofs.Drawing.Viewing
import RackElevation.Proofs.Session.Viewing
import RackElevation.Proofs.Session.Telling
import RackElevation.Proofs.Raster.Framing
import RackElevation.Proofs.Raster.Lettering
import RackElevation.Proofs.Raster.Magnification
import RackElevation.Proofs.Layout.Appearance
import RackElevation.Proofs.Layout.Order
import RackElevation.Proofs.Binary64.Decimals
import RackElevation.Proofs.Binary64.Error
import RackElevation.Proofs.Number.Digits
import RackElevation.Proofs.Number.Grammar
import RackElevation.Proofs.Number.Literals
import RackElevation.Proofs.Number.Canonical
import RackElevation.Proofs.Binary64.Parts
import RackElevation.Proofs.Raster.ColorForms
import RackElevation.Proofs.Raster.Shares
import RackElevation.Proofs.Raster.ColorBytes
