import RemoteSensing.Chart
import RemoteSensing.Imagery.Edit
import RemoteSensing.Imagery.Zones
import RemoteSensing.Proofs.Analysis.Index
import RemoteSensing.Proofs.Basemap.Mosaics
import RemoteSensing.Proofs.Catalog.Download
import RemoteSensing.Proofs.Catalog.Keywords
import RemoteSensing.Proofs.Catalog.Limit
import RemoteSensing.Proofs.Catalog.Paths
import RemoteSensing.Proofs.Colour
import RemoteSensing.Proofs.DecisionTree.Encoding
import RemoteSensing.Proofs.DecisionTree.Storage
import RemoteSensing.Proofs.Export.Failed
import RemoteSensing.Proofs.Export.Watch
import RemoteSensing.Proofs.Geo.Box
import RemoteSensing.Proofs.Geo.Place
import RemoteSensing.Proofs.Inspector
import RemoteSensing.Proofs.Legend.Classes
import RemoteSensing.Proofs.Legend.Memory
import RemoteSensing.Proofs.Map.Drawn
import RemoteSensing.Proofs.Map.Stretch
import RemoteSensing.Proofs.Period
import RemoteSensing.Proofs.Plot.Sampled
import RemoteSensing.Proofs.Script.Cell
import RemoteSensing.Proofs.Script.Counting
import RemoteSensing.Proofs.Script.Download
import RemoteSensing.Proofs.Script.Header
import RemoteSensing.Proofs.Script.Imports
import RemoteSensing.Proofs.Script.Kept
import RemoteSensing.Proofs.Script.Matching
import RemoteSensing.Proofs.Stac.Overlap
import RemoteSensing.Proofs.Stac.Resolution
import RemoteSensing.Proofs.Table.Series
import RemoteSensing.Proofs.Value.Renaming
import RemoteSensing.Tiles
import RemoteSensing.Timelapse.Landsat
import RemoteSensing.Timelapse.Optical
