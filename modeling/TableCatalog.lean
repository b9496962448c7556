import TableCatalog.Identifier
import TableCatalog.Main
import TableCatalog.Proofs.ByteRange
import TableCatalog.Proofs.MapContents
import TableCatalog.Proofs.PathKey
import TableCatalog.Proofs.RegionFrame
import TableCatalog.Proofs.RegionRefinement
import TableCatalog.Proofs.WireField
import TableCatalog.Proofs.WireRoundTrip
import TableCatalog.Proofs.Contents
import TableCatalog.Proofs.ContentsLayout
import TableCatalog.Proofs.ContentsChanges
import TableCatalog.Proofs.ContentsSteps
import TableCatalog.Proofs.ShortRequests
import TableCatalog.Proofs.ContentsSound
import TableCatalog.Proofs.ContentsLookup
import TableCatalog.Proofs.ContentsQuestions
import TableCatalog.Proofs.TablePartitions
import TableCatalog.Proofs.PartitionDrops
import TableCatalog.Proofs.ContentsRefinement
import TableCatalog.Proofs.LayoutInvariant
import TableCatalog.Proofs.ContentsLedgers
import TableCatalog.Proofs.SequenceNumbers
import TableCatalog.Proofs.ContentsFaults
import TableCatalog.Proofs.FaultClassification
import TableCatalog.Proofs.Addressing
import TableCatalog.Proofs.LastingRecords
import TableCatalog.Proofs.CascadingDrops
import TableCatalog.Proofs.PartitionTuples
import TableCatalog.Proofs.ContentsOrigins
import TableCatalog.Proofs.ListingLoops
import TableCatalog.Proofs.Listings
import TableCatalog.Proofs.ContentsPlaces
import TableCatalog.Proofs.IndependentOperations
import TableCatalog.Proofs.ContentsFilled
import TableCatalog.Proofs.RemoteCalls
import TableCatalog.Proofs.LocationFilling
import TableCatalog.Proofs.UnaryCalls
import TableCatalog.Proofs.WholeListings
import TableCatalog.Proofs.LiveTables
import TableCatalog.Proofs.DropStreams
import TableCatalog.Proofs.BatchDrops
import TableCatalog.Proofs.PartitionListings
import TableCatalog.Proofs.AddStreams
import TableCatalog.Proofs.RecordLeaves
import TableCatalog.Proofs.ProjectedLeaves
import TableCatalog.Proofs.ProjectionOrder
import TableCatalog.Proofs.AlteredRecords
import TableCatalog.Proofs.WireContinuation
import TableCatalog.Proofs.WireUnknownFields
import TableCatalog.Proofs.NumeralDigits
import TableCatalog.Proofs.JsonText
import TableCatalog.Proofs.JsonRecords
import TableCatalog.Proofs.TomlText
import TableCatalog.Proofs.SavedConfig
import TableCatalog.Proofs.ClientFilters
import TableCatalog.Proofs.IdentifierOrder
import TableCatalog.Proofs.AddressText
import TableCatalog.Proofs.CommandFrames
import TableCatalog.Proofs.HostSettings
import TableCatalog.Proofs.ListeningHosts
