import GuidAtlas.CommandLine.Run
import GuidAtlas.Data.Json
import GuidAtlas.Data.JsonText
import GuidAtlas.Data.Toml
import GuidAtlas.ErrorEnum.Expansion
import GuidAtlas.Export.Writer
import GuidAtlas.Logging.Filter
import GuidAtlas.Logging.Logger
import GuidAtlas.Lookup.Registry
import GuidAtlas.Main
import GuidAtlas.Number.Binary64
import GuidAtlas.Proofs.Catalog.Representation
import GuidAtlas.Proofs.Export.LookupRoundTrip
import GuidAtlas.Proofs.Header.Accounting
import GuidAtlas.Proofs.Header.RoundTrip
import GuidAtlas.Scan.Sdk
import GuidAtlas.Settings.Decode
import GuidAtlas.Settings.Layered
import GuidAtlas.Settings.Load
import GuidAtlas.Text.Identifier
import GuidAtlas.Proofs.Catalog.Ambiguity
import GuidAtlas.Proofs.Export.Agreement
import GuidAtlas.Proofs.Text.Spaced
import GuidAtlas.Proofs.Export.Continuation
import GuidAtlas.Proofs.Header.Names
import GuidAtlas.Proofs.Header.Phases
import GuidAtlas.Proofs.Header.Spread
import GuidAtlas.Proofs.Header.WellFormed
import GuidAtlas.Proofs.Scan.Accounting
import GuidAtlas.Proofs.Scan.Lookup
import GuidAtlas.Proofs.Scan.Folders
import GuidAtlas.Proofs.ActivatableClasses.Search
import GuidAtlas.Proofs.ActivatableClasses.Grouping
import GuidAtlas.Proofs.Text.Quoted
import GuidAtlas.Proofs.Export.SourceTable
import GuidAtlas.Proofs.Export.Markup
import GuidAtlas.Proofs.Export.MarkupPages
import GuidAtlas.Proofs.Catalog.Clashes
import GuidAtlas.Proofs.Catalog.Frame
import GuidAtlas.Proofs.Lookup.Sections
import GuidAtlas.Proofs.Lookup.Listing
import GuidAtlas.Proofs.Guid.Fields
import GuidAtlas.Proofs.Header.Namespaces
import GuidAtlas.Proofs.Header.Templates
import GuidAtlas.Proofs.Header.Succession
import GuidAtlas.Proofs.Scan.Encodings
import GuidAtlas.Proofs.Header.Positions.Cursor
import GuidAtlas.Proofs.Header.Positions.Gathering
import GuidAtlas.Proofs.Header.Positions.Parse
import GuidAtlas.Proofs.Header.Projection
import GuidAtlas.Proofs.Header.ReservedNames
import GuidAtlas.Proofs.Export.FileNames
import GuidAtlas.Proofs.CommandLine.Resolution
import GuidAtlas.Proofs.ErrorEnum.Constructions
import GuidAtlas.Proofs.Settings.Environment
