import SceneArchive.Statement.Table
import SceneArchive.FileTree
import SceneArchive.Main
import SceneArchive.Proofs.Store.Invariant
import SceneArchive.Proofs.Store.History
import SceneArchive.Proofs.Calendar
import SceneArchive.Proofs.Store.ReadBack
import SceneArchive.Proofs.Store.Atomicity
import SceneArchive.Proofs.Store.Ingestion
import SceneArchive.Proofs.Text
import SceneArchive.Proofs.Query.Scanning
import SceneArchive.Proofs.Query.Meaning
import SceneArchive.Proofs.Query.WellTyped
import SceneArchive.Proofs.Statement.Truth
import SceneArchive.Proofs.Store.Rows
import SceneArchive.Proofs.Statement.Joins
import SceneArchive.Proofs.Statement.Standard
import SceneArchive.Proofs.Statement.Distinct
import SceneArchive.Proofs.Statement.Limits
import SceneArchive.Proofs.Statement.WellFormed
import SceneArchive.Proofs.DateOrder
import SceneArchive.Proofs.Store.Answers
import SceneArchive.Proofs.Store.Search
import SceneArchive.Proofs.Query.Written
import SceneArchive.Proofs.Query.QuotedValues
import SceneArchive.Proofs.Query.BareValues
import SceneArchive.Proofs.Flatten.Encounters
import SceneArchive.Proofs.Flatten.Kinship
import SceneArchive.Proofs.Flatten.Completeness
import SceneArchive.Proofs.Flatten.Markers
import SceneArchive.Proofs.Store.Membership
import SceneArchive.Proofs.Store.Directories
import SceneArchive.Proofs.Store.Dependents
import SceneArchive.Proofs.Coercion
import SceneArchive.Proofs.Query.Lists
import SceneArchive.Proofs.Query.Grammar
import SceneArchive.Proofs.Query.TypedValues
import SceneArchive.Proofs.Query.Rejection
import SceneArchive.Proofs.Query.Binding
import SceneArchive.Proofs.IntegerCoercion
import SceneArchive.Proofs.Separators
import SceneArchive.Proofs.Schema.Resolution
import SceneArchive.Proofs.Schema.Tables
import SceneArchive.Proofs.Stats.OrderStatistics
import SceneArchive.Proofs.Stats.DistinctIntegers
import SceneArchive.Proofs.Csv.Table
import SceneArchive.Proofs.Toml.WithoutNulls
import SceneArchive.Proofs.Manifest.Tables
