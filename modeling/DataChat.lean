import DataChat.Audit.Definitions
import DataChat.Audit.Listing
import DataChat.Audit.Sanitising
import DataChat.Auth.Accounts
import DataChat.Auth.Bootstrap
import DataChat.Auth.Definitions
import DataChat.Auth.Protocol
import DataChat.Auth.Recovery
import DataChat.Auth.Tokens
import DataChat.Chat.Appending
import DataChat.Chat.Definitions
import DataChat.Chat.Exchanges
import DataChat.Chat.ExecutionHistory
import DataChat.Chat.Replay
import DataChat.Chat.Services
import DataChat.Connection.Definitions
import DataChat.Connection.Histories
import DataChat.Connection.Overlap
import DataChat.Connection.Synchronisation
import DataChat.Core.PyValue
import DataChat.Documents.BestMatches
import DataChat.Documents.ChunkCount
import DataChat.Documents.Chunker
import DataChat.Documents.Decoding
import DataChat.Documents.Definitions
import DataChat.Documents.Embedding
import DataChat.Documents.Extraction
import DataChat.Documents.Formats
import DataChat.Documents.Processing
import DataChat.Documents.Progress
import DataChat.Documents.Retrieval
import DataChat.Documents.Splitting
import DataChat.Documents.UploadObjects
import DataChat.Documents.Uploads
import DataChat.Documents.WordSections
import DataChat.Effective.Definitions
import DataChat.Effective.Enforcement
import DataChat.Effective.Exposure
import DataChat.Effective.Grants
import DataChat.Effective.Merge
import DataChat.Effective.Resynchronisation
import DataChat.Effective.RowOrder
import DataChat.Executor.Cells
import DataChat.Executor.Concealment
import DataChat.Executor.Definitions
import DataChat.Executor.Masking
import DataChat.Executor.ResultSize
import DataChat.Executor.StrictJson
import DataChat.Library.Csv
import DataChat.Library.GetOrCreate
import DataChat.Library.Groups
import DataChat.Library.Levels
import DataChat.Library.Logs
import DataChat.Library.OrderBy
import DataChat.Library.Precedence
import DataChat.Library.Relational
import DataChat.Library.Session
import DataChat.Library.ThreeValued
import DataChat.Library.Updates
import DataChat.Library.Windows
import DataChat.Library.WriteBack
import DataChat.Listing.Definitions
import DataChat.Listing.Discovered
import DataChat.Listing.Runs
import DataChat.Platform.CacheSession
import DataChat.Platform.Consistency
import DataChat.Platform.Definitions
import DataChat.Platform.DiscoveredKeys
import DataChat.Platform.Discovery
import DataChat.Platform.Frames
import DataChat.Platform.Metadata
import DataChat.Platform.Mirror
import DataChat.Platform.Ownership
import DataChat.Platform.Permissions
import DataChat.Platform.Reachability
import DataChat.Platform.Requests
import DataChat.Platform.Selections
import DataChat.Platform.SourceCatalog
import DataChat.RowFilter.Clauses
import DataChat.RowFilter.Conditions
import DataChat.RowFilter.Conjuncts
import DataChat.RowFilter.Coverage
import DataChat.RowFilter.Definitions
import DataChat.RowFilter.Injection
import DataChat.RowFilter.Meaning
import DataChat.RowFilter.Placement
import DataChat.RowFilter.Rules
import DataChat.Security.Agreement
import DataChat.Security.Definitions
import DataChat.Security.Evidence
import DataChat.Security.GrantedColumns
import DataChat.Security.SearchPath
import DataChat.Security.Stages
import DataChat.Sql.Lineage
import DataChat.Tenants.Definitions
import DataChat.Tenants.Noninterference
import DataChat.Tenants.Reading
import DataChat.Tenants.Schemas
import DataChat.Validator.Completeness
import DataChat.Validator.Narrowing
import DataChat.Validator.ReadOnly
import DataChat.Validator.RowLimit
import DataChat.Validator.UsageFlags
import DataChat.Workspace.Definitions
import DataChat.Workspace.Isolation
import DataChat.Workspace.Pipeline
import DataChat.Workspace.Processing
import DataChat.Workspace.Readers
import DataChat.Workspace.Sources
