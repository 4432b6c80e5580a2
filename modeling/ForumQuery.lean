import ForumQuery.Session
import ForumQuery.Directory
import ForumQuery.Directory.Permissions
import ForumQuery.Sql.Draft
import ForumQuery.Sql.Semantics
import ForumQuery.Json.Filter
import ForumQuery.Settings.Store
import ForumQuery.Proofs.Alone
import ForumQuery.Proofs.Answers
import ForumQuery.Proofs.Complement
import ForumQuery.Proofs.Composition
import ForumQuery.Proofs.Descent
import ForumQuery.Proofs.Exchange
import ForumQuery.Proofs.Inertness
import ForumQuery.Proofs.Invariants
import ForumQuery.Proofs.Layout
import ForumQuery.Proofs.Lookups
import ForumQuery.Proofs.Matching
import ForumQuery.Proofs.Names
import ForumQuery.Proofs.Narrowing
import ForumQuery.Proofs.Parts
import ForumQuery.Proofs.Questions
import ForumQuery.Proofs.Rights
import ForumQuery.Proofs.Rows
import ForumQuery.Proofs.Statuses
import ForumQuery.Proofs.Substance
import ForumQuery.Proofs.Uses
import ForumQuery.Proofs.ValueLists
import ForumQuery.Proofs.Directory.Addresses
import ForumQuery.Proofs.Directory.Alike
import ForumQuery.Proofs.Directory.Casing
import ForumQuery.Proofs.Directory.Groups
import ForumQuery.Proofs.Directory.Hidden
import ForumQuery.Proofs.Directory.Merging
import ForumQuery.Proofs.Directory.Slugs
import ForumQuery.Proofs.Json.Filters
import ForumQuery.Proofs.Settings.Loading
import ForumQuery.Proofs.Sql.Brackets
import ForumQuery.Proofs.Sql.Conjunction
import ForumQuery.Proofs.Sql.Lowering
import ForumQuery.Proofs.Sql.Moves
import ForumQuery.Proofs.Sql.Sessions
import ForumQuery.Proofs.Sql.Shapes
import ForumQuery.Proofs.Sql.Splitting
import ForumQuery.Proofs.Sql.Writers
