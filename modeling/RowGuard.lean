import RowGuard.Text.Blank
import RowGuard.Text.Case
import RowGuard.Text.Split
import RowGuard.Text.Quoted
import RowGuard.Number.Integer
import RowGuard.Number.Shortest
import RowGuard.Collection.Table
import RowGuard.Collection.OrderedSet
import RowGuard.Json.Basic
import RowGuard.Json.Render
import RowGuard.Json.Document
import RowGuard.Json.Numeral
import RowGuard.Json.Reader
import RowGuard.Json.Decode
import RowGuard.Error
import RowGuard.Identity.Id
import RowGuard.Identity.DataScope
import RowGuard.Identity.User
import RowGuard.Identity.Tenant
import RowGuard.Sql.Combine
import RowGuard.Sql.Eval
import RowGuard.Sql.Codec
import RowGuard.Access.Descriptor
import RowGuard.Access.Resolution
import RowGuard.Time.Reader
import RowGuard.Access.Claims
import RowGuard.Access.Token
import RowGuard.Access.Provider
import RowGuard.Tenancy.Config
import RowGuard.Tenancy.Line
import RowGuard.Statement
import RowGuard.Interceptor
import RowGuard.Context.Task
import RowGuard.DataSource.MySql
import RowGuard.DataSource.Environment
import RowGuard.Script.Run
import RowGuard.Http.App
import RowGuard.LogConfig
import RowGuard.Proofs.Interception.Separation
import RowGuard.Proofs.Access.Grants
import RowGuard.Proofs.Interception.Injection
import RowGuard.Proofs.Sql.Faithfulness
import RowGuard.Proofs.Context.Selections
import RowGuard.Proofs.Script.Handover
import RowGuard.Proofs.Script.Allowance
import RowGuard.Proofs.DataSource.Router
import RowGuard.Proofs.DataSource.Routing
import RowGuard.Proofs.DataSource.Provenance
import RowGuard.Proofs.Access.Claims
import RowGuard.Proofs.DataSource.Registration
import RowGuard.Proofs.Http.Gates
import RowGuard.Proofs.Http.SuperTenant
import RowGuard.Proofs.Http.Independence
import RowGuard.Proofs.Script.Routing
import RowGuard.Proofs.Interception.Effect
import RowGuard.Proofs.Interception.Repetition
import RowGuard.Proofs.Interception.Inserts
import RowGuard.Proofs.Json.Decoding
import RowGuard.Proofs.Json.Order
import RowGuard.Proofs.Sql.Codec
import RowGuard.Proofs.Sql.Representation
import RowGuard.Proofs.Statement.Codec
import RowGuard.Proofs.Number.Spelling
import RowGuard.Proofs.DataSource.Ownership
import RowGuard.Proofs.Http.Pinning
import RowGuard.Proofs.Sql.Unknown
import RowGuard.Proofs.Access.Resolution
import RowGuard.Proofs.Sql.Literal
import RowGuard.Proofs.Access.Growth
import RowGuard.Proofs.Sql.Membership
import RowGuard.Proofs.Sql.Combination
import RowGuard.Proofs.Sql.Reordering
import RowGuard.Proofs.Tenancy.TableName
import RowGuard.Proofs.Access.Roles
import RowGuard.Proofs.Access.Identity
import RowGuard.Proofs.Access.Ancestors
import RowGuard.Proofs.DataSource.Views
