import SchemaMigration.Catalog.Contents
import SchemaMigration.Change.Json
import SchemaMigration.Dialect.Registry
import SchemaMigration.History.Memory
import SchemaMigration.History.Run
import SchemaMigration.Proofs.Catalog.Sequences
import SchemaMigration.Proofs.Dependency.Order
import SchemaMigration.Proofs.Dependency.Stages
import SchemaMigration.Proofs.History.Preview
import SchemaMigration.Proofs.History.Reversal
import SchemaMigration.Proofs.Text.Decimal
import SchemaMigration.Proofs.Sql.Layout
import SchemaMigration.Proofs.Sql.Statement
import SchemaMigration.Proofs.Ddl.Rendering
import SchemaMigration.Proofs.Ddl.Literal
import SchemaMigration.Proofs.Ddl.Embedding
import SchemaMigration.Proofs.Ddl.Legibility
import SchemaMigration.Proofs.Catalog.RowOrder
import SchemaMigration.Proofs.Catalog.Rendering
import SchemaMigration.Proofs.Catalog.Closure
import SchemaMigration.Proofs.Catalog.Flattening
import SchemaMigration.Proofs.Change.Json
import SchemaMigration.Proofs.Dialect.Registry
import SchemaMigration.Proofs.History.Splitting
import SchemaMigration.Proofs.History.Record
import SchemaMigration.Proofs.History.Refusal
import SchemaMigration.Proofs.History.Status
import SchemaMigration.Proofs.Dependency.Ties
import SchemaMigration.Proofs.Catalog.PrimaryKey
import SchemaMigration.Proofs.Sql.CleanStatement
import SchemaMigration.Proofs.Sql.FinalSemicolon
import SchemaMigration.Proofs.Catalog.SequenceSpelling
import SchemaMigration.Proofs.Catalog.LiteralDefault
import SchemaMigration.Proofs.Catalog.OuterParentheses
import SchemaMigration.Proofs.Catalog.ColumnRow
import SchemaMigration.Proofs.Dialect.Detection
import SchemaMigration.Proofs.Catalog.SerialColumn
import SchemaMigration.Proofs.History.Bookkeeping
