import SelectBuilder.Session
import SelectBuilder.Schema.Sample
import SelectBuilder.Schema.Inspection
import SelectBuilder.Proofs.FromPlan.Scope
import SelectBuilder.Proofs.Filter.Meaning
import SelectBuilder.Proofs.Session.Coherence
import SelectBuilder.Proofs.Filter.Pruning
import SelectBuilder.Proofs.Query.TableRemoval
import SelectBuilder.Proofs.Filter.Height
import SelectBuilder.Proofs.Filter.Ids
import SelectBuilder.Proofs.Query.Alias
import SelectBuilder.Proofs.Query.Reading
import SelectBuilder.Proofs.Session.Ids
import SelectBuilder.Proofs.Query.Evolution
import SelectBuilder.Proofs.Session.Evolution
import SelectBuilder.Proofs.Session.Loading
import SelectBuilder.Proofs.Literal.Lexing
import SelectBuilder.Proofs.Literal.NumberText
import SelectBuilder.Proofs.Literal.Containment
import SelectBuilder.Proofs.Number.Shortest
import SelectBuilder.Proofs.Number.Written
import SelectBuilder.Proofs.Number.Precision
import SelectBuilder.Proofs.FromPlan.Joins
import SelectBuilder.Proofs.Filter.Commuting
import SelectBuilder.Proofs.Query.Commuting
import SelectBuilder.Proofs.Filter.Undoing
import SelectBuilder.Proofs.Query.Undoing
import SelectBuilder.Proofs.Statement.Spelling
import SelectBuilder.Proofs.Statement.Grammar
import SelectBuilder.Proofs.Filter.Rearranging
import SelectBuilder.Proofs.FromPlan.Rearranging
import SelectBuilder.Proofs.Query.Rearranging
import SelectBuilder.Proofs.Statement.Values
import SelectBuilder.Proofs.Statement.Failure
import SelectBuilder.Proofs.Name.Reading
import SelectBuilder.Proofs.Filter.Survival
import SelectBuilder.Proofs.Filter.Nesting
import SelectBuilder.Proofs.FromPlan.Direction
import SelectBuilder.Proofs.Session.Saving
import SelectBuilder.Proofs.Filter.Locality
import SelectBuilder.Proofs.Session.Refusal
import SelectBuilder.Proofs.Statement.Lists
import SelectBuilder.Proofs.Literal.Numeric
import SelectBuilder.Proofs.Query.Moving
import SelectBuilder.Proofs.Session.Tables
import SelectBuilder.Proofs.Number.Value
import SelectBuilder.Proofs.Query.Patch
import SelectBuilder.Proofs.Query.Updates
import SelectBuilder.Proofs.Filter.Traversal
import SelectBuilder.Proofs.Text.LetterCase
import SelectBuilder.Proofs.Schema.Declaration
import SelectBuilder.Proofs.Value.Sameness
import SelectBuilder.Proofs.Schema.Registry
import SelectBuilder.Proofs.Statement.Failure
