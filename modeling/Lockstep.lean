import Lockstep.Main
import Lockstep.Proofs.Grammar
import Lockstep.Proofs.Verdicts
import Lockstep.Proofs.Directives
import Lockstep.Proofs.Outcomes
import Lockstep.Proofs.Encoding
import Lockstep.Proofs.Marking
import Lockstep.Proofs.SortKeys
import Lockstep.Proofs.Writing
import Lockstep.Proofs.Roundtrip
import Lockstep.Proofs.Concatenation
import Lockstep.Proofs.Closing
import Lockstep.Proofs.SharedRuns
import Lockstep.Proofs.Exclusion
import Lockstep.Proofs.Repositories
import Lockstep.Proofs.Unchanged
import Lockstep.Proofs.Replacement
import Lockstep.Proofs.Matchings
import Lockstep.Proofs.Declarers
import Lockstep.Proofs.Surveys
import Lockstep.Proofs.Recollections
import Lockstep.Proofs.Questions
import Lockstep.Proofs.Stability
import Lockstep.Proofs.Listings
import Lockstep.Proofs.Aborts
import Lockstep.Proofs.FailedReads
import Lockstep.Proofs.Partners
import Lockstep.Proofs.Precedence
import Lockstep.Proofs.Misconfigurations
import Lockstep.Proofs.Deletions
import Lockstep.Proofs.Recognition
import Lockstep.Proofs.Entries
import Lockstep.Proofs.Neighbours
import Lockstep.Proofs.Inventories
import Lockstep.Proofs.Dependents
import Lockstep.Proofs.Edges
