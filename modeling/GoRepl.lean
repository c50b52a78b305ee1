import GoRepl.Main
import GoRepl.Proofs.Abandoned
import GoRepl.Proofs.Agreement
import GoRepl.Proofs.Balance
import GoRepl.Proofs.Batches
import GoRepl.Proofs.Calls
import GoRepl.Proofs.Clauses
import GoRepl.Proofs.Consumption
import GoRepl.Proofs.Declarations
import GoRepl.Proofs.Definitions
import GoRepl.Proofs.Emission
import GoRepl.Proofs.Exported
import GoRepl.Proofs.Failure
import GoRepl.Proofs.Importing
import GoRepl.Proofs.Imports
import GoRepl.Proofs.Invisible
import GoRepl.Proofs.Mentions
import GoRepl.Proofs.Operations
import GoRepl.Proofs.Owners
import GoRepl.Proofs.Pending
import GoRepl.Proofs.Refusal
import GoRepl.Proofs.Resolution
import GoRepl.Proofs.Runs
import GoRepl.Proofs.Scripts
import GoRepl.Proofs.Specs
import GoRepl.Proofs.Succession
import GoRepl.Proofs.Templates
import GoRepl.Proofs.Tokens
import GoRepl.Proofs.Undo
import GoRepl.Proofs.Unused
import GoRepl.Rehearsal
