import Descent.Script.Session
import Descent.Script.Comparison
import Descent.Proofs.Safety
import Descent.Proofs.Termination
import Descent.Proofs.Peg.Adequacy
import Descent.Proofs.Commitment
import Descent.Proofs.Quiet
import Descent.Proofs.Rewording
import Descent.Proofs.Quoting
import Descent.Proofs.Numeral
import Descent.Proofs.Words
import Descent.Proofs.Partition
import Descent.Proofs.Excerpt
import Descent.Proofs.Quotation
import Descent.Proofs.Choice
import Descent.Proofs.Unrolling
import Descent.Proofs.Alternation
import Descent.Proofs.Continuation
import Descent.Proofs.Spelling
import Descent.Proofs.Places
import Descent.Proofs.Stopping
import Descent.Proofs.Legible
