import ListKeeper.Config
import ListKeeper.Crew
import ListKeeper.Http.Description
import ListKeeper.Http.Service
import ListKeeper.Json.Pointer
import ListKeeper.Pipeline
import ListKeeper.Proofs.Bus.Alone
import ListKeeper.Proofs.Bus.Emptying
import ListKeeper.Proofs.Bus.Registered
import ListKeeper.Proofs.Catalogue.Refinement
import ListKeeper.Proofs.Config
import ListKeeper.Proofs.Http.Answers
import ListKeeper.Proofs.Http.Identity
import ListKeeper.Proofs.Isolation.Apart
import ListKeeper.Proofs.Json.Documents
import ListKeeper.Proofs.Moving.Rollback
import ListKeeper.Proofs.Rebuild.Outages
import ListKeeper.Proofs.Remote.Service
import ListKeeper.Proofs.Request.Appended
import ListKeeper.Proofs.Request.Failing
import ListKeeper.Proofs.Request.Stamped
import ListKeeper.Proofs.Session.Conservation
import ListKeeper.Proofs.Shift.Drift
import ListKeeper.Proofs.Store.Ledger
import ListKeeper.Proofs.Store.Shown
import ListKeeper.Proofs.Tidy.Unrest
import ListKeeper.Proofs.Worker.Shutdown
import ListKeeper.Rehearsal.Script
import ListKeeper.Rehearsal.Stage
