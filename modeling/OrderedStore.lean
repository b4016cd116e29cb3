import OrderedStore.Gateway.Routine
import OrderedStore.Log.Line
import OrderedStore.Main
import OrderedStore.Proofs.Handle.Ledger
import OrderedStore.Proofs.Store.Roster
import OrderedStore.Trial.Effort
import OrderedStore.Trial.Fixture
import OrderedStore.Trial.Model
import OrderedStore.Trial.Stress
import OrderedStore.Proofs.Store.Lease
import OrderedStore.Proofs.Store.Change
import OrderedStore.Proofs.Store.Coherent
import OrderedStore.Proofs.Engine
import OrderedStore.Proofs.Store.Operation
import OrderedStore.Proofs.Store.Chronicle
import OrderedStore.Proofs.Store.Isolation
import OrderedStore.Proofs.Handle.Lookup
import OrderedStore.Proofs.Store.Fault
import OrderedStore.Proofs.Store.Journal
import OrderedStore.Proofs.Gateway.Desk
import OrderedStore.Proofs.Gateway.Orderly
import OrderedStore.Proofs.Gateway.Simulation
import OrderedStore.Proofs.Gateway.Run
import OrderedStore.Proofs.Gateway.Custody
import OrderedStore.Proofs.Gateway.Mirror
import OrderedStore.Proofs.Gateway.Reflection
import OrderedStore.Proofs.Gateway.Observation
import OrderedStore.Proofs.Gateway.Account
import OrderedStore.Proofs.Gateway.Refinement
import OrderedStore.Proofs.Store.Wording
import OrderedStore.Proofs.Batch
import OrderedStore.Proofs.Trial.Model
import OrderedStore.Proofs.Cursor
import OrderedStore.Proofs.Store.Navigation
import OrderedStore.Proofs.Directory
import OrderedStore.Proofs.Removal
import OrderedStore.Proofs.Store.Tenant
import OrderedStore.Proofs.Store.Closing
import OrderedStore.Proofs.Rest
import OrderedStore.Proofs.Store.LifeCycle
import OrderedStore.Proofs.Gateway.LastError
import OrderedStore.Proofs.Gateway.Ownership
import OrderedStore.Proofs.Cli.Refinement
import OrderedStore.Proofs.Store.Release
import OrderedStore.Proofs.Store.Selection
import OrderedStore.Proofs.Gateway.Refusal
import OrderedStore.Proofs.Gateway.Closing
import OrderedStore.Proofs.Scan
import OrderedStore.Proofs.Store.Scanning
import OrderedStore.Proofs.Store.Retention
import OrderedStore.Proofs.Store.Aftermath
import OrderedStore.Proofs.Volume.Intact
import OrderedStore.Proofs.Attempt
import OrderedStore.Proofs.Destruction
import OrderedStore.Proofs.Store.Holding
import OrderedStore.Proofs.Contest
import OrderedStore.Proofs.Cli.Undecodable
import OrderedStore.Proofs.Reading
import OrderedStore.Proofs.Handle.Wear
import OrderedStore.Proofs.Gateway.Placement
import OrderedStore.Proofs.Gateway.Fidelity
import OrderedStore.Proofs.Store.Lending
import OrderedStore.Proofs.Text.Digits
import OrderedStore.Proofs.Store.Contents
import OrderedStore.Proofs.Trial.Stress
import OrderedStore.Proofs.Trial.Fixture
import OrderedStore.Proofs.Gateway.Delivery
