import InvCtrl.Interaction
import InvCtrl.ByteMemory
import InvCtrl.PackedBits
import InvCtrl.Tee
import InvCtrl.Coil
import InvCtrl.CoilUpdates
import InvCtrl.TrustedApp
import InvCtrl.Signing
import InvCtrl.Commands
import InvCtrl.Execution
import InvCtrl.Register
import InvCtrl.Ideal
import InvCtrl.Message
import InvCtrl.StorageFailure
import InvCtrl.Boundary
import InvCtrl.Host
import InvCtrl.ClientCalls
import InvCtrl.Delivery
import InvCtrl.EndToEnd
import InvCtrl.Residue
import InvCtrl.ReadYourWrites
import InvCtrl.Network
import InvCtrl.Agreement
import InvCtrl.Freshness
import InvCtrl.Attestation
import InvCtrl.Outcomes
import InvCtrl.Verification
import InvCtrl.SignatureBuffer
import InvCtrl.ReadIntegrity
import InvCtrl.HandleUse
import InvCtrl.HandleLeak
import InvCtrl.Parameters
import InvCtrl.Verdicts
import InvCtrl.WireEncoding
import InvCtrl.Concurrency
import InvCtrl.Leftovers
import InvCtrl.Linearizability
import InvCtrl.AccessConflict
import InvCtrl.Interference
import InvCtrl.WaitFreedom
import InvCtrl.Containment
import InvCtrl.Glimpses
import InvCtrl.Observable
import InvCtrl.Noninterference
import InvCtrl.Ledger
import InvCtrl.ClientDiscipline
import InvCtrl.MemorySafety
import InvCtrl.ModbusServer
import InvCtrl.Recovery
import InvCtrl.BulkRead
import InvCtrl.ModbusClient
import InvCtrl.MessageBuffer
