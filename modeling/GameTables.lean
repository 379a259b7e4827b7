import GameTables.FileSystem.Listing
import GameTables.Host.Shell
import GameTables.Main
import GameTables.Proofs.StateReading
import GameTables.Proofs.TableSource.RoundTrip
import GameTables.Proofs.Property.Acceptance
import GameTables.Proofs.Property.Faults
import GameTables.Proofs.Block.Acceptance
import GameTables.Proofs.Block.Faults
import GameTables.Proofs.TableSource.Acceptance
import GameTables.Proofs.Protocol.Acceptance
import GameTables.Proofs.FileSystem.Writing
import GameTables.Proofs.TableSource.File
import GameTables.Proofs.Gate.Observed
import GameTables.Proofs.Gate.Steps
import GameTables.Proofs.Gate.Run
import GameTables.Proofs.Gate.Interleaving
import GameTables.Proofs.Gate.Retry
import GameTables.Proofs.Gate.Unreadable
import GameTables.Proofs.Gate.SentinelNames
import GameTables.Proofs.Gate.Arguments
import GameTables.Proofs.Protocol.Written
import GameTables.Proofs.PacketSource.Lookups
import GameTables.Proofs.PacketSource.Scopes
import GameTables.Proofs.PacketSource.Recovery
import GameTables.Proofs.PacketSource.Directory
import GameTables.Proofs.Block.Written
import GameTables.Proofs.Property.Typing
import GameTables.Proofs.TableSource.Appending
import GameTables.Proofs.GeneratorName
import GameTables.Proofs.ExitStatus
