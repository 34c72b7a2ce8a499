import AccountRegistry.Main
import AccountRegistry.Proofs.Config.Outcome
import AccountRegistry.Proofs.Demo.Outcome
import AccountRegistry.Proofs.Race.SingleWinner
import AccountRegistry.Proofs.Store.Authentication
import AccountRegistry.Proofs.Store.Secrecy
import AccountRegistry.Proofs.Race.Schedules
import AccountRegistry.Proofs.Store.Interchange
import AccountRegistry.Proofs.Demo.Discretion
import AccountRegistry.Proofs.Settings.Entries
import AccountRegistry.Proofs.Settings.Order
import AccountRegistry.Proofs.Config.Order
import AccountRegistry.Proofs.Config.Choices
import AccountRegistry.Proofs.Config.Bounds
import AccountRegistry.Proofs.Settings.Origins
import AccountRegistry.Proofs.Config.Agreement
import AccountRegistry.Proofs.Config.Isolation
import AccountRegistry.Proofs.Store.AuditTrail
import AccountRegistry.Proofs.Store.Sessions
import AccountRegistry.Proofs.Text.ByteOrder
import AccountRegistry.Proofs.Store.Usernames
import AccountRegistry.Proofs.Text.Unquoting
import AccountRegistry.Proofs.Demo.Descriptions
import AccountRegistry.Proofs.Config.RoundTrip
import AccountRegistry.Proofs.Config.Wholes
import AccountRegistry.Proofs.Demo.LogReading
