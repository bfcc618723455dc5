import VpnFleet.Main
import VpnFleet.Text.Utf8
import VpnFleet.Proofs.Inventory.Identity
import VpnFleet.Proofs.Inventory.Ownership
import VpnFleet.Proofs.Session.Epoch
import VpnFleet.Proofs.Session.Exclusion
import VpnFleet.Proofs.History
import VpnFleet.Proofs.Traffic.Operations
import VpnFleet.Proofs.Traffic.Run
import VpnFleet.Proofs.Traffic.Phases
import VpnFleet.Proofs.Traffic.Activation
import VpnFleet.Proofs.Traffic.Provenance
import VpnFleet.Proofs.Traffic.Accounting
import VpnFleet.Proofs.Inventory.Moves
import VpnFleet.Proofs.Session.Moves
import VpnFleet.Proofs.Client.Moves
import VpnFleet.Proofs.Client.Run
import VpnFleet.Proofs.Client.Agreement
import VpnFleet.Proofs.Inventory.Listings
import VpnFleet.Proofs.Inventory.Refresh
import VpnFleet.Proofs.Client.Bystanders
import VpnFleet.Proofs.Client.Following
import VpnFleet.Proofs.Client.Unaided
import VpnFleet.Proofs.Client.Aftermath
import VpnFleet.Proofs.Published
import VpnFleet.Proofs.Inventory.Revision
import VpnFleet.Proofs.Inventory.InFlight
import VpnFleet.Proofs.Client.Termination
import VpnFleet.Proofs.Parts
import VpnFleet.Proofs.Client.Publishing
import VpnFleet.Proofs.Client.Shutdown
import VpnFleet.Proofs.Inventory.Order
import VpnFleet.Proofs.Client.Placeholders
import VpnFleet.Proofs.Client.Calls
import VpnFleet.Proofs.Client.Account
import VpnFleet.Proofs.Client.Execution
import VpnFleet.Proofs.Client.Meddling
import VpnFleet.Proofs.Client.Direct
import VpnFleet.Proofs.Cli.Errands
import VpnFleet.Proofs.Helper.Run
import VpnFleet.Proofs.Helper.Feeds
import VpnFleet.Proofs.Helper.Delivery
import VpnFleet.Proofs.Helper.Registry
import VpnFleet.Proofs.Helper.Secrecy
import VpnFleet.Proofs.Session.Closing
import VpnFleet.Proofs.Inventory.Overlap
import VpnFleet.Proofs.Inventory.Settlement
import VpnFleet.Proofs.Inventory.Commutation
import VpnFleet.Proofs.Client.Rejections
import VpnFleet.Proofs.Client.Regions
import VpnFleet.Proofs.Client.Connections
import VpnFleet.Proofs.Session.Resolution
import VpnFleet.Proofs.Catalog.Grouping
import VpnFleet.Proofs.Catalog.Loading
import VpnFleet.Proofs.Client.Reports
import VpnFleet.Proofs.Client.Bootstrap
import VpnFleet.Proofs.Notice
import VpnFleet.Proofs.Json.Grammar
import VpnFleet.Proofs.Json.Reading
import VpnFleet.Proofs.Json.Record
import VpnFleet.Proofs.Helper.Payload
import VpnFleet.Proofs.Helper.Decoding
