import DbClient.Container.ShapeStore
import DbClient.Session.Identity
import DbClient.Session.Report
import DbClient.Setting.Discovery
import DbClient.Proofs.Geo.RoundTrip
import DbClient.Proofs.Session.Layering
import DbClient.Proofs.Geo.Grammar
import DbClient.Proofs.Container.Updating
import DbClient.Proofs.Container.Documents
import DbClient.Proofs.Container.Routes
import DbClient.Proofs.Container.Sharing
import DbClient.Proofs.Container.PointRule
import DbClient.Proofs.Setting.ValueText
import DbClient.Proofs.Setting.Typing
import DbClient.Proofs.Setting.Assigning
import DbClient.Proofs.Session.Reachable
import DbClient.Proofs.Session.Assembly
import DbClient.Proofs.Session.Reading
import DbClient.Proofs.Session.Properties
import DbClient.Proofs.Session.Overriding
import DbClient.Proofs.Version.Order
import DbClient.Proofs.Setting.Discovering
import DbClient.Proofs.Session.Dependence
import DbClient.Proofs.Setting.Tables
import DbClient.Proofs.Session.Sameness
import DbClient.Proofs.Version.Reading
import DbClient.Proofs.Zone.Reading
import DbClient.Proofs.Zone.Stepwise
import DbClient.Proofs.Zone.Canonical
import DbClient.Proofs.Setting.Scanning
import DbClient.Proofs.Setting.Folding
import DbClient.Proofs.Setting.Writing
import DbClient.Proofs.Session.Searching
import DbClient.Proofs.Setting.Denoting
import DbClient.Proofs.Container.DocumentTree
import DbClient.Proofs.Geo.Indexing
import DbClient.Proofs.Geo.Stopping
import DbClient.Proofs.Geo.FirstOffence
import DbClient.Proofs.Geo.Progress
import DbClient.Proofs.Number.ScaledText
import DbClient.Proofs.Container.Pairing
import DbClient.Proofs.Container.Projecting
import DbClient.Proofs.Session.Cascading
import DbClient.Proofs.Node.Selecting
