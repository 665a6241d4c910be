import LinkTap.Main
import LinkTap.Metrics.Process
import LinkTap.Kernel.PacketSource
import LinkTap.Proofs.Frame.Grammar
import LinkTap.Proofs.Frame.Lossless
import LinkTap.Proofs.Frame.Truncation
import LinkTap.Proofs.Frame.Wire
import LinkTap.Proofs.Gauge
import LinkTap.Proofs.Kernel.Negotiation
import LinkTap.Proofs.Kernel.Resources
import LinkTap.Proofs.MacAddress
import LinkTap.Proofs.Memory
import LinkTap.Proofs.Ring.Bounds
import LinkTap.Proofs.Ring.Handover
import LinkTap.Proofs.Ring.Layout
import LinkTap.Proofs.Ring.Records
import LinkTap.Proofs.Ring.Visits
import LinkTap.Proofs.Ring.Writer
import LinkTap.Proofs.Session.Accounting
import LinkTap.Proofs.Session.Acts
import LinkTap.Proofs.Session.Atomicity
import LinkTap.Proofs.Session.Consumption
import LinkTap.Proofs.Session.Drops
import LinkTap.Proofs.Session.FinalReport
import LinkTap.Proofs.Session.Isolation
import LinkTap.Proofs.Session.Reports
import LinkTap.Proofs.Session.Resolution
import LinkTap.Proofs.Session.Round
import LinkTap.Proofs.Session.Selection
import LinkTap.Proofs.Session.Sizing
import LinkTap.Proofs.Session.Target
import LinkTap.Proofs.Session.Utilization
