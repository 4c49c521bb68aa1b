import Ancestry.Relation.Buffer
import Ancestry.Report.Kernel
import Ancestry.Supervisor.Daemon
import Ancestry.Settings.Loading
import Ancestry.Main
import Ancestry.Proofs.Numeral
import Ancestry.Proofs.Splitting
import Ancestry.Proofs.Grammar
import Ancestry.Proofs.Utf8RoundTrip
import Ancestry.Proofs.Encoding
import Ancestry.Proofs.LogLines
import Ancestry.Proofs.LogReplay
import Ancestry.Proofs.Delivery
import Ancestry.Proofs.CallHistory
import Ancestry.Proofs.SinkEffects
import Ancestry.Proofs.LinePieces
import Ancestry.Proofs.OnePayload
import Ancestry.Proofs.Transparency
import Ancestry.Proofs.ChannelAgreement
import Ancestry.Proofs.LegibleLines
import Ancestry.Proofs.TrackerHistory
import Ancestry.Proofs.SearchTurns
import Ancestry.Proofs.Preorder
import Ancestry.Proofs.ArrivalOrder
import Ancestry.Proofs.Adoption
import Ancestry.Proofs.TornLines
import Ancestry.Proofs.BadLines
import Ancestry.Proofs.LineByLine
import Ancestry.Proofs.IndependentSinks
import Ancestry.Proofs.ReportMoments
import Ancestry.Proofs.AppendOnly
import Ancestry.Proofs.Places
import Ancestry.Proofs.Installing
import Ancestry.Proofs.OneEntry
import Ancestry.Proofs.BoundedReading
import Ancestry.Proofs.LongMessages
import Ancestry.Proofs.ListenerLife
import Ancestry.Proofs.Binding
import Ancestry.Proofs.SwitchingOn
import Ancestry.Proofs.DaemonRun
import Ancestry.Proofs.JsonReading
import Ancestry.Proofs.TrackerViews
import Ancestry.Proofs.ReplayArguments
import Ancestry.Proofs.ReplayCommand
import Ancestry.Proofs.PiecewiseSending
import Ancestry.Proofs.AddressField
import Ancestry.Proofs.SuppliedVariables
import Ancestry.Proofs.Precedence
import Ancestry.Proofs.PathVariables
import Ancestry.Proofs.BufferHistory
import Ancestry.Proofs.FirstLookup
import Ancestry.Proofs.NestedErrno
