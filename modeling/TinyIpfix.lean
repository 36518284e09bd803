import TinyIpfix.Processes
import TinyIpfix.System
import TinyIpfix.Lib.Window
import TinyIpfix.Proofs.HeaderCodec
import TinyIpfix.Proofs.MsgAggrRun
import TinyIpfix.Proofs.MsgAggrSafety
import TinyIpfix.Proofs.TemplateCodec
import TinyIpfix.Proofs.DataCodec
import TinyIpfix.Proofs.LibraryInit
import TinyIpfix.Proofs.LibraryRun
import TinyIpfix.Proofs.SendLength
import TinyIpfix.Lib.Layout
import TinyIpfix.Proofs.TemplateParse
import TinyIpfix.Proofs.MsgAggrTemplate
import TinyIpfix.Proofs.DataAggrCodec
import TinyIpfix.Proofs.DataAggrRun
import TinyIpfix.Proofs.DataAggrExact
import TinyIpfix.Proofs.DataAggrExtract
import TinyIpfix.Proofs.DataAggrWide
import TinyIpfix.Proofs.DataParse
import TinyIpfix.Proofs.ReceiverFilter
import TinyIpfix.Proofs.LibrarySafety
import TinyIpfix.Proofs.DataAggrTemplate
import TinyIpfix.Proofs.MsgAggrCapacity
import TinyIpfix.Proofs.SendMemory
import TinyIpfix.Proofs.DataAggrReads
import TinyIpfix.Proofs.TemplateSize
import TinyIpfix.Proofs.Collectors
import TinyIpfix.Proofs.Readings
import TinyIpfix.Proofs.Deployment
import TinyIpfix.Proofs.MsgAggrSystem
import TinyIpfix.Proofs.DataAggrSystem
import TinyIpfix.Proofs.Modes
import TinyIpfix.Proofs.Timing
import TinyIpfix.Proofs.Sensors
import TinyIpfix.Proofs.RoutesPage
import TinyIpfix.Proofs.SlipBridge
