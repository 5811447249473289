import BaseLib.Machine
import BaseLib.Win.EnumVariant
import BaseLib.Win.EnumVariantBounds
import BaseLib.Win.EnumVariantCursor
import BaseLib.Metrics.HistogramBase
import BaseLib.Metrics.HistogramFlags
import BaseLib.Metrics.HistogramOutput
import BaseLib.Metrics.PermanentNames
import BaseLib.TraceEvent.ProcessMemoryDump
import BaseLib.TraceEvent.OwnershipEdges
import BaseLib.TraceEvent.WellFormed
import BaseLib.TraceEvent.SharedGlobalDumps
import BaseLib.TraceEvent.TakeAllDumps
import BaseLib.TraceEvent.ResidentBytes
import BaseLib.TraceEvent.Serialization
import BaseLib.TraceEvent.DumpMap
import BaseLib.I18n.IcuUtil
import BaseLib.I18n.CalledOnce
import BaseLib.Process.Kill
import BaseLib.Strings.UtfStringConversionUtils
