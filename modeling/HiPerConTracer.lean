import HiPerConTracer.Importer.FastSlow
import HiPerConTracer.Importer.WakeUp
import HiPerConTracer.Importer.Removal
import HiPerConTracer.Importer.Rollback
import HiPerConTracer.Service.RoundChecksums
import HiPerConTracer.Service.Windows
import HiPerConTracer.Service.PrematureTimeout
import HiPerConTracer.Service.PathHash
import HiPerConTracer.Service.Trigger
import HiPerConTracer.Results.Bookkeeping
import HiPerConTracer.Results.OwnLines
import HiPerConTracer.Results.Tokenisers
import HiPerConTracer.Importer.PostgreSQL
import HiPerConTracer.Importer.WorkerCalls
import HiPerConTracer.Importer.Queues
import HiPerConTracer.Importer.Fetching
import HiPerConTracer.Query.Selection
import HiPerConTracer.Query.Exports
import HiPerConTracer.Query.Deduplication
import HiPerConTracer.Merge.Collisions
import HiPerConTracer.Writer.ResultsWriter
import HiPerConTracer.Echo.UDPEchoServer
import HiPerConTracer.Wire.UDPChecksum
import HiPerConTracer.Service.Responses
import HiPerConTracer.Service.TimeStamps
import HiPerConTracer.Service.Timestamping
import HiPerConTracer.Service.SequenceNumbers
import HiPerConTracer.Importer.FileNames
import HiPerConTracer.Wire.RFC1071
import HiPerConTracer.Service.Jitter
import HiPerConTracer.Importer.SubDirectories
import HiPerConTracer.Net.Sources
import HiPerConTracer.Service.TriggerPings
import HiPerConTracer.Lib.ByteMasks
import HiPerConTracer.Wire.HeaderFields
import HiPerConTracer.Wire.IPHeaderFields
import HiPerConTracer.Importer.Moving
import HiPerConTracer.Lib.BigEndian
import HiPerConTracer.Lib.Reads
import HiPerConTracer.Wire.Forms
import HiPerConTracer.Wire.Views
import HiPerConTracer.Service.Answers
import HiPerConTracer.Service.PingResults
import HiPerConTracer.Service.Progress
import HiPerConTracer.Lib.Grouping
import HiPerConTracer.Query.ReadBack
import HiPerConTracer.Query.RoundTrip
import HiPerConTracer.Query.WrittenResults
