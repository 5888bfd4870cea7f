import TrafficMeter.Audience
import TrafficMeter.Cancellation
import TrafficMeter.CommandLine.Arguments
import TrafficMeter.CommandLine.Program
import TrafficMeter.Counter.Choice
import TrafficMeter.Counter.FetchError
import TrafficMeter.Counter.File
import TrafficMeter.Counter.Place
import TrafficMeter.Counter.Snapshot
import TrafficMeter.Counter.Table
import TrafficMeter.Deadline.Fetcher
import TrafficMeter.Deadline.Session
import TrafficMeter.Fault
import TrafficMeter.Listing
import TrafficMeter.Main
import TrafficMeter.Monitor
import TrafficMeter.Number.Binary64
import TrafficMeter.Number.Decimal
import TrafficMeter.Number.Fixed
import TrafficMeter.Number.Numeral
import TrafficMeter.Number.Rounding
import TrafficMeter.Number.Shortest
import TrafficMeter.Poll.Cadence
import TrafficMeter.Poll.Lifecycle
import TrafficMeter.Poll.Loop
import TrafficMeter.Poll.Scheduler
import TrafficMeter.Proofs.Deadline.OwnReply
import TrafficMeter.Proofs.Deadline.Transition
import TrafficMeter.Proofs.Poll.Interruption
import TrafficMeter.Proofs.Poll.Timetable
import TrafficMeter.Proofs.Rate.Baseline
import TrafficMeter.Proofs.Service.Advance
import TrafficMeter.Rate.Line
import TrafficMeter.Rate.Meter
import TrafficMeter.Rate.Units
import TrafficMeter.Report
import TrafficMeter.Sample.Ring
import TrafficMeter.Sample.Statistics
import TrafficMeter.Service
import TrafficMeter.Settings
import TrafficMeter.Span
import TrafficMeter.Spike.Detector
import TrafficMeter.Spike.Filter
import TrafficMeter.Text.Json
import TrafficMeter.Text.Quoted
import TrafficMeter.Text.Shown
import TrafficMeter.Text.Split
import TrafficMeter.Proofs.Service.Gap
import TrafficMeter.Proofs.Audience.Delivery
import TrafficMeter.Proofs.Deadline.Backlog
import TrafficMeter.Proofs.Poll.Endings
import TrafficMeter.Proofs.Rate.Wraparound
import TrafficMeter.Proofs.Poll.Lifetime
import TrafficMeter.Proofs.Rate.Filtering
import TrafficMeter.Proofs.Rate.Separation
import TrafficMeter.Proofs.Service.Disconnection
import TrafficMeter.Proofs.Sample.Latest
import TrafficMeter.Proofs.Spike.Answers
import TrafficMeter.Proofs.Number.Parts
import TrafficMeter.Proofs.Number.Reach
import TrafficMeter.Proofs.Number.Arithmetic
import TrafficMeter.Proofs.Number.Order
import TrafficMeter.Proofs.Number.Zeros
import TrafficMeter.Proofs.Sample.Constant
import TrafficMeter.Proofs.Spike.Steady
import TrafficMeter.Proofs.Spike.Sustained
import TrafficMeter.Proofs.Poll.Cadence
import TrafficMeter.Proofs.Spike.Forgetting
import TrafficMeter.Proofs.Spike.Passing
import TrafficMeter.Proofs.Rate.Traffic
import TrafficMeter.Proofs.Number.Reading
import TrafficMeter.Proofs.Text.Pieces
import TrafficMeter.Proofs.Counter.Grammar
import TrafficMeter.Proofs.Counter.Layout
import TrafficMeter.Proofs.Counter.Readers
import TrafficMeter.Proofs.Settings.Validation
import TrafficMeter.Proofs.Monitor.Refusal
import TrafficMeter.Proofs.Monitor.Lines
import TrafficMeter.Proofs.Service.Polls
import TrafficMeter.Proofs.Service.Overflow
import TrafficMeter.Proofs.Audience.Registration
import TrafficMeter.Proofs.Text.Json
import TrafficMeter.Proofs.Rate.Decoding
import TrafficMeter.Proofs.Number.Exact
import TrafficMeter.Proofs.Settings.Seconds
import TrafficMeter.Proofs.Number.Nearest
import TrafficMeter.Proofs.Rate.Exactness
import TrafficMeter.Proofs.Deadline.Breakdown
import TrafficMeter.Proofs.Cancellation.Tokens
import TrafficMeter.Proofs.Number.Places
import TrafficMeter.Proofs.Rate.Units
import TrafficMeter.Proofs.Text.Indented
import TrafficMeter.Proofs.Listing.Reading
import TrafficMeter.Proofs.Listing.Formats
import TrafficMeter.Proofs.Report.Chain
