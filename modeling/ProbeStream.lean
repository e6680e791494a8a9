import ProbeStream.Elf.Layout
import ProbeStream.Kernel.Scripted
import ProbeStream.Main
import ProbeStream.Output.Lines
import ProbeStream.Proofs.Bpf.AllOrNothing
import ProbeStream.Proofs.Bpf.Definitions
import ProbeStream.Proofs.Elf.RoundTrip
import ProbeStream.Proofs.Elf.Sections
import ProbeStream.Proofs.Event.Octets
import ProbeStream.Proofs.Load.Answers
import ProbeStream.Proofs.Load.License
import ProbeStream.Proofs.Load.Names
import ProbeStream.Proofs.Load.Once
import ProbeStream.Proofs.Load.Passes
import ProbeStream.Proofs.Load.Probes
import ProbeStream.Proofs.Load.References
import ProbeStream.Proofs.Load.Refusals
import ProbeStream.Proofs.Load.Renumbering
import ProbeStream.Proofs.Load.Resolution
import ProbeStream.Proofs.Load.Tables
import ProbeStream.Proofs.Net.Address
import ProbeStream.Proofs.Output.JsonLines
import ProbeStream.Proofs.Output.Lines
import ProbeStream.Proofs.Output.TextLines
import ProbeStream.Proofs.Perf.CpuList
import ProbeStream.Proofs.Ring.Delivery
import ProbeStream.Proofs.Ring.Opening
import ProbeStream.Proofs.Ring.Records
import ProbeStream.Proofs.Ring.Sizes
import ProbeStream.Proofs.Stream.Canary
import ProbeStream.Proofs.Stream.Chains
import ProbeStream.Proofs.Stream.Cut
import ProbeStream.Proofs.Stream.Maxima
import ProbeStream.Proofs.Stream.Merge
import ProbeStream.Proofs.Stream.Turns
import ProbeStream.Proofs.Stream.Writing
import ProbeStream.Proofs.System.Calls
import ProbeStream.Proofs.System.Submitting
import ProbeStream.Proofs.Text.JsonReader
import ProbeStream.Proofs.Text.Lossy
import ProbeStream.Proofs.Text.Utf8
import ProbeStream.Proofs.Words
import ProbeStream.System.Scripted
