import JavacLaunch.Host.Directory
import JavacLaunch.Main
import JavacLaunch.Proofs.Given
import JavacLaunch.Text.Utf8.Lemmas
import JavacLaunch.Proofs.Grammar
import JavacLaunch.Proofs.DryRun
import JavacLaunch.Proofs.PassedOn
import JavacLaunch.Proofs.MergedFlags
import JavacLaunch.Proofs.Severity
import JavacLaunch.Proofs.Delivery
import JavacLaunch.Proofs.VersionLine
import JavacLaunch.Proofs.Forms
import JavacLaunch.Proofs.Stages
import JavacLaunch.Proofs.Decoding
import JavacLaunch.Proofs.Noise
import JavacLaunch.Proofs.Streams
import JavacLaunch.Proofs.RoundTrip
import JavacLaunch.Proofs.OrderedUnion
import JavacLaunch.Proofs.Relocation
import JavacLaunch.Proofs.Spelling
import JavacLaunch.Proofs.Settled
import JavacLaunch.Proofs.Interleaving
import JavacLaunch.Proofs.PluginArgument
import JavacLaunch.Proofs.Faults
import JavacLaunch.Proofs.TextReport
import JavacLaunch.Proofs.JsonReport
