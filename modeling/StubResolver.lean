import StubResolver.Interchange.Message
import StubResolver.Interchange.Settings
import StubResolver.Main
import StubResolver.Proofs.Cache.Expiry
import StubResolver.Proofs.Config
import StubResolver.Proofs.Label.Text
import StubResolver.Proofs.Message.Cursor
import StubResolver.Proofs.Message.Edns
import StubResolver.Proofs.Message.Failures
import StubResolver.Proofs.Message.Framing
import StubResolver.Proofs.Message.NormalForm
import StubResolver.Proofs.Message.Prefix
import StubResolver.Proofs.Message.Sizes
import StubResolver.Proofs.Name.Dotted
import StubResolver.Proofs.Name.Forms
import StubResolver.Proofs.Name.Hierarchy
import StubResolver.Proofs.Name.Order
import StubResolver.Proofs.Name.ReadBack
import StubResolver.Proofs.Name.Spelling
import StubResolver.Proofs.Name.Text
import StubResolver.Proofs.RData.Layout
import StubResolver.Proofs.RData.Presentation
import StubResolver.Proofs.RecordType
import StubResolver.Proofs.Resolver.Counting
import StubResolver.Proofs.Resolver.Discovery
import StubResolver.Proofs.Resolver.Intact
import StubResolver.Proofs.Utf8
