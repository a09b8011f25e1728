import Rulebook.Main
import Rulebook.Proofs.Defaults.Placeholders
import Rulebook.Proofs.Defaults.Quoting
import Rulebook.Proofs.Defaults.Template
import Rulebook.Proofs.Document.Ambiguity
import Rulebook.Proofs.Document.Combinations
import Rulebook.Proofs.Document.Concatenation
import Rulebook.Proofs.Document.Decoding
import Rulebook.Proofs.Document.Expansion
import Rulebook.Proofs.Document.Layout
import Rulebook.Proofs.Document.Outline
import Rulebook.Proofs.Document.Passage
import Rulebook.Proofs.Document.Range
import Rulebook.Proofs.Document.Recovery
import Rulebook.Proofs.Document.RoundTrip
import Rulebook.Proofs.Document.RuleList
import Rulebook.Proofs.Document.Sound
import Rulebook.Proofs.Program.FailSafe
import Rulebook.Proofs.Program.Logging
import Rulebook.Proofs.Program.Options
import Rulebook.Proofs.Run.Alike
import Rulebook.Proofs.Run.Chain
import Rulebook.Proofs.Run.Expand
import Rulebook.Proofs.Run.Flatten
import Rulebook.Proofs.Run.Footprint
import Rulebook.Proofs.Run.Independence
import Rulebook.Proofs.Run.InputKept
import Rulebook.Proofs.Run.Interchange
import Rulebook.Proofs.Run.Milestones
import Rulebook.Proofs.Run.Publication
import Rulebook.Proofs.Run.Session
import Rulebook.Proofs.Run.Trace
import Rulebook.Proofs.Run.Yields
import Rulebook.Proofs.Settings.Merging
import Rulebook.Proofs.Settings.Validity
import Rulebook.Proofs.Store.Growth
import Rulebook.Proofs.Store.Landing
import Rulebook.Proofs.Store.Mirror
import Rulebook.Proofs.Store.PlainName
import Rulebook.Proofs.Store.ReadBack
import Rulebook.Proofs.Text.Lines
import Rulebook.Proofs.Values.Acceptance
import Rulebook.Proofs.Values.ListFile
import Rulebook.Proofs.Values.Spelling
import Rulebook.Store.Memory
