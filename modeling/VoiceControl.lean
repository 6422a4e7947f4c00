import VoiceControl.Command.Catalogue
import VoiceControl.Command.Scripted
import VoiceControl.Event.Bus
import VoiceControl.Main
import VoiceControl.Overlay.RenderJob
import VoiceControl.Text.Pattern.Reader
import VoiceControl.Proofs.Command.Effects
import VoiceControl.Proofs.Command.Foreign
import VoiceControl.Proofs.Command.Order
import VoiceControl.Proofs.Command.Ranking
import VoiceControl.Proofs.Command.Reporting
import VoiceControl.Proofs.Number.Natural
import VoiceControl.Proofs.Overlay.Addressing
import VoiceControl.Proofs.Overlay.Agreement
import VoiceControl.Proofs.Overlay.Convergence
import VoiceControl.Proofs.Overlay.Draining
import VoiceControl.Proofs.Overlay.GridTickets
import VoiceControl.Proofs.Overlay.Provenance
import VoiceControl.Proofs.Overlay.QueueDiscipline
import VoiceControl.Proofs.Overlay.Refusal
import VoiceControl.Proofs.Session.GridCommands
import VoiceControl.Proofs.Session.GridTurns
import VoiceControl.Proofs.Session.GridWords
import VoiceControl.Proofs.Text.Numerals
import VoiceControl.Proofs.Command.Gestures
import VoiceControl.Proofs.Command.Repertoire
import VoiceControl.Proofs.Session.Happenings
import VoiceControl.Proofs.Session.Containment
import VoiceControl.Proofs.Session.Holding
import VoiceControl.Proofs.Session.TakingBack
import VoiceControl.Proofs.Overlay.Lifecycle
import VoiceControl.Proofs.Session.Restraint
import VoiceControl.Proofs.Event.Subscriptions
import VoiceControl.Proofs.Session.Politeness
import VoiceControl.Proofs.Event.Deliveries
import VoiceControl.Proofs.Event.Publishing
import VoiceControl.Proofs.Command.AttachedMarks
import VoiceControl.Proofs.Command.Precedence
import VoiceControl.Proofs.Session.CommandWords
import VoiceControl.Proofs.Session.OwnCommands
import VoiceControl.Proofs.Session.SpokenPunctuation
import VoiceControl.Proofs.Text.Gluing
import VoiceControl.Proofs.Text.PlainForm
import VoiceControl.Proofs.Text.SpokenMarks
import VoiceControl.Proofs.Text.TrailingMarks
import VoiceControl.Proofs.Text.WordPhrases
import VoiceControl.Proofs.Config.Masking
import VoiceControl.Proofs.Config.Precedence
import VoiceControl.Proofs.Command.Outputs
import VoiceControl.Proofs.Session.Delivery
import VoiceControl.Proofs.Session.ElementClicking
import VoiceControl.Proofs.Session.WindowSwitching
import VoiceControl.Proofs.Overlay.GridPixels
import VoiceControl.Proofs.Text.Matching
import VoiceControl.Proofs.Text.Likeness
import VoiceControl.Proofs.Text.SpokenNumbers
import VoiceControl.Proofs.Text.NumberReaders
import VoiceControl.Proofs.Command.Performance
import VoiceControl.Proofs.Text.Occurrences
import VoiceControl.Proofs.Command.DragTargets
import VoiceControl.Proofs.Command.Triggers
import VoiceControl.Proofs.Command.Modifiers
import VoiceControl.Proofs.Command.Directions
import VoiceControl.Proofs.Text.Normalising
import VoiceControl.Proofs.Text.Punctuating
import VoiceControl.Proofs.Text.Vocabulary
import VoiceControl.Proofs.Session.Repetition
import VoiceControl.Proofs.Command.HelpSections
import VoiceControl.Proofs.Command.VariableReferences
import VoiceControl.Proofs.Files.Directory
import VoiceControl.Proofs.Command.ScreenshotReferences
