import Walkthrough.Main
import Walkthrough.Player.Rehearsal
import Walkthrough.Settings.LogLevel
import Walkthrough.Proofs.Engine.Act
import Walkthrough.Proofs.Engine.Path
import Walkthrough.Proofs.Engine.Move
import Walkthrough.Proofs.Engine.Writing
import Walkthrough.Proofs.Engine.Restoring
import Walkthrough.Proofs.Engine.Run
import Walkthrough.Proofs.Engine.PathStack
import Walkthrough.Proofs.Engine.RoundTrip
import Walkthrough.Proofs.Engine.Standing
import Walkthrough.Proofs.Engine.Atomicity
import Walkthrough.Proofs.Engine.PartialWrites
import Walkthrough.Proofs.Engine.SavedText
import Walkthrough.Proofs.Saved.Renumbering
import Walkthrough.Proofs.Script.Editing
import Walkthrough.Proofs.Engine.LookAhead
import Walkthrough.Proofs.Engine.Resumption
import Walkthrough.Proofs.Script.Sound
import Walkthrough.Proofs.Script.Reachability
import Walkthrough.Proofs.Engine.Structural
import Walkthrough.Proofs.Engine.Reached
import Walkthrough.Proofs.Engine.Observer
import Walkthrough.Proofs.Engine.Saving
import Walkthrough.Proofs.Player.Rehearsed
import Walkthrough.Proofs.Engine.Unwritten
import Walkthrough.Proofs.Engine.Loops
import Walkthrough.Proofs.Script.Problems
import Walkthrough.Proofs.Engine.NextSteps
import Walkthrough.Proofs.Engine.Adoption
import Walkthrough.Proofs.Saved.Shuffled
import Walkthrough.Proofs.Engine.Complaints
import Walkthrough.Proofs.Engine.StoredValues
import Walkthrough.Proofs.Engine.Inconvertible
import Walkthrough.Proofs.Engine.OnTrial
import Walkthrough.Proofs.Engine.Announcing
import Walkthrough.Proofs.Engine.InEffect
import Walkthrough.Proofs.Json.Shape
import Walkthrough.Proofs.Saved.Reading
import Walkthrough.Proofs.Saved.Normalising
import Walkthrough.Proofs.Saved.Tagging
import Walkthrough.Proofs.Template.RichText
import Walkthrough.Proofs.Text.Splitting
import Walkthrough.Proofs.Condition.Header
import Walkthrough.Proofs.Condition.Spelling
import Walkthrough.Proofs.Condition.Accepted
import Walkthrough.Proofs.Condition.Confined
import Walkthrough.Proofs.Condition.Quoting.Numbers
import Walkthrough.Proofs.Condition.Quoting.Texts
import Walkthrough.Proofs.Condition.Quoting.Tokens
import Walkthrough.Proofs.Condition.Quoting.Terms
import Walkthrough.Proofs.Condition.Quoting.Heads
import Walkthrough.Proofs.Condition.Quoting.Reading
import Walkthrough.Proofs.Condition.Quoting.Compiling
import Walkthrough.Proofs.Event.Delivery
import Walkthrough.Proofs.Player.Answering
import Walkthrough.Proofs.Player.Displayed
import Walkthrough.Proofs.Player.Prompting
