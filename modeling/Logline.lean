import Logline.Main
import Logline.Prompt
import Logline.Proofs.Calendar.Translation
import Logline.Proofs.Layout.Concatenation
import Logline.Proofs.Layout.Grammar
import Logline.Proofs.Layout.Interpretation
import Logline.Proofs.Layout.Roundtrip
import Logline.Resource
import Logline.Session
import Logline.Tool.Call
import Logline.Proofs.Calendar.Readback
import Logline.Proofs.Chain
import Logline.Proofs.Formatter.Agreement
import Logline.Proofs.Formatter.Sharing
import Logline.Proofs.Tool.Canonical
import Logline.Proofs.Command.Reading
import Logline.Proofs.Command.Outcome
import Logline.Proofs.Command.Agreement
import Logline.Proofs.Tool.Levels
import Logline.Proofs.Session.Recall
import Logline.Proofs.Calendar.Year
import Logline.Proofs.Strictness
import Logline.Proofs.Tool.ZoneNames
import Logline.Proofs.Calendar.Chronology
import Logline.Proofs.Formatter.Sorting
import Logline.Proofs.Tool.Resolution
import Logline.Proofs.Tool.Faults
import Logline.Proofs.Command.Listing
import Logline.Proofs.Environment
import Logline.Proofs.Tool.Styles
import Logline.Proofs.Formatter.Severities
import Logline.Proofs.Setup
import Logline.Proofs.Calendar.Decimal
import Logline.Proofs.Calendar.Distance
import Logline.Proofs.Formatter.Parts
import Logline.Proofs.Layout.Account
