import Logline.Main
import Logline.Session
import Logline.Proofs.Pattern
import Logline.Proofs.History
import Logline.Proofs.Rendering
import Logline.Proofs.Zone
import Logline.Proofs.Timestamp
import Logline.Proofs.Substitution
import Logline.Proofs.JsonLine
import Logline.Proofs.Failure
import Logline.Proofs.Encoding
import Logline.Proofs.TimeMode
import Logline.Proofs.Concatenation
import Logline.Proofs.Request
import Logline.Proofs.Session
import Logline.Proofs.Program
import Logline.Proofs.LostOutput
import Logline.Proofs.Canonical
import Logline.Proofs.Visibility
import Logline.Proofs.DigitField
import Logline.Proofs.Sorting
import Logline.Proofs.Width
import Logline.Proofs.Options
import Logline.Proofs.Flag
import Logline.Proofs.Level
import Logline.Proofs.Agreement
import Logline.Proofs.Growth
import Logline.Proofs.Pairs
