import Vivarium.Csv.Reader
import Vivarium.Display.Drawing
import Vivarium.Ledger
import Vivarium.Recording
import Vivarium.Round
import Vivarium.Session
import Vivarium.Setting
import Vivarium.CommandLine.Analyse
import Vivarium.CommandLine.Simulate
import Vivarium.Text.Digits
import Vivarium.Episode
import Vivarium.Main
import Vivarium.Proofs.Completion
import Vivarium.Proofs.Turn.Budget
import Vivarium.Proofs.World.Housed
import Vivarium.Proofs.World.Occupied
import Vivarium.Proofs.World.Shown
import Vivarium.Proofs.Account
import Vivarium.Proofs.Display.Mirror
import Vivarium.Proofs.Display.Stray
import Vivarium.Proofs.Turn.Runaway
import Vivarium.Proofs.Turn.Threshold
import Vivarium.Proofs.Round.Stepwise
import Vivarium.Proofs.Directory
import Vivarium.Proofs.Ledger
import Vivarium.Proofs.Viewer.Course
import Vivarium.Proofs.Viewer.Census
import Vivarium.Proofs.Viewer.Recorded
import Vivarium.Proofs.Turn.Frame
import Vivarium.Proofs.World.Agreement
import Vivarium.Proofs.Turn.Locality
import Vivarium.Proofs.World.Rotation
import Vivarium.Proofs.Turn.Rotation
import Vivarium.Proofs.Program.Language
import Vivarium.Proofs.Program.Listing
import Vivarium.Proofs.Round.Fairness
import Vivarium.Proofs.Turn.Muted
import Vivarium.Proofs.Census
import Vivarium.Proofs.Csv
import Vivarium.Proofs.Number.Numeral
import Vivarium.Proofs.Population
import Vivarium.Proofs.Analysis.Chronicle
import Vivarium.Proofs.Analysis.Naming
import Vivarium.Proofs.Analysis.Session
import Vivarium.Proofs.Simulate
import Vivarium.Proofs.World.Failing
import Vivarium.Proofs.World.Snapshot
import Vivarium.Proofs.Recording.Takes
import Vivarium.Proofs.Ledger.Lossless
import Vivarium.Proofs.Species
import Vivarium.Proofs.Program.Faults
import Vivarium.Proofs.Ledger.Continued
import Vivarium.Proofs.Analysis.Events
import Vivarium.Proofs.Display.Tiling
import Vivarium.Proofs.Prompt
import Vivarium.Proofs.Viewer.Pacing
