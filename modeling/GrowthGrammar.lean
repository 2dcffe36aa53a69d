import GrowthGrammar.Alphabet.Listing
import GrowthGrammar.Noise
import GrowthGrammar.Plant.MonkeyPuzzle
import GrowthGrammar.Proofs.Derivation.Replay
import GrowthGrammar.Proofs.Drawing.Branches
import GrowthGrammar.Proofs.Guarantee
import GrowthGrammar.Proofs.Massing.Renewal
import GrowthGrammar.Proofs.Massing.Rounds
import GrowthGrammar.Proofs.Plant.Settling
import GrowthGrammar.Proofs.Plant.Trunk
import GrowthGrammar.Proofs.Shape.Cell
import GrowthGrammar.Proofs.Shape.Policy.Erosion
import GrowthGrammar.Proofs.Space.Box
import GrowthGrammar.Record.Shape
import GrowthGrammar.Proofs.Massing.Tiling
import GrowthGrammar.Proofs.Alphabet.Closure
import GrowthGrammar.Proofs.Derivation.Sessions
import GrowthGrammar.Proofs.Alphabet.Freshness
import GrowthGrammar.Proofs.Alphabet.Atomicity
import GrowthGrammar.Proofs.Drawing.Limits
import GrowthGrammar.Proofs.Massing.Fates
import GrowthGrammar.Proofs.Alphabet.Shares
import GrowthGrammar.Proofs.Shape.Policy.Floors
import GrowthGrammar.Proofs.Shape.Policy.Storeys
import GrowthGrammar.Proofs.Massing.Provenance
import GrowthGrammar.Proofs.Massing.Frames
import GrowthGrammar.Proofs.Massing.Towers
import GrowthGrammar.Proofs.Shape.Footprint
import GrowthGrammar.Proofs.Massing.Houses
import GrowthGrammar.Proofs.Derivation.Choiceless
import GrowthGrammar.Proofs.Drawing.Accounting
import GrowthGrammar.Proofs.Plant.Failures
import GrowthGrammar.Proofs.Massing.Reports
import GrowthGrammar.Proofs.Alphabet.Numbering
import GrowthGrammar.Proofs.City.Layout
import GrowthGrammar.Proofs.Plant.Counts
import GrowthGrammar.Proofs.Plant.Colors
import GrowthGrammar.Proofs.Massing.Resumption
import GrowthGrammar.Proofs.Random.Proportions
import GrowthGrammar.Proofs.Shape.Region
import GrowthGrammar.Proofs.Shape.Policy.Roofing
import GrowthGrammar.Proofs.Noise.Seams
import GrowthGrammar.Proofs.Random.Sources
import GrowthGrammar.Proofs.Shape.PieceCounts
import GrowthGrammar.Proofs.Massing.Chimneys
