import NeighbourInfo.Closing
import NeighbourInfo.Distribution
import NeighbourInfo.Division
import NeighbourInfo.RawObservations
import NeighbourInfo.Session.Basic
import NeighbourInfo.Pool
import NeighbourInfo.Proofs.Radius
import NeighbourInfo.Proofs.Scalar.Double
import NeighbourInfo.Proofs.Search
import NeighbourInfo.Proofs.Nearest
import NeighbourInfo.Proofs.Counts.Within
import NeighbourInfo.Proofs.Kernel
import NeighbourInfo.Proofs.Block
import NeighbourInfo.Proofs.Evaluation
import NeighbourInfo.Proofs.Gather
import NeighbourInfo.Proofs.Chance
import NeighbourInfo.Proofs.Session.Reordering
import NeighbourInfo.Proofs.Estimator
import NeighbourInfo.Proofs.Fitting
import NeighbourInfo.Proofs.Session.Operations
import NeighbourInfo.Proofs.Session.Counting
import NeighbourInfo.Proofs.Session.Summing
import NeighbourInfo.Proofs.Session.Completing
import NeighbourInfo.Proofs.Session.Changes
import NeighbourInfo.Proofs.Session.Runs
import NeighbourInfo.Proofs.Session.Soundness
import NeighbourInfo.Proofs.Session.Events
import NeighbourInfo.Proofs.Session.LastAverage
import NeighbourInfo.Proofs.Session.Failure
import NeighbourInfo.Proofs.Session.Replacement
import NeighbourInfo.Proofs.Session.Means
import NeighbourInfo.Proofs.Symmetry
import NeighbourInfo.Proofs.Session.Symmetry
import NeighbourInfo.Proofs.Pool.Tracking
import NeighbourInfo.Proofs.Pool.Outcome
import NeighbourInfo.Proofs.Monotone
import NeighbourInfo.Proofs.Scalar.Real
import NeighbourInfo.Proofs.Session.Agreement
import NeighbourInfo.Proofs.Session.Bounds
import NeighbourInfo.Proofs.Session.Euclidean
import NeighbourInfo.Proofs.Units
import NeighbourInfo.Proofs.Session.Observing
import NeighbourInfo.Proofs.Reading
import NeighbourInfo.Proofs.Session.Units
import NeighbourInfo.Proofs.Relabelling
import NeighbourInfo.Proofs.Session.Relabelling
import NeighbourInfo.Proofs.Retaining
import NeighbourInfo.Proofs.Session.Loading
import NeighbourInfo.Proofs.Masking
import NeighbourInfo.Proofs.Recording
import NeighbourInfo.Proofs.Session.LastComputation
import NeighbourInfo.Proofs.Independence
import NeighbourInfo.Proofs.Session.Significance
import NeighbourInfo.Proofs.Scalar.Harmonic
import NeighbourInfo.Proofs.Counts.Bounds
import NeighbourInfo.Proofs.Counts.Values
import NeighbourInfo.Proofs.Counts.Growth
import NeighbourInfo.Proofs.Session.Isolation
import NeighbourInfo.Proofs.Session.Spacing
import NeighbourInfo.Proofs.Numerals
import NeighbourInfo.Proofs.Properties
import NeighbourInfo.Proofs.Session.Properties
import NeighbourInfo.Proofs.Session.Commutation
import NeighbourInfo.Proofs.Scalar.Extended
import NeighbourInfo.Proofs.Distribution
import NeighbourInfo.Proofs.Rows
import NeighbourInfo.Proofs.Standardising
import NeighbourInfo.Proofs.Splitting
import NeighbourInfo.Proofs.Extracting
