import Gridwalk.Box
import Gridwalk.Command.Arithmetic
import Gridwalk.Command.Basic
import Gridwalk.Command.Cardinal
import Gridwalk.Command.Editing
import Gridwalk.Command.Ordinal
import Gridwalk.Command.Shared
import Gridwalk.CommandLine
import Gridwalk.Stream
import Gridwalk.Grid.Basic
import Gridwalk.Heading
import Gridwalk.Label
import Gridwalk.Machine.Cardinal
import Gridwalk.Machine.Dump
import Gridwalk.Machine.Fault
import Gridwalk.Machine.Ordinal
import Gridwalk.Machine.Pose
import Gridwalk.Machine.Run
import Gridwalk.Machine.Shared
import Gridwalk.Machine.State
import Gridwalk.Machine.Step
import Gridwalk.Main
import Gridwalk.Value
import Gridwalk.Number.Bits
import Gridwalk.Number.Arithmetic
import Gridwalk.Number.Factor
import Gridwalk.Number.Pairing
import Gridwalk.Proofs.Motion
import Gridwalk.Proofs.Stall
import Gridwalk.Stack
import Gridwalk.Tape
import Gridwalk.Terrain
import Gridwalk.Text.Arrangement
import Gridwalk.Text.Bag
import Gridwalk.Text.Character
import Gridwalk.Text.Case
import Gridwalk.Text.Decimal
import Gridwalk.Text.Letter
import Gridwalk.Text.Overlap
import Gridwalk.Text.Quoted
import Gridwalk.Text.Segment
import Gridwalk.Text.Utf8
import Gridwalk.Vec
import Gridwalk.Word
import Gridwalk.Proofs.GridReads
import Gridwalk.Proofs.Effects
import Gridwalk.Proofs.Reachable
import Gridwalk.Proofs.HeadingFamily
import Gridwalk.Proofs.Labels
import Gridwalk.Proofs.LabelText
import Gridwalk.Proofs.Streams
import Gridwalk.Proofs.Runs
import Gridwalk.Proofs.Row
import Gridwalk.Proofs.Locality
import Gridwalk.Proofs.StraightLine
import Gridwalk.Proofs.Unrolling
import Gridwalk.Proofs.Printing
import Gridwalk.Proofs.Failures
import Gridwalk.Proofs.IntegerView
import Gridwalk.Proofs.TightBox
import Gridwalk.Proofs.Landing
import Gridwalk.Proofs.FailedTicks
import Gridwalk.Proofs.GridSize
import Gridwalk.Proofs.Occurrences
import Gridwalk.Proofs.Utf8
import Gridwalk.Proofs.CharacterInput
import Gridwalk.Proofs.Registers
import Gridwalk.Proofs.Trajectory
import Gridwalk.Proofs.Storage
import Gridwalk.Proofs.TapeCells
import Gridwalk.Proofs.Trimming
import Gridwalk.Proofs.Addressing
import Gridwalk.Proofs.Diagonals
import Gridwalk.Proofs.RegisterText
import Gridwalk.Proofs.Seeks
import Gridwalk.Proofs.SparseTape
import Gridwalk.Proofs.Factorization
import Gridwalk.Proofs.Divisors
import Gridwalk.Proofs.Binomials
import Gridwalk.Proofs.Powers
import Gridwalk.Proofs.Multiplicity
import Gridwalk.Proofs.BitExtremes
import Gridwalk.Text.Place
import Gridwalk.Text.Succession
import Gridwalk.Proofs.Enumeration
import Gridwalk.Proofs.Rearrangements
import Gridwalk.Proofs.Selections
import Gridwalk.Proofs.Segments
import Gridwalk.Proofs.Covers
import Gridwalk.Proofs.CommonTexts
import Gridwalk.Proofs.KeyedOrder
import Gridwalk.Proofs.Transposition
import Gridwalk.Proofs.Bags
import Gridwalk.Proofs.Interleaving
import Gridwalk.Proofs.UnitWalks
import Gridwalk.Proofs.Numerals
import Gridwalk.Proofs.Conversion
import Gridwalk.Proofs.LineEnds
import Gridwalk.Proofs.LineInput
import Gridwalk.Proofs.Loading
import Gridwalk.Proofs.FaultPlaces
import Gridwalk.Proofs.Rotation
import Gridwalk.Proofs.Ranges
