import Itanium.Main
import Itanium.Proofs.Layout
import Itanium.Proofs.OpcodeSpace
import Itanium.Proofs.Extraction
import Itanium.Proofs.Bundle
import Itanium.Proofs.Capacity
import Itanium.Proofs.Lossless
import Itanium.Proofs.Names
import Itanium.Proofs.Numeral
import Itanium.Proofs.OperandText
import Itanium.Proofs.InstructionText
import Itanium.Proofs.Listing
import Itanium.Proofs.Dependence
import Itanium.Proofs.QualifyingPredicate
import Itanium.Proofs.Completers
import Itanium.Proofs.Operands
import Itanium.Proofs.BundleListing
import Itanium.Proofs.BundleRecord
import Itanium.Proofs.Image
import Itanium.Proofs.Run
import Itanium.Proofs.Window
import Itanium.Proofs.Strictness
import Itanium.Proofs.NumeralReading
import Itanium.Proofs.OneLine
import Itanium.Proofs.TraceRun
import Itanium.Proofs.Exclusion
import Itanium.Proofs.Scatter
import Itanium.Proofs.Fragments
import Itanium.Proofs.Overwriting
import Itanium.Proofs.SplitImmediates
import Itanium.Proofs.OperandFrame
import Itanium.Proofs.Displacements
import Itanium.Proofs.Composition
import Itanium.Proofs.LongImmediates
import Itanium.Proofs.FixedFields
import Itanium.Proofs.Compares
import Itanium.Proofs.BaseUpdate
import Itanium.Proofs.Discriminators
import Itanium.Proofs.ImpliedOperands
import Itanium.Proofs.Immediate21
import Itanium.Proofs.NumeralGrammar
import Itanium.Proofs.TextParts
import Itanium.Proofs.AddressNumeral
import Itanium.Proofs.HexDump
import Itanium.Proofs.DumpRendering
import Itanium.Proofs.CompareType
import Itanium.Proofs.Destinations
import Itanium.Proofs.PredicateMasks
import Itanium.Proofs.SettingsLayers
import Itanium.Proofs.SettingsRecovery
