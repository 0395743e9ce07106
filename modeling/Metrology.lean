import Metrology.Catalogue
import Metrology.Main
import Metrology.Quantity.Operand
import Metrology.Proofs.Number.UnitFactor
import Metrology.Proofs.Registry.Requests
import Metrology.Proofs.Expression.Characters
import Metrology.Proofs.Expression.Evaluation
import Metrology.Proofs.Expression.Factors
import Metrology.Proofs.Expression.Places
import Metrology.Proofs.Expression.Tree
import Metrology.Proofs.Parser.Acceptance
import Metrology.Proofs.Parser.Outcome
import Metrology.Proofs.Registry.History
import Metrology.Proofs.Registry.Names
import Metrology.Proofs.Expression.UnitTexts
import Metrology.Proofs.Number.Written
import Metrology.Proofs.Parser.UnitParts
import Metrology.Proofs.Parser.SymbolTexts
import Metrology.Proofs.Number.Finite
import Metrology.Proofs.Parser.EngineeringTexts
import Metrology.Proofs.Registry.ExtensionUnits
import Metrology.Proofs.Parser.ExtensionSymbols
import Metrology.Proofs.Quantity.Calculations
import Metrology.Proofs.Parser.DistinctSymbols
import Metrology.Proofs.Parser.NewUnits
import Metrology.Proofs.Expression.ReadingOptions
import Metrology.Proofs.Parser.ExtendOption
import Metrology.Proofs.Parser.DimensionlessOption
import Metrology.Proofs.Options.Updates
import Metrology.Proofs.Parser.Reuse
import Metrology.Proofs.Expression.TermOperators
import Metrology.Proofs.Expression.Behind
import Metrology.Proofs.Parser.RepeatedSolidus
import Metrology.Proofs.Parser.Coefficients
import Metrology.Proofs.Parser.Parentheses
import Metrology.Proofs.Parser.Reciprocals
import Metrology.Proofs.Parser.ApostropheUnits
import Metrology.Proofs.CommandLine.Runs
import Metrology.Proofs.Parser.QuotientSpellings
import Metrology.Proofs.Expression.Counterparts
import Metrology.Proofs.Expression.Correspondence
import Metrology.Proofs.Parser.Endings
import Metrology.Proofs.Parser.Lookahead
import Metrology.Proofs.Parser.EscapeCharacter
import Metrology.Proofs.Registry.SlotOrder
import Metrology.Proofs.Parser.SlotOrder
import Metrology.Proofs.Number.Order
import Metrology.Proofs.Engineering.Signs
import Metrology.Proofs.Engineering.Units
import Metrology.Proofs.Engineering.Mantissa
import Metrology.Proofs.Quantity.Powers
import Metrology.Proofs.Dimension.Laws
import Metrology.Proofs.Options.Validation
import Metrology.Proofs.Number.Recovery
import Metrology.Proofs.Number.Values
import Metrology.Proofs.Results
import Metrology.Proofs.Parser.UnitMagnitudes
import Metrology.Proofs.Quantity.OddRoots
import Metrology.Proofs.Expression.RealLiterals
