import DatePattern.Json.Reader
import DatePattern.Localizer.English
import DatePattern.Numeral.Notation
import DatePattern.Pattern.Format
import DatePattern.Proofs.Calendar.DayOfYear
import DatePattern.Proofs.Calendar.WholeWeeks
import DatePattern.Proofs.Diagnostic.Cutting
import DatePattern.Proofs.Diagnostic.JsonRoundTrip
import DatePattern.Proofs.Diagnostic.SingleLine
import DatePattern.Proofs.Localizer.American
import DatePattern.Proofs.Localizer.OrdinalSuffix
import DatePattern.Proofs.Moment.ExpandedYear
import DatePattern.Proofs.Numeral.Padding
import DatePattern.Proofs.Options.Spelling
import DatePattern.Proofs.Pattern.Dependence
import DatePattern.Proofs.Pattern.FractionDigits
import DatePattern.Proofs.Pattern.IsoOrder
import DatePattern.Proofs.Pattern.Joining
import DatePattern.Proofs.Pattern.Precedence
import DatePattern.Proofs.Pattern.Writing
import DatePattern.Proofs.Pattern.YearDigits
