import FormEngine.Form.Equality
import FormEngine.Proofs.Analysis.Clean
import FormEngine.Proofs.Analysis.Deletion
import FormEngine.Proofs.Analysis.Inert
import FormEngine.Proofs.Analysis.Report
import FormEngine.Proofs.Analysis.Trail
import FormEngine.Proofs.Comparison
import FormEngine.Proofs.Document.Claiming
import FormEngine.Proofs.Document.Days
import FormEngine.Proofs.Document.Diagnosis
import FormEngine.Proofs.Document.Dialect.Reading
import FormEngine.Proofs.Document.Escape
import FormEngine.Proofs.Document.Options
import FormEngine.Proofs.Document.Patterns
import FormEngine.Proofs.Evaluation
import FormEngine.Proofs.Relevance
import FormEngine.Proofs.Session.Arranging
import FormEngine.Proofs.Session.Feedback
import FormEngine.Proofs.Session.Moving
import FormEngine.Proofs.Session.Numbering
import FormEngine.Proofs.Session.Options
import FormEngine.Proofs.Session.Preview
import FormEngine.Proofs.Session.Reimport
import FormEngine.Proofs.Session.Saving
import FormEngine.Proofs.Store.Adding
import FormEngine.Proofs.Store.Conditions
import FormEngine.Proofs.Store.Merging
import FormEngine.Proofs.Store.Moving
import FormEngine.Proofs.Store.Order
import FormEngine.Proofs.Validation.PhoneNumber
import FormEngine.Proofs.Validation.Requirement
import FormEngine.Proofs.Validation.Wording
import FormEngine.Proofs.Visibility
import FormEngine.Session.Example
import FormEngine.Session.Run
