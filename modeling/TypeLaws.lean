import TypeLaws.Proofs.Equality.Operator
import TypeLaws.Proofs.Equality.Record
import TypeLaws.Proofs.Equality.Verdict
import TypeLaws.Proofs.Report.JUnit
import TypeLaws.Proofs.Sample.Lawful
import TypeLaws.Proofs.Session.Agreement
import TypeLaws.Proofs.Session.Collector
import TypeLaws.Proofs.Session.Isolation
import TypeLaws.Proofs.Subject.Path
import TypeLaws.Proofs.Subject.Speaker
import TypeLaws.Sample.System
import TypeLaws.Session.Suite
import TypeLaws.Settings.Load
import TypeLaws.Proofs.Equality.Exchange
import TypeLaws.Proofs.Settings.Acceptance
import TypeLaws.Proofs.Subject.Property
import TypeLaws.Proofs.Session.Fault
import TypeLaws.Proofs.Session.Lifecycle
import TypeLaws.Proofs.Settings.Assignment
import TypeLaws.Proofs.Settings.Placement
import TypeLaws.Proofs.Settings.Refusal
import TypeLaws.Proofs.Fact
import TypeLaws.Proofs.System.DebugText
