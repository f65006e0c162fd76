import CloudRehearsal.Chore.Errand
import CloudRehearsal.Main
import CloudRehearsal.Proofs.BucketChecks
import CloudRehearsal.Proofs.BucketRegion
import CloudRehearsal.Proofs.CleanChecks
import CloudRehearsal.Proofs.ContainerRelease
import CloudRehearsal.Proofs.DeliveryCount
import CloudRehearsal.Proofs.EndpointSettings
import CloudRehearsal.Proofs.EndpointText
import CloudRehearsal.Proofs.ErrorClasses
import CloudRehearsal.Proofs.ExitStatus
import CloudRehearsal.Proofs.FailureLine
import CloudRehearsal.Proofs.FailureText
import CloudRehearsal.Proofs.FirstFailure
import CloudRehearsal.Proofs.Fixtures
import CloudRehearsal.Proofs.FlagPlacement
import CloudRehearsal.Proofs.HealthWait
import CloudRehearsal.Proofs.Identifiers
import CloudRehearsal.Proofs.ItemRoundTrip
import CloudRehearsal.Proofs.JsonListings
import CloudRehearsal.Proofs.MailGate
import CloudRehearsal.Proofs.ObjectRoundTrip
import CloudRehearsal.Proofs.ObjectText
import CloudRehearsal.Proofs.OneRequest
import CloudRehearsal.Proofs.OutcomeListing
import CloudRehearsal.Proofs.OwnContainer
import CloudRehearsal.Proofs.Presentation
import CloudRehearsal.Proofs.ReadBack
import CloudRehearsal.Proofs.RecordLayout
import CloudRehearsal.Proofs.ResourceNames
import CloudRehearsal.Proofs.RunningContainers
import CloudRehearsal.Proofs.SampleRuns
import CloudRehearsal.Proofs.SenderRejection
import CloudRehearsal.Proofs.ServiceNames
import CloudRehearsal.Proofs.SignIn
import CloudRehearsal.Proofs.SuiteRun
import CloudRehearsal.Proofs.TableDuplicate
import CloudRehearsal.Proofs.TokenPreview
import CloudRehearsal.Proofs.TokenSecrecy
import CloudRehearsal.Proofs.Utf8Reading
