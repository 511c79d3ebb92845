import GroupSync.Main
import GroupSync.Proofs.ActionUrls
import GroupSync.Proofs.AdvisedDelays
import GroupSync.Proofs.AttemptLimit
import GroupSync.Proofs.Cuttings
import GroupSync.Proofs.Diagnostics
import GroupSync.Proofs.EnvironmentFirst
import GroupSync.Proofs.GroupTexts
import GroupSync.Proofs.PreparedRuns
import GroupSync.Proofs.Rerun
import GroupSync.Proofs.ResponseClasses
import GroupSync.Proofs.ResponseTexts
import GroupSync.Proofs.Resumption
import GroupSync.Proofs.RunLog
import GroupSync.Proofs.Secrecy
import GroupSync.Proofs.SettingSources
import GroupSync.Proofs.SingleSending
import GroupSync.Proofs.TestOnly
import GroupSync.Proofs.TokenRequests
import GroupSync.Proofs.WireRecords
