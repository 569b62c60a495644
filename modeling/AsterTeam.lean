import AsterTeam.Settlement.ExactlyOnce
import AsterTeam.TokenQuota.FinishGuards
import AsterTeam.TokenQuota.LogicalUsage
import AsterTeam.TokenQuota.LedgerEvidence
import AsterTeam.Control.RunnerDispatch
import AsterTeam.Runner.ExecutionPermit
import AsterTeam.Gateway.ReducerBounds
import AsterTeam.Gateway.ModelDisclosure
import AsterTeam.LicenseState.ClockRollback
import AsterTeam.LicenseState.CrashAtomicity
import AsterTeam.Audit.AuditRuns
import AsterTeam.Commercial.SuccessorImport
import AsterTeam.Upgrade.ControlRetirement
import AsterTeam.Upgrade.MigrationProgress
import AsterTeam.Upgrade.PreparationChains
import AsterTeam.RunnerQuota.QuotaRuns
import AsterTeam.ImageQuota.Conservation
import AsterTeam.Vouchers.Redemptions
import AsterTeam.Sessions.Revocation
import AsterTeam.LicenseProtocol.IssuerScopes
import AsterTeam.Release.ExactTree
import AsterTeam.Gateway.ReportedUsage
