import Heightt.Runs.LostUpdate
import Heightt.Runs.PlatformFee
import Heightt.Runs.Collections
import Heightt.Runs.Dues
import Heightt.Runs.PlatformWallet
import Heightt.Auth.Revocation
import Heightt.Auth.SingleUse
import Heightt.Auth.Rotation
import Heightt.Auth.Logins
import Heightt.Guards.Scope
import Heightt.Guards.PermissionService
import Heightt.Guards.Screening
import Heightt.Interceptors.Sanitizing
import Heightt.Rbac.RoleAssignment
import Heightt.Governance.Voting
import Heightt.Governance.Lifecycle
import Heightt.Governance.Secrecy
import Heightt.Governance.Acceptance
import Heightt.Activities.Registration
import Heightt.Activities.Authorisation
import Heightt.Guests.Claims
import Heightt.Idempotency.Replay
import Heightt.Payouts.Destinations
import Heightt.Payouts.DefaultAccount
import Heightt.Campus.Bulk
import Heightt.Campus.Copies
import Heightt.Campus.SingleMembership
import Heightt.Campus.StatusDiscipline
import Heightt.Campus.JoinRequests
import Heightt.Academics.CurrentSessions
import Heightt.Academics.MatricNumbers
import Heightt.Academics.OnboardingCompletion
import Heightt.Finance.PaymentJournal
import Heightt.Finance.FeeRelease
import Heightt.Finance.ReceiptNumbers
import Heightt.Finance.WithdrawalQuote
import Heightt.Runs.Savings
import Heightt.Users.VerifiedAddress
import Heightt.Users.PasswordHashes
import Heightt.Realtime.Isolation
import Heightt.Communication.Publication
import Heightt.Students.VerificationLifecycle
import Heightt.Caching.Transparency
import Heightt.Caching.TagSets
import Heightt.Bachs.Signatures
import Heightt.Bachs.AmountTexts
import Heightt.Finance.AccountCodes
import Heightt.Platform.FeatureFlags
import Heightt.Analytics.MonthPeriods
import Heightt.Analytics.Revenue
import Heightt.Reports.CsvUtil
import Heightt.Search.Caching
import Heightt.Bachs.Payloads
import Heightt.Redis.RoundTrip
import Heightt.Auth.RateLimits
import Heightt.Academics.AutoJoin
import Heightt.Runs.PaymentRecords
import Heightt.Runs.LedgerBooks
import Heightt.Governance.Tally
import Heightt.Runs.DueAssignments
import Heightt.Academics.Hierarchy
import Heightt.Academics.DepartmentOrganizations
import Heightt.Academics.AddedLevels
import Heightt.Runs.HeldBalances
import Heightt.Runs.WithdrawalMoney
