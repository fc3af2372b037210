import VipChannel.Lib.Program
import VipChannel.Lib.Json
import VipChannel.Errors
import VipChannel.Domain.Enums
import VipChannel.Domain.Uid
import VipChannel.Domain.Messages
import VipChannel.Domain.Eligibility
import VipChannel.Domain.Compliance
import VipChannel.Persistence.Session
import VipChannel.Persistence.Repositories
import VipChannel.Providers.Telegram
import VipChannel.Services.InviteService
import VipChannel.Services.ReferralOnboarding
import VipChannel.Services.ProviderFactory
import VipChannel.Jobs.PeriodLock
import VipChannel.Jobs.MembershipMonitor
import VipChannel.Jobs.Scheduler
import VipChannel.Providers.Bitunix
import VipChannel.Jobs.RemovalDiscipline
import VipChannel.Jobs.BitunixRecovery
import VipChannel.Persistence.SessionRules
import VipChannel.Persistence.LostAnswers
import VipChannel.Persistence.Integrity
import VipChannel.Jobs.MonitorSpec
import VipChannel.Jobs.PassSpec
import VipChannel.Services.OnboardingSpec
import VipChannel.Web.AdminChannels
import VipChannel.Services.BotConversation
import VipChannel.Web.TelegramWebhook
import VipChannel.Jobs.PassActs
import VipChannel.Jobs.PassCalls
import VipChannel.Runs.Transactions
import VipChannel.Runs.Events
import VipChannel.Runs.Channels
import VipChannel.Runs.Entitlements
import VipChannel.Runs.Punishment
import VipChannel.Runs.Revocation
import VipChannel.Runs.RunRecord
import VipChannel.Runs.Grace
import VipChannel.Runs.Invites
import VipChannel.Runs.LinkExpiry
import VipChannel.Runs.Destinations
import VipChannel.Runs.Snapshots
import VipChannel.Runs.Access
import VipChannel.Services.ConversationSpec
import VipChannel.Services.ServiceCalls
import VipChannel.Runs.Updates
import VipChannel.Services.PaymentService
import VipChannel.Runs.Payments
import VipChannel.Lib.Oracle
import VipChannel.Persistence.Confinement
import VipChannel.Web.Admin
import VipChannel.Persistence.ConfinementRules
import VipChannel.Runs.Confined
import VipChannel.Runs.Isolation
import VipChannel.Runs.Sweeps
import VipChannel.Web.AdminCalls
import VipChannel.Runs.Coherence
import VipChannel.Jobs.PassVisits
import VipChannel.Runs.Outages
import VipChannel.Services.MarketChoice
import VipChannel.Runs.Choices
import VipChannel.Runs.Dispatch
import VipChannel.Web.GraceLimits
import VipChannel.Web.Acknowledgement
import VipChannel.Web.Readiness
import VipChannel.Web.IntegrationCheck
import VipChannel.Runs.Activities
import VipChannel.Runs.Verdicts
import VipChannel.Runs.Endings
import VipChannel.Runs.Resubmission
import VipChannel.Lib.Coupling
import VipChannel.Web.AdminRequests
import VipChannel.Web.WriteOnly
import VipChannel.Lib.Rounding
import VipChannel.Lib.Numerals
import VipChannel.Domain.EligibilityOrder
import VipChannel.Domain.Amounts
import VipChannel.Services.ShortfallMessage
import VipChannel.Providers.Deposits
import VipChannel.Domain.UidScripts
import VipChannel.Jobs.PeriodWindows
import VipChannel.Providers.Signature
import VipChannel.Runs.Money
import VipChannel.Runs.Markup
import VipChannel.Runs.Claims
import VipChannel.Web.Verification
import VipChannel.Fleet.Concurrency
import VipChannel.Runs.Periods
import VipChannel.Runs.Lifecycle
import VipChannel.Runs.Removal
import VipChannel.Runs.Layers
import VipChannel.Lib.KeyedRows
import VipChannel.Web.Configuration
import VipChannel.Web.ConfigurationRules
import VipChannel.Runs.Configurations
import VipChannel.Lib.Uuid
import VipChannel.Persistence.Sparing
import VipChannel.Web.FrontDoor
