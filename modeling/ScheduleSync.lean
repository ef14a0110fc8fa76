import ScheduleSync.Transition
import ScheduleSync.Server
import ScheduleSync.Effects
import ScheduleSync.Lifecycle
import ScheduleSync.Workers
import ScheduleSync.Standing
import ScheduleSync.FinishedLogs
import ScheduleSync.Onboarding
import ScheduleSync.Descent
import ScheduleSync.Dispositions
import ScheduleSync.Busy
import ScheduleSync.OneScrape
import ScheduleSync.Spacing
import ScheduleSync.ConcurrencyCap
import ScheduleSync.SingleUse
import ScheduleSync.LoginAuthenticity
import ScheduleSync.CredentialStore
import ScheduleSync.Ingestion
import ScheduleSync.Migrate
import ScheduleSync.PinHistory
import ScheduleSync.RateWindow
import ScheduleSync.Writes
import ScheduleSync.Calendar
import ScheduleSync.Retention
import ScheduleSync.Feed
import ScheduleSync.LogRows
import ScheduleSync.KeyAuthority
import ScheduleSync.Deletion
import ScheduleSync.Reaping
import ScheduleSync.Ghosts
import ScheduleSync.Sessions
import ScheduleSync.Timezone
import ScheduleSync.Identity
import ScheduleSync.LastSynced
import ScheduleSync.Saves
import ScheduleSync.KeepFirst
import ScheduleSync.Resume
import ScheduleSync.Losses
import ScheduleSync.Counts
import ScheduleSync.Capture
import ScheduleSync.ContentLines
import ScheduleSync.IcsTime
import ScheduleSync.Decoding
import ScheduleSync.Merge
import ScheduleSync.NaiveLimiter
import ScheduleSync.SignUps
import ScheduleSync.Quota
import ScheduleSync.StartChain
import ScheduleSync.OnboardingPage
import ScheduleSync.Inevitable
import ScheduleSync.Quiescence
import ScheduleSync.Polls
import ScheduleSync.Unwinding
import ScheduleSync.Tenancy
import ScheduleSync.Isolation
import ScheduleSync.Hex
import ScheduleSync.MasterKey
import ScheduleSync.FeedLink
import ScheduleSync.Scripts
import ScheduleSync.ScraperRun
import ScheduleSync.ScraperReports
import ScheduleSync.ScraperSecrets
import ScheduleSync.Custody
import ScheduleSync.Provenance
import ScheduleSync.Deployment
import ScheduleSync.EndToEnd
import ScheduleSync.Delivery
import ScheduleSync.Authority
import ScheduleSync.Expiry
