import UltimateEnigma.Agreement
import UltimateEnigma.Alternation
import UltimateEnigma.AppLock
import UltimateEnigma.Argon2Migration
import UltimateEnigma.AtomicChange
import UltimateEnigma.BackupExport
import UltimateEnigma.BackupFolder
import UltimateEnigma.BackupImport
import UltimateEnigma.BackupRoundTrip
import UltimateEnigma.CertificateBinding
import UltimateEnigma.CertificateExchange
import UltimateEnigma.CertificateWindow
import UltimateEnigma.ClockTracking
import UltimateEnigma.ClosedWrappers
import UltimateEnigma.CoherentFriends
import UltimateEnigma.CombinedKeys
import UltimateEnigma.Conversation
import UltimateEnigma.CryptoTaskQueue
import UltimateEnigma.DatabaseConnection
import UltimateEnigma.DeadlockDetector
import UltimateEnigma.DecoyMemory
import UltimateEnigma.DecoyMode
import UltimateEnigma.DeferredState
import UltimateEnigma.Delegation
import UltimateEnigma.DelegationGate
import UltimateEnigma.DoubleRatchet
import UltimateEnigma.DoubleRatchetFrames
import UltimateEnigma.DoubleRatchetSteps
import UltimateEnigma.EncryptionService
import UltimateEnigma.EndToEnd
import UltimateEnigma.Envelope
import UltimateEnigma.EnvelopeCodec
import UltimateEnigma.EventBus
import UltimateEnigma.FailedCalls
import UltimateEnigma.FailedImports
import UltimateEnigma.FailedUpdates
import UltimateEnigma.FileAuthenticity
import UltimateEnigma.FileCache
import UltimateEnigma.FileOps
import UltimateEnigma.FileService
import UltimateEnigma.FlushRaces
import UltimateEnigma.ForwardSecrecy
import UltimateEnigma.FriendCrud
import UltimateEnigma.FriendKeyUpdates
import UltimateEnigma.FriendLoading
import UltimateEnigma.FriendLocks
import UltimateEnigma.FriendValues
import UltimateEnigma.Gf256
import UltimateEnigma.HChaCha20
import UltimateEnigma.HeaderAuthentication
import UltimateEnigma.HybridKem
import UltimateEnigma.HybridSigner
import UltimateEnigma.ImportIsolation
import UltimateEnigma.KeyHint
import UltimateEnigma.KeySchedule
import UltimateEnigma.KeyStore
import UltimateEnigma.KeyStoreLoad
import UltimateEnigma.KeyStoreOperations
import UltimateEnigma.KeyStoreRuns
import UltimateEnigma.KeyTrace
import UltimateEnigma.KeyTree
import UltimateEnigma.Ladder
import UltimateEnigma.LastingDecoy
import UltimateEnigma.LateMessage
import UltimateEnigma.LegacyMessage
import UltimateEnigma.LegacyRoundTrip
import UltimateEnigma.LegacyStrategy
import UltimateEnigma.LoadFrames
import UltimateEnigma.LoadReadings
import UltimateEnigma.LoadStages
import UltimateEnigma.LoadedSecrets
import UltimateEnigma.LockOrder
import UltimateEnigma.Lockout
import UltimateEnigma.LockoutExpiry
import UltimateEnigma.LoginTrace
import UltimateEnigma.MessageKeys
import UltimateEnigma.MessageOptions
import UltimateEnigma.Newest
import UltimateEnigma.NtpConsensus
import UltimateEnigma.OrderedLocks
import UltimateEnigma.PartialUpdates
import UltimateEnigma.PasswordChange
import UltimateEnigma.PqcKeyRuns
import UltimateEnigma.Py.Base64
import UltimateEnigma.Py.Codec
import UltimateEnigma.Py.Faults
import UltimateEnigma.Py.Json
import UltimateEnigma.Py.Threading
import UltimateEnigma.Py.Transaction
import UltimateEnigma.Py.Triple
import UltimateEnigma.RatchetChannel
import UltimateEnigma.RatchetMigration
import UltimateEnigma.RatchetService
import UltimateEnigma.RatchetView
import UltimateEnigma.RecoveryReset
import UltimateEnigma.RecoveryUnlock
import UltimateEnigma.ReplayRejection
import UltimateEnigma.RestoredState
import UltimateEnigma.RetiredKeys
import UltimateEnigma.Revocation
import UltimateEnigma.RevokedCertificates
import UltimateEnigma.SavedFriends
import UltimateEnigma.SealedMessage
import UltimateEnigma.Sessions
import UltimateEnigma.Shamir
import UltimateEnigma.ShareFailures
import UltimateEnigma.SkippedKeys
import UltimateEnigma.SocialRecovery
import UltimateEnigma.Subscriptions
import UltimateEnigma.Synced
import UltimateEnigma.TaskSchedules
import UltimateEnigma.Totp
import UltimateEnigma.TotpReplay
import UltimateEnigma.TotpSurvival
import UltimateEnigma.TotpWindow
import UltimateEnigma.TrustCertificate
import UltimateEnigma.TrustChain
import UltimateEnigma.TrustLevels
import UltimateEnigma.TwoPasswordChanges
import UltimateEnigma.VerifiedBanner
import UltimateEnigma.WrongKeys
