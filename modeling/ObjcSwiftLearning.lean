import ObjcSwiftLearning.AxolotlKit.DoubleRatchet
import ObjcSwiftLearning.AxolotlKit.FailedDecryption
import ObjcSwiftLearning.AxolotlKit.IdentityAfterDecryption
import ObjcSwiftLearning.AxolotlKit.KeyAgreement
import ObjcSwiftLearning.SignalServiceKit.MessagePadding
import ObjcSwiftLearning.SignalServiceKit.PreKeyOperations
import ObjcSwiftLearning.SignalServiceKit.ReadReceiptBatches
import ObjcSwiftLearning.SignalServiceKit.RetryBudget
import ObjcSwiftLearning.SignalServiceKit.NoSecondDelivery
import ObjcSwiftLearning.SignalServiceKit.OutgoingReceipts
import ObjcSwiftLearning.SignalServiceKit.RecipientReadReceipts
import ObjcSwiftLearning.SignalServiceKit.TrustedSending
import ObjcSwiftLearning.SignalServiceKit.BlockList
import ObjcSwiftLearning.SignalServiceKit.ReceiptsWhileSending
import ObjcSwiftLearning.SignalServiceKit.ExpirationSchedule
import ObjcSwiftLearning.SignalServiceKit.WebSocketAlignment
import ObjcSwiftLearning.SignalServiceKit.TakingEffect
import ObjcSwiftLearning.SignalServiceKit.BackgroundTaskAccounts
import ObjcSwiftLearning.Signal.CallIsolation
import ObjcSwiftLearning.Signal.CallConsent
import ObjcSwiftLearning.Signal.CallSettlement
import ObjcSwiftLearning.AxolotlKit.CipherMessageCodec
import ObjcSwiftLearning.AxolotlKit.SessionArchive
import ObjcSwiftLearning.SignalServiceKit.ExpiryArithmetic
import ObjcSwiftLearning.SignalServiceKit.ExpirationStart
import ObjcSwiftLearning.SignalServiceKit.OperationCompletion
import ObjcSwiftLearning.SignalServiceKit.Fingerprint
import ObjcSwiftLearning.Signal.MessageFetching
import ObjcSwiftLearning.Signal.BackupRestore
import ObjcSwiftLearning.Signal.BackupRecords
import ObjcSwiftLearning.SignalServiceKit.Reachability
import ObjcSwiftLearning.SignalServiceKit.TemporaryMessages
import ObjcSwiftLearning.SignalServiceKit.WebsocketFailover
import ObjcSwiftLearning.SignalServiceKit.FullTextSearch
import ObjcSwiftLearning.SignalServiceKit.WordByteParser
import ObjcSwiftLearning.SignalServiceKit.ContactDiscoveryOperation
import ObjcSwiftLearning.SignalServiceKit.SyncOutputStreams
import ObjcSwiftLearning.Signal.HardenedDescription
import ObjcSwiftLearning.SignalMessaging.AvatarDownload
import ObjcSwiftLearning.Signal.LazyRestore
import ObjcSwiftLearning.SignalServiceKit.QuotedMessages
import ObjcSwiftLearning.SignalMessaging.UnreadIndicator
import ObjcSwiftLearning.Signal.GalleryUpdates
import ObjcSwiftLearning.Signal.ConversationUpdates
import ObjcSwiftLearning.SignalMessaging.ContactIntersection
import ObjcSwiftLearning.SignalMessaging.SignalAccounts
import ObjcSwiftLearning.Signal.ExactCleanup
import ObjcSwiftLearning.SelfLearning.HexKeys
import ObjcSwiftLearning.SignalServiceKit.AppReadiness
import ObjcSwiftLearning.Signal.IncompleteCalls
import ObjcSwiftLearning.SignalServiceKit.LegacyRecipientStates
import ObjcSwiftLearning.Signal.GiphyDownloader
import ObjcSwiftLearning.Signal.ScreenLockPrompts
import ObjcSwiftLearning.Signal.ConversationWindow
import ObjcSwiftLearning.Signal.NotificationsManager
import ObjcSwiftLearning.SignalMessaging.MigrationRuns
import ObjcSwiftLearning.SignalServiceKit.CursorTranslation
import ObjcSwiftLearning.AxolotlKit.SkippedKeys
import ObjcSwiftLearning.SignalServiceKit.PreKeyIds
import ObjcSwiftLearning.SignalServiceKit.SignedPreKeys
