import TheVoteApp.Foundations.Machine
import TheVoteApp.Foundations.Counting
import TheVoteApp.Foundations.DoubleAndAdd
import TheVoteApp.Foundations.ElGamal
import TheVoteApp.Foundations.TwistedEdwards
import TheVoteApp.Solidity.Basic
import TheVoteApp.Solidity.Abi
import TheVoteApp.Solidity.Keccak
import TheVoteApp.VoteLedger.Contract
import TheVoteApp.VoteLedger.Bookkeeping
import TheVoteApp.VoteLedger.OneVote
import TheVoteApp.VoteLedger.Finality
import TheVoteApp.VoteLedger.OptionBinding
import TheVoteApp.VoteLedger.PollIndependence
import TheVoteApp.BabyJubjub.Bsgs
import TheVoteApp.BabyJubjub.OnChain
import TheVoteApp.HomomorphicTally.Contract
import TheVoteApp.HomomorphicTally.Accumulator
import TheVoteApp.HomomorphicTally.Replay
import TheVoteApp.HomomorphicTally.Service
import TheVoteApp.HomomorphicTally.VerifiedTally
import TheVoteApp.HomomorphicTally.Frozen
import TheVoteApp.HomomorphicTally.PollsGetter
import TheVoteApp.Backend.BlockchainService
import TheVoteApp.Backend.ReadPath
import TheVoteApp.Registration.VoterRegistry
import TheVoteApp.Registration.Route
import TheVoteApp.Registration.Sybil
import TheVoteApp.Registration.Uniqueness
import TheVoteApp.PauseGuardian.Contract
import TheVoteApp.PauseGuardian.Approvals
import TheVoteApp.PauseGuardian.Quorum
import TheVoteApp.PauseGuardian.Guardians
import TheVoteApp.Backend.LiveTallyService
import TheVoteApp.Backend.LiveVersusBatch
import TheVoteApp.Backend.Restart
import TheVoteApp.Backend.LiveFeed
import TheVoteApp.Backend.FeedCurrency
import TheVoteApp.Backend.VoteRelay
import TheVoteApp.Clients.LiveTallyClient
import TheVoteApp.Clients.LiveTallySession
import TheVoteApp.Clients.SessionConvergence
import TheVoteApp.Foundations.MerklePath
import TheVoteApp.Foundations.Interleaving
import TheVoteApp.Foundations.Program
import TheVoteApp.Foundations.Redelivery
import TheVoteApp.JavaScript.Builtins
import TheVoteApp.Redis.Database
import TheVoteApp.Redis.CheckThenAdd
import TheVoteApp.BabyJubjub.GroupLaw
import TheVoteApp.BabyJubjub.Agreement
import TheVoteApp.Circuits.EligibilityPlonk
import TheVoteApp.Circuits.HomomorphicVote
import TheVoteApp.Registration.UsedIdentifierStore
import TheVoteApp.Registration.RemoteFailure
import TheVoteApp.PhoneVoting.Ussd
import TheVoteApp.PhoneVoting.Sms
import TheVoteApp.PhoneVoting.Concurrency
import TheVoteApp.PhoneVoting.Redelivery
import TheVoteApp.PhoneVoting.Interference
import TheVoteApp.PhoneVoting.CrossChannel
import TheVoteApp.AuditLog.Contract
import TheVoteApp.AuditLog.Service
import TheVoteApp.CrossChain.Contracts
import TheVoteApp.CrossChain.Delivery
import TheVoteApp.Foundations.OpenPool
import TheVoteApp.Redis.SortedSet
import TheVoteApp.RateLimit.DocumentedWindow
import TheVoteApp.RateLimit.InOrder
import TheVoteApp.RateLimit.Isolation
import TheVoteApp.RateLimit.Sequential
import TheVoteApp.RateLimit.SlidingWindow
import TheVoteApp.Fido2.Service
import TheVoteApp.Fido2.Concurrency
import TheVoteApp.Fido2.Ownership
import TheVoteApp.Notifications.Service
import TheVoteApp.Notifications.Concurrency
import TheVoteApp.HomomorphicTally.CacheRefresh
import TheVoteApp.JavaScript.Literals
import TheVoteApp.JavaScript.Json
import TheVoteApp.JavaScript.JsonRoundTrip
import TheVoteApp.Gateway.Manifest
import TheVoteApp.Backend.PublishedResults
import TheVoteApp.Foundations.Hex
import TheVoteApp.JavaScript.Encoding
import TheVoteApp.Clients.VoteWireFormat
import TheVoteApp.Receipts.Service
import TheVoteApp.Receipts.Decryptor
import TheVoteApp.Clients.Derivations
import TheVoteApp.BabyJubjub.Multiples
import TheVoteApp.PhoneVoting.Screens
import TheVoteApp.PhoneVoting.MenuScreen
import TheVoteApp.PhoneVoting.ConfirmationScreen
import TheVoteApp.JavaScript.Spacing
import TheVoteApp.PhoneVoting.NamedPolicy
import TheVoteApp.PhoneVoting.SubmissionFailure
import TheVoteApp.BabyJubjub.Inverses
import TheVoteApp.Foundations.FirstVisits
import TheVoteApp.Backend.BatchTally
import TheVoteApp.Clients.SessionAddress
import TheVoteApp.Foundations.DescendingPages
import TheVoteApp.JavaScript.Number
import TheVoteApp.AuditLog.Pages
import TheVoteApp.HomomorphicTally.AutoFinalise
import TheVoteApp.Backend.QrBallot
import TheVoteApp.Gateway.TextCall
import TheVoteApp.Foundations.Numerals
import TheVoteApp.Gateway.TextRecord
import TheVoteApp.Registration.ZKPassportAdapter
import TheVoteApp.Gateway.Resolver
import TheVoteApp.Backend.TallyCache
import TheVoteApp.Clients.VoteScreen
import TheVoteApp.Registration.OidcAdapters
import TheVoteApp.Registration.EventLog
import TheVoteApp.PauseGuardian.EventLog
import TheVoteApp.PolicyRegistry.Contract
