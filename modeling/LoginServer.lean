import LoginServer.Address.Listening
import LoginServer.Inspect
import LoginServer.Main
import LoginServer.Proofs.DispatcherAgreement
import LoginServer.Proofs.SerialRefinement
import LoginServer.Proofs.SingleOwnership
import LoginServer.Protocol.Stream
import LoginServer.Server.Closing
import LoginServer.Server.Working.Crew
import LoginServer.Proofs.ReplyDelivery
import LoginServer.Proofs.PolledAccounting
import LoginServer.Proofs.CrewSafety
import LoginServer.Proofs.DirectoryRecords
import LoginServer.Proofs.Utf8RoundTrip
import LoginServer.Proofs.WireLogin
import LoginServer.Proofs.CrewRefinement
import LoginServer.Proofs.StreamConservation
import LoginServer.Activity.Journal
import LoginServer.Proofs.JournalConservation
import LoginServer.Proofs.LineFeeds
import LoginServer.Proofs.RecordLines
import LoginServer.Proofs.LateEvents
import LoginServer.Server.Polling.Moment
import LoginServer.Proofs.ServiceMoments
import LoginServer.Proofs.PolledLives
import LoginServer.Proofs.PolledOutput
import LoginServer.Proofs.ServiceBounds
import LoginServer.Proofs.Noninterference
import LoginServer.Proofs.Utf8Inversion
import LoginServer.Proofs.LoginBytes
import LoginServer.Protocol.Receiver
import LoginServer.Proofs.ReceiverSearch
import LoginServer.Proofs.OverlongLines
import LoginServer.Proofs.PromptReplies
import LoginServer.Server.Working.Course
import LoginServer.Session.History
import LoginServer.Proofs.SessionHistory
import LoginServer.Account.Calls
import LoginServer.Proofs.LoginOutcomes
import LoginServer.Proofs.CommandGrammar
import LoginServer.Proofs.DirectoryGrammar
import LoginServer.Proofs.ReplyStream
import LoginServer.Proofs.CommandLineGrammar
import LoginServer.Activity.Record
import LoginServer.Proofs.RecordDecoding
import LoginServer.Activity.Delivery
import LoginServer.Proofs.PortionDelivery
