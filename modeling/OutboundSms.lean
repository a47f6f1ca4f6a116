import OutboundSms.Bench.Custody
import OutboundSms.Bench.Holder
import OutboundSms.Bench.Report
import OutboundSms.Main
import OutboundSms.Format.Document
import OutboundSms.Proofs.Bypass
import OutboundSms.Proofs.Contents
import OutboundSms.Proofs.Conversations
import OutboundSms.Proofs.EventLog
import OutboundSms.Proofs.Holders
import OutboundSms.Proofs.Observers
import OutboundSms.Proofs.Order
import OutboundSms.Proofs.Redispatch
import OutboundSms.Proofs.Separation
import OutboundSms.Proofs.Serving
import OutboundSms.Proofs.Sessions
import OutboundSms.Proofs.Simulation
import OutboundSms.Proofs.StatusReports
import OutboundSms.Proofs.ResultNumbers
import OutboundSms.Proofs.Recognition
import OutboundSms.Proofs.Waiters
import OutboundSms.Proofs.Decoding
import OutboundSms.Proofs.Documents
import OutboundSms.Proofs.Trees
import OutboundSms.Proofs.Tokens
import OutboundSms.Proofs.Printing
import OutboundSms.Proofs.RoundTrip
