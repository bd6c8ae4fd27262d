import OpenBroker.Application
import OpenBroker.Broker.Basic
import OpenBroker.Broker.Memory
import OpenBroker.Client.Network
import OpenBroker.Client.Run
import OpenBroker.Failure.Raise
import OpenBroker.Http.Service
import OpenBroker.Main
import OpenBroker.Workers
import OpenBroker.Proofs.Capacity
import OpenBroker.Proofs.History
import OpenBroker.Proofs.Isolation
import OpenBroker.Proofs.Contract
import OpenBroker.Proofs.Instance
import OpenBroker.Proofs.Alone
import OpenBroker.Proofs.Reach
import OpenBroker.Proofs.Failing
import OpenBroker.Proofs.AnyBroker
import OpenBroker.Proofs.Decimal
import OpenBroker.Proofs.JsonString
import OpenBroker.Proofs.Utf8
import OpenBroker.Proofs.JsonAscii
import OpenBroker.Proofs.Numeral
import OpenBroker.Proofs.Settings
import OpenBroker.Proofs.Logger
import OpenBroker.Proofs.Catalog
import OpenBroker.Proofs.Goal
import OpenBroker.Proofs.Redelivery
import OpenBroker.Proofs.Contention
import OpenBroker.Proofs.Addressed
import OpenBroker.Proofs.HostName
import OpenBroker.Proofs.ExitCode
import OpenBroker.Proofs.Commutation
import OpenBroker.Proofs.Printed
import OpenBroker.Proofs.ReplyObject
import OpenBroker.Proofs.Configured
import OpenBroker.Proofs.Residue
import OpenBroker.Proofs.Loading
import OpenBroker.Proofs.Crash
import OpenBroker.Proofs.Confusion
import OpenBroker.Proofs.Exported
import OpenBroker.Proofs.Refusal
import OpenBroker.Proofs.Ancestors
import OpenBroker.Proofs.Distinction
import OpenBroker.Proofs.Attempts
import OpenBroker.Proofs.Lines
import OpenBroker.Proofs.Succeeded
import OpenBroker.Proofs.Concealment
import OpenBroker.Proofs.Dashboard
