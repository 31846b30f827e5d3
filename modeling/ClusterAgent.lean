import ClusterAgent.Main
import ClusterAgent.Proofs.CommandLine.Grammar
import ClusterAgent.Proofs.Payload.Decoding
import ClusterAgent.Proofs.Payload.Escapes
import ClusterAgent.Proofs.Records.Regrouping
import ClusterAgent.Proofs.Report.Independence
import ClusterAgent.Proofs.Report.NamedEntities
import ClusterAgent.Proofs.Report.Readback
import ClusterAgent.Proofs.Run.Agreement
import ClusterAgent.Proofs.Run.Verbosity
import ClusterAgent.Proofs.Run.Secrecy
import ClusterAgent.Proofs.Statistics.Sums
import ClusterAgent.Proofs.Pods.Partition
import ClusterAgent.Proofs.Number.Nonnegative
import ClusterAgent.Proofs.Pods.Limits
import ClusterAgent.Proofs.Pods.Unlimited
import ClusterAgent.Proofs.Quantity.Numerals
import ClusterAgent.Proofs.Quantity.Suffixes
import ClusterAgent.Proofs.Run.Rethrowing
import ClusterAgent.Proofs.CommandLine.Acceptance
import ClusterAgent.Proofs.Statistics.Timestamps
import ClusterAgent.Proofs.Classification
