import ChainLint.Main
import ChainLint.Proofs.Chain.AnyOrder
import ChainLint.Proofs.Chain.Limit
import ChainLint.Proofs.Chain.MoreMethods
import ChainLint.Proofs.Chain.Runs
import ChainLint.Proofs.Chain.SingleCheck
import ChainLint.Proofs.Chain.Skeleton
import ChainLint.Proofs.Comment.Delimiters
import ChainLint.Proofs.Comment.Lines
import ChainLint.Proofs.Config.EntryLanguage
import ChainLint.Proofs.Config.ForeignKeys
import ChainLint.Proofs.Config.ReadBack
import ChainLint.Proofs.Config.StatedLimit
import ChainLint.Proofs.Files.Identity
import ChainLint.Proofs.Lint.Independence
import ChainLint.Proofs.Lint.Merge
import ChainLint.Proofs.Lint.Places
import ChainLint.Proofs.Lint.Translation
import ChainLint.Proofs.Report.FrontEnds
import ChainLint.Proofs.Report.Listing
