import ClassPurge.Css.Record
import ClassPurge.Main
import ClassPurge.Proofs.Blocking
import ClassPurge.Proofs.Command.Extraction
import ClassPurge.Proofs.Command.Untouched
import ClassPurge.Proofs.Config.Loading
import ClassPurge.Proofs.Config.Overrides
import ClassPurge.Proofs.Css.Budgets
import ClassPurge.Proofs.Css.Contents
import ClassPurge.Proofs.Css.Declarations
import ClassPurge.Proofs.Css.LostBrace
import ClassPurge.Proofs.Css.QuotedPattern
import ClassPurge.Proofs.Css.RuleTree
import ClassPurge.Proofs.Extract.Page
import ClassPurge.Proofs.Extract.Registrations
import ClassPurge.Proofs.Files.Alternatives
import ClassPurge.Proofs.Files.Ignoring
import ClassPurge.Proofs.Files.Relocation
import ClassPurge.Proofs.HexEscapes
import ClassPurge.Proofs.KeepFlags
import ClassPurge.Proofs.Reemission
import ClassPurge.Proofs.RelevantClasses
import ClassPurge.Proofs.Report.Counts
import ClassPurge.Proofs.Repurging
import ClassPurge.Proofs.RuleText
import ClassPurge.Proofs.RunState
import ClassPurge.Proofs.UsedClass
import ClassPurge.Report.Fields
