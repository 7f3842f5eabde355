import FipsAudit.CommandLine
import FipsAudit.Host.Machine
import FipsAudit.Main
import FipsAudit.Proofs.Audit.Lifecycle
import FipsAudit.Proofs.Audit.Presentation
import FipsAudit.Proofs.BuildInfo.Checked.Extraction
import FipsAudit.Proofs.BuildInfo.EmptyString
import FipsAudit.Proofs.BuildInfo.Inline
import FipsAudit.Proofs.BuildInfo.ModuleText
import FipsAudit.Proofs.BuildInfo.Pointer
import FipsAudit.Proofs.BuildInfo.RegionLimit
import FipsAudit.Proofs.CommandLine
import FipsAudit.Proofs.Inspection
import FipsAudit.Proofs.LibraryRoot
import FipsAudit.Proofs.LibraryVerdict
import FipsAudit.Proofs.Policy.Load
import FipsAudit.Proofs.Policy.Reasons
import FipsAudit.Proofs.Policy.Visibility
import FipsAudit.Proofs.Shell.Quoted
import FipsAudit.Proofs.Tally
import FipsAudit.Proofs.Toolchain.Spelling
import FipsAudit.Proofs.BuildInfo.Override
import FipsAudit.Proofs.Policy.VersionGate
import FipsAudit.Proofs.BuildInfo.SettingGrammar
import FipsAudit.Proofs.FileSystem.Rearranged
import FipsAudit.Proofs.ListingOrder
import FipsAudit.Proofs.BuildInfo.HeaderSearch
import FipsAudit.Proofs.BuildInfo.Numeral
import FipsAudit.Proofs.Classification
import FipsAudit.Proofs.ReportedPath
