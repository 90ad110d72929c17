import AbapAtlas.Disk.Edit
import AbapAtlas.Main
import AbapAtlas.Proofs.Catalogue
import AbapAtlas.Proofs.ClassText
import AbapAtlas.Proofs.DeclaredLogic
import AbapAtlas.Proofs.EncodedLocation
import AbapAtlas.Proofs.FindingsFile
import AbapAtlas.Proofs.Fingerprint
import AbapAtlas.Proofs.IndexFailure
import AbapAtlas.Proofs.IssuePerFinding
import AbapAtlas.Proofs.LineEnds
import AbapAtlas.Proofs.Locate
import AbapAtlas.Proofs.MethodStatement
import AbapAtlas.Proofs.ObjectFile
import AbapAtlas.Proofs.PackageTree
import AbapAtlas.Proofs.Placement
import AbapAtlas.Proofs.PlannedPaths
import AbapAtlas.Proofs.ProperPath
import AbapAtlas.Proofs.Reimport
import AbapAtlas.Proofs.ReportFile
import AbapAtlas.Proofs.ReportedLine
import AbapAtlas.Proofs.SettingsFile
import AbapAtlas.Proofs.SettingsOverride
import AbapAtlas.Proofs.Snapshot
import AbapAtlas.Proofs.SourceFiles
import AbapAtlas.Proofs.SourceFolder
import AbapAtlas.Proofs.Summary
import AbapAtlas.Proofs.LocationSearch
