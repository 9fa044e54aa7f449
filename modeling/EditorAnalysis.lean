import EditorAnalysis.Main
import EditorAnalysis.Mount
import EditorAnalysis.Proofs.CommandLine.LiveAgain
import EditorAnalysis.Proofs.Path.Key
import EditorAnalysis.Proofs.Project.DamagedCache
import EditorAnalysis.Proofs.Registry.Bearing
import EditorAnalysis.Proofs.Registry.TwoKeys
import EditorAnalysis.Proofs.Registry.Resolution
import EditorAnalysis.Proofs.Session.KnownVersion
import EditorAnalysis.Proofs.Version.EditorMode
import EditorAnalysis.Session
import EditorAnalysis.Proofs.Console.Codes
import EditorAnalysis.Proofs.Json.Array
import EditorAnalysis.Proofs.Text.ShellWord
import EditorAnalysis.Proofs.CommandLine.Rendering
import EditorAnalysis.Proofs.Settings.Assignment
import EditorAnalysis.Proofs.Project.Precedence
import EditorAnalysis.Proofs.CommandLine.GivenVersion
import EditorAnalysis.Proofs.Version.Introduced
import EditorAnalysis.Proofs.Version.Grammar
import EditorAnalysis.Proofs.Command.EmptyWord
import EditorAnalysis.Proofs.Command.Decoding
import EditorAnalysis.Proofs.Command.LiveAndBatch
import EditorAnalysis.Proofs.Path.Normal
import EditorAnalysis.Proofs.Project.Feedback
import EditorAnalysis.Proofs.Project.WithheldOverride
import EditorAnalysis.Proofs.Version.Canonical
import EditorAnalysis.Proofs.Message
import EditorAnalysis.Proofs.Project.LastSave
import EditorAnalysis.Proofs.Execution.StoppedOutput
import EditorAnalysis.Proofs.CommandLine.SettingsShown
