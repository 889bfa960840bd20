import ControlPlane.Js.Value
import ControlPlane.Js.Text
import ControlPlane.Interaction.Prog
import ControlPlane.Webhook.Config
import ControlPlane.Webhook.Allowlist
import ControlPlane.Webhook.Body
import ControlPlane.Webhook.Interleaving
import ControlPlane.Webhook.Authorisation
import ControlPlane.Webhook.Throwing
import ControlPlane.Webhook.DedupKeys
import ControlPlane.Webhook.Reading
import ControlPlane.Webhook.Grants
import ControlPlane.Interaction.Once
import ControlPlane.Webhook.Response
import ControlPlane.Webhook.Noninterference
import ControlPlane.Export.Filter
import ControlPlane.Export.Tree
import ControlPlane.Export.Walk
import ControlPlane.Export.Refinement
import ControlPlane.Export.Names
import ControlPlane.Export.Restore
import ControlPlane.Railway.Effects
import ControlPlane.Railway.Services
import ControlPlane.Railway.UpdateRef
import ControlPlane.Railway.Confirmation
import ControlPlane.Railway.LiveUpdate
import ControlPlane.Railway.Instance
import ControlPlane.Railway.Provision
import ControlPlane.Railway.Rollover
import ControlPlane.Interaction.Hoare
import ControlPlane.Railway.Routing
import ControlPlane.Railway.Install
import ControlPlane.Railway.Origins
import ControlPlane.Setup.Apply
import ControlPlane.Setup.Regression
import ControlPlane.Setup.Orphans
import ControlPlane.Setup.Cleanup
import ControlPlane.Setup.Readiness
import ControlPlane.Setup.DryRun
import ControlPlane.Js.Stringify
import ControlPlane.Setup.Takeover
import ControlPlane.Setup.DeadKeys
import ControlPlane.Interaction.EventLoop
import ControlPlane.Wrapper.Gateway
import ControlPlane.Substitution.Layout
import ControlPlane.Wrapper.PatchLaws
import ControlPlane.Stream.Disclosure
import ControlPlane.Secrecy.Applier
import ControlPlane.Coverage.Faithful
import ControlPlane.Cli.Grammar
import ControlPlane.Railway.EnvFile
import ControlPlane.Railway.Spelling
import ControlPlane.Stream.Sink
import ControlPlane.Webhook.History
import ControlPlane.Setup.OnboardOrder
import ControlPlane.Stream.PatchRuns
import ControlPlane.Build.Relax
import ControlPlane.Setup.CycleSessions
import ControlPlane.Workspace.Import
import ControlPlane.Railway.Operators
import ControlPlane.Railway.TemplateLock
import ControlPlane.Setup.ProfileLaws
