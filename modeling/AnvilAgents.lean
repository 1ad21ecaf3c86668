import AnvilAgents.Proofs.Controller.ExecutionOver
import AnvilAgents.Proofs.Controller.Admission
import AnvilAgents.Proofs.Controller.PreparedLaunch
import AnvilAgents.Proofs.Standing.ClaimedReply
import AnvilAgents.Proofs.Standing.Deadlock
import AnvilAgents.Proofs.Chat.Completion
import AnvilAgents.Proofs.Chat.Retries
import AnvilAgents.Proofs.Chat.Interchange
import AnvilAgents.Proofs.Trigger.Delivery
import AnvilAgents.Proofs.Automation.Schedule.Replay
import AnvilAgents.Proofs.Automation.Chain.Cancel
import AnvilAgents.Proofs.RunAPI.LogOwnership
import AnvilAgents.Proofs.RunAPI.CompositionOwnership
import AnvilAgents.Proofs.Controller.LaunchPause
import AnvilAgents.Proofs.Controller.PeerRuns
import AnvilAgents.Proofs.Automation.Chain.Backoff
import AnvilAgents.Proofs.Automation.Schedule.NextTick
import AnvilAgents.Proofs.Automation.Chain.Slots
import AnvilAgents.Proofs.Controller.LogReports
import AnvilAgents.Proofs.RunAPI.LogBudget
import AnvilAgents.Proofs.RunAPI.CompositionLists
import AnvilAgents.Proofs.Standing.TokenOrder
import AnvilAgents.Proofs.Controller.ChildNames
import AnvilAgents.Proofs.Controller.VolumeCopies
import AnvilAgents.Proofs.Standing.SelectedHarness
import AnvilAgents.Proofs.Controller.MergedLayers
import AnvilAgents.Proofs.Desktop.JsonLines
import AnvilAgents.Proofs.Desktop.StatusLines
import AnvilAgents.Proofs.Controller.Actors
