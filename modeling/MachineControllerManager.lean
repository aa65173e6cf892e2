import MachineControllerManager.Go.Int32
import MachineControllerManager.Api.Labels
import MachineControllerManager.Api.Objects
import MachineControllerManager.Api.Server
import MachineControllerManager.Api.Run
import MachineControllerManager.Controller.Helpers
import MachineControllerManager.Controller.Drain
import MachineControllerManager.Controller.Select
import MachineControllerManager.Controller.Sync
import MachineControllerManager.Controller.Transfer
import MachineControllerManager.Controller.Rollout
import MachineControllerManager.Controller.Concurrency
import MachineControllerManager.Controller.Budget
import MachineControllerManager.Controller.CallRanges
import MachineControllerManager.Controller.Availability
import MachineControllerManager.Controller.Conservation
import MachineControllerManager.Controller.Frame
import MachineControllerManager.Controller.Effects
import MachineControllerManager.Controller.Versions
import MachineControllerManager.Controller.Ownership
import MachineControllerManager.Controller.Progress
import MachineControllerManager.Controller.Round
import MachineControllerManager.Controller.Marking
