import ActionPriority.Main
import ActionPriority.Json.PriorityList
import ActionPriority.Json.Reader
import ActionPriority.Json.Scenario
import ActionPriority.Proofs.Encounter.Atomicity
import ActionPriority.Proofs.Encounter.Cuts
import ActionPriority.Proofs.Encounter.Rounds
import ActionPriority.Proofs.Runes.Regeneration
import ActionPriority.Proofs.PriorityList.DecisionPoints
import ActionPriority.Proofs.PriorityList.MissedActions
import ActionPriority.Proofs.PriorityList.SeedIndependence
import ActionPriority.Proofs.Encounter.Lifetime
import ActionPriority.Proofs.Encounter.Activity
import ActionPriority.Proofs.Encounter.Spacing
import ActionPriority.Proofs.PriorityList.InertEntries
import ActionPriority.Proofs.PriorityList.WholeTrials
import ActionPriority.Proofs.Condition.Compiling
import ActionPriority.Proofs.Time.Lengths
import ActionPriority.Proofs.Condition.WellFormed
import ActionPriority.Proofs.Condition.Strictness
import ActionPriority.Proofs.PriorityList.Warnings
import ActionPriority.Proofs.Condition.DroppedOperands
import ActionPriority.Proofs.Encounter.Steering
import ActionPriority.Proofs.PriorityList.Reading
import ActionPriority.Proofs.PriorityList.Recompiling
import ActionPriority.Proofs.PriorityList.ActionLimit
import ActionPriority.Proofs.PriorityList.FixedAim
import ActionPriority.Proofs.PriorityList.Isolation
import ActionPriority.Proofs.Encounter.Stillness
import ActionPriority.Proofs.PriorityList.Waiting
import ActionPriority.Proofs.Condition.Aggregates
import ActionPriority.Proofs.Runes.Affordability
import ActionPriority.Proofs.Runes.Timers
import ActionPriority.Proofs.Encounter.Footprint
import ActionPriority.Proofs.Condition.FreshSnapshots
import ActionPriority.Proofs.Encounter.Commuting
import ActionPriority.Proofs.Encounter.Refusals
import ActionPriority.Proofs.Encounter.Roster
import ActionPriority.Proofs.Scenario.Faults
import ActionPriority.Proofs.Scenario.SetUp
import ActionPriority.Proofs.Time.Rounding
