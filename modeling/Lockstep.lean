import Lockstep.Behavior
import Lockstep.Behavior.Authored
import Lockstep.Behavior.Container
import Lockstep.Behavior.Library
import Lockstep.Behavior.Listing
import Lockstep.Bytes
import Lockstep.Bytes.Text
import Lockstep.Command
import Lockstep.CommandLine.Arguments
import Lockstep.CommandLine.Dump
import Lockstep.CommandLine.Engine
import Lockstep.CommandLine.Help
import Lockstep.CommandLine.Observer
import Lockstep.CommandLine.Program
import Lockstep.Datum
import Lockstep.Datum.Enumeration
import Lockstep.Datum.Written
import Lockstep.Diagnosis
import Lockstep.Digest
import Lockstep.Entity
import Lockstep.Entity.Appearance
import Lockstep.Files
import Lockstep.Identity
import Lockstep.Inspection
import Lockstep.Json.Magnitude
import Lockstep.Json.Printer
import Lockstep.Json.Reader
import Lockstep.Machine
import Lockstep.Main
import Lockstep.Message
import Lockstep.Message.Frame
import Lockstep.Message.Router
import Lockstep.Operand
import Lockstep.Operand.Data
import Lockstep.Operand.Display
import Lockstep.Operand.Flags
import Lockstep.Operand.Layout
import Lockstep.Packed
import Lockstep.Primitive.Context
import Lockstep.Primitive.Fault
import Lockstep.Primitive.Run
import Lockstep.Random
import Lockstep.Relay
import Lockstep.Replica
import Lockstep.Server
import Lockstep.Server.Address
import Lockstep.Simulation
import Lockstep.Sound
import Lockstep.State
import Lockstep.Table
import Lockstep.Text.Blank
import Lockstep.Text.Cut
import Lockstep.Text.Hidden
import Lockstep.Text.Numeral
import Lockstep.Text.Quoted
import Lockstep.Thread
import Lockstep.Thread.Fault
import Lockstep.Thread.Turn
import Lockstep.Thread.Unwind
import Lockstep.Tick
import Lockstep.Tick.Commands
import Lockstep.Tick.Deltas
import Lockstep.Trace
import Lockstep.World
import Lockstep.World.Manifest
import Lockstep.Proofs.Datum.RoundTrip
import Lockstep.Proofs.Packed.RoundTrip
import Lockstep.Proofs.State.Snapshot
import Lockstep.Proofs.Machine.History
import Lockstep.Proofs.Replica.InStep
import Lockstep.Proofs.Entity.Field
import Lockstep.Proofs.State.Edit
import Lockstep.Proofs.Primitive.Outcomes
import Lockstep.Proofs.Primitive.Edited
import Lockstep.Proofs.Tick.Edited
import Lockstep.Proofs.Sound.Log
import Lockstep.Proofs.State.Numbered
import Lockstep.Proofs.Sound.Bookkeeping
import Lockstep.Proofs.Sound.History
import Lockstep.Proofs.Relay.Delivery
import Lockstep.Proofs.Primitive.Frame
import Lockstep.Proofs.Thread.Keyed
import Lockstep.Proofs.Thread.Leaves
import Lockstep.Proofs.Tick.Parked
import Lockstep.Proofs.Thread.Registry
import Lockstep.Proofs.Thread.History
import Lockstep.Proofs.State.Avatars
import Lockstep.Proofs.Command.Standing
import Lockstep.Proofs.Relay.Standing
import Lockstep.Proofs.Tick.Vacant
import Lockstep.Proofs.Entity.Links
import Lockstep.Proofs.State.Lasting
import Lockstep.Proofs.State.Population
import Lockstep.Proofs.World.Instantiate
import Lockstep.Proofs.Relay.Departure
import Lockstep.Proofs.Packed.Size
import Lockstep.Proofs.Message.Size
import Lockstep.Proofs.Tick.Population
import Lockstep.Proofs.Tick.Deltas
import Lockstep.Proofs.Tick.Broadcast
import Lockstep.Proofs.Relay.Broadcast
import Lockstep.Proofs.Tick.Moments
import Lockstep.Proofs.Entity.History
import Lockstep.Proofs.Packed.Shallow
import Lockstep.Proofs.Datum.Variant
import Lockstep.Proofs.Message.RoundTrip
import Lockstep.Proofs.Message.Frame
import Lockstep.Proofs.Message.Stream
import Lockstep.Proofs.Behavior.Container
import Lockstep.Proofs.Operand.Layout
import Lockstep.Proofs.Behavior.Authored
import Lockstep.Proofs.Primitive.Discreet
import Lockstep.Proofs.Thread.Placed
import Lockstep.Proofs.Tick.Warranted
import Lockstep.Proofs.World.Authored
import Lockstep.Proofs.Relay.Rejection
import Lockstep.Proofs.Avatar.Departure
import Lockstep.Proofs.Tick.Report
import Lockstep.Proofs.Table.Ledger
import Lockstep.Proofs.Thread.References
import Lockstep.Proofs.State.Passage
import Lockstep.Proofs.State.Births
import Lockstep.Proofs.Tick.Route
import Lockstep.Proofs.Machine.Chronicle
import Lockstep.Proofs.Machine.Births
import Lockstep.Proofs.Machine.Churn
import Lockstep.Proofs.Avatar.History
import Lockstep.Proofs.Identity.History
import Lockstep.Proofs.Replica.Handling
import Lockstep.Proofs.Replica.Failure
import Lockstep.Proofs.Replica.Consecutive
import Lockstep.Proofs.Avatar.Effect
import Lockstep.Proofs.Relay.Effect
import Lockstep.Proofs.Thread.Spares
import Lockstep.Proofs.Tick.Starts
import Lockstep.Proofs.Thread.Listed
import Lockstep.Proofs.State.Without
import Lockstep.Proofs.Primitive.Without
import Lockstep.Proofs.Thread.Without
import Lockstep.Proofs.Tick.Without
import Lockstep.Proofs.Thread.Stuck
import Lockstep.Proofs.Tick.Stuck
import Lockstep.Proofs.Path
import Lockstep.Proofs.Thread.Becomes
import Lockstep.Proofs.Thread.Parts
import Lockstep.Proofs.Tick.Advance
import Lockstep.Proofs.Tick.Loaded
import Lockstep.Proofs.World.Loaded
import Lockstep.Proofs.Thread.Private
import Lockstep.Proofs.Thread.Waiting
import Lockstep.Proofs.Thread.Kept
import Lockstep.Proofs.Tick.Waiting
import Lockstep.Proofs.Machine.Waiting
import Lockstep.Proofs.Entity.Burdens
import Lockstep.Proofs.Primitive.Burdens
import Lockstep.Proofs.Machine.Burdens
import Lockstep.Proofs.Thread.Budget
import Lockstep.Proofs.Tick.Budget
import Lockstep.Proofs.Primitive.Atomic
import Lockstep.Proofs.Primitive.Reach
import Lockstep.Proofs.Command.Outcomes
import Lockstep.Proofs.Command.Respect
import Lockstep.Proofs.Machine.Respect
import Lockstep.Proofs.Message.Boundary
import Lockstep.Proofs.Behavior.Cut
import Lockstep.Proofs.Simulation.Script
import Lockstep.Proofs.Thread.Outcomes
import Lockstep.Proofs.Thread.Exits
import Lockstep.Proofs.Thread.Faults
import Lockstep.Proofs.Thread.Executions
import Lockstep.Proofs.Thread.Bounded
