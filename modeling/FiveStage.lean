import FiveStage.Asm.Diagnostic
import FiveStage.Asm.Layout
import FiveStage.Asm.Listing
import FiveStage.Asm.Row
import FiveStage.Asm.Statement
import FiveStage.Batch
import FiveStage.Binary64
import FiveStage.Catalog
import FiveStage.Entries
import FiveStage.Fault
import FiveStage.Isa.Control
import FiveStage.Isa.Instruction
import FiveStage.Isa.Opcode
import FiveStage.Limit
import FiveStage.Machine.Core
import FiveStage.Machine.Counters
import FiveStage.Machine.Memory
import FiveStage.Machine.Registers
import FiveStage.Pipeline.Cycle
import FiveStage.Pipeline.CycleLog
import FiveStage.Pipeline.Hazard
import FiveStage.Pipeline.Latch
import FiveStage.Pipeline.Snapshot
import FiveStage.Proofs.Asm.Assembly
import FiveStage.Proofs.Asm.Grammar
import FiveStage.Proofs.Asm.Reading
import FiveStage.Proofs.Asm.Rows
import FiveStage.Proofs.Asm.Source
import FiveStage.Proofs.Asm.WellFormed
import FiveStage.Proofs.Machine.Commit
import FiveStage.Proofs.Pipeline.Advance
import FiveStage.Proofs.Pipeline.Bypass
import FiveStage.Proofs.Pipeline.Halting
import FiveStage.Proofs.Pipeline.HazardCounts
import FiveStage.Proofs.Pipeline.InFlight
import FiveStage.Proofs.Pipeline.Operands
import FiveStage.Proofs.Pipeline.Refinement
import FiveStage.Proofs.Pipeline.Run
import FiveStage.Proofs.Pipeline.Timing
import FiveStage.Proofs.Pipeline.Tracking
import FiveStage.Proofs.Sequential.Path
import FiveStage.Proofs.Sequential.Schedule
import FiveStage.Proofs.Text.Numeral
import FiveStage.Proofs.Text.Trim
import FiveStage.Report
import FiveStage.Sequential
import FiveStage.Service.Endpoint
import FiveStage.Service.Form
import FiveStage.Service.Key
import FiveStage.Service.Payload
import FiveStage.Service.Reading
import FiveStage.Service.Sessions
import FiveStage.Session
import FiveStage.Simulator
import FiveStage.Text.Blank
import FiveStage.Text.CaseTable
import FiveStage.Text.Digit
import FiveStage.Text.Numeral
import FiveStage.Text.Uppercase
import FiveStage.Word
import FiveStage.Proofs.Machine.Ratios
import FiveStage.Proofs.Pipeline.FaultFree
import FiveStage.Proofs.Simulator.Bench
import FiveStage.Proofs.Asm.Outcomes
import FiveStage.Proofs.Sequential.Forward
import FiveStage.Proofs.Batch.Completion
import FiveStage.Proofs.Session.Timeline
import FiveStage.Proofs.Asm.Faults
import FiveStage.Proofs.Simulator.Seeding
import FiveStage.Proofs.Batch.Results
import FiveStage.Proofs.Service.Table
import FiveStage.Proofs.Session.Loading
import FiveStage.Proofs.Service.Forms
import FiveStage.Proofs.Service.Requests
import FiveStage.Proofs.Service.Discipline
import FiveStage.Proofs.Service.Isolation
import FiveStage.Proofs.Pipeline.CycleLog
import FiveStage.Proofs.Pipeline.Forwards
import FiveStage.Proofs.Simulator.Hazards
import FiveStage.Proofs.Batch.Agreement
import FiveStage.Proofs.Service.Admission
import FiveStage.Proofs.Service.Answers
import FiveStage.Proofs.Pipeline.Flow
import FiveStage.Proofs.Pipeline.Spacing
import FiveStage.Proofs.Pipeline.Order
import FiveStage.Proofs.Simulator.Traffic
import FiveStage.Proofs.Simulator.InOrder
import FiveStage.Proofs.Asm.Anatomy
import FiveStage.Proofs.Asm.Accounting
import FiveStage.Proofs.Asm.Placement
import FiveStage.Proofs.Asm.Locality
import FiveStage.Proofs.Asm.Typography
import FiveStage.Proofs.Session.Faulting
import FiveStage.Proofs.Asm.LastOperand
import FiveStage.Proofs.Asm.BranchNotation
import FiveStage.Proofs.Pipeline.Wordless
import FiveStage.Proofs.Simulator.Wordless
import FiveStage.Proofs.Machine.Shelf
import FiveStage.Proofs.Pipeline.PendingWrites
import FiveStage.Proofs.Pipeline.Faulting
import FiveStage.Proofs.Pipeline.Words
import FiveStage.Proofs.Simulator.Misfits
import FiveStage.Proofs.Pipeline.Interlock
import FiveStage.Proofs.Isa.Alu
import FiveStage.Proofs.Asm.AddressParts
