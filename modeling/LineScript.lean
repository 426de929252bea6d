import LineScript.Batch
import LineScript.Broadcast
import LineScript.CommandLine
import LineScript.Compile
import LineScript.Context
import LineScript.Declaration
import LineScript.Draws
import LineScript.Exec
import LineScript.Exec.Fold
import LineScript.Exec.Lists
import LineScript.Exec.Stored
import LineScript.Files
import LineScript.Finding
import LineScript.Host
import LineScript.Instruction
import LineScript.Invocation
import LineScript.KeyMap
import LineScript.List.Catalogue
import LineScript.List.Desk
import LineScript.List.Sorting
import LineScript.List.View
import LineScript.Main
import LineScript.Name
import LineScript.Operand
import LineScript.Parameter
import LineScript.Pattern
import LineScript.Proofs.Alike
import LineScript.Proofs.Arguments
import LineScript.Proofs.Aside
import LineScript.Proofs.Atomic
import LineScript.Proofs.Binding
import LineScript.Proofs.Budget
import LineScript.Proofs.Cadence
import LineScript.Proofs.Changes
import LineScript.Proofs.CommandWords
import LineScript.Proofs.Commands
import LineScript.Proofs.Copies
import LineScript.Proofs.CursorState
import LineScript.Proofs.Diagnosis
import LineScript.Proofs.Displayed
import LineScript.Proofs.Editing
import LineScript.Proofs.ExactFolds
import LineScript.Proofs.Executed
import LineScript.Proofs.ExitStatus
import LineScript.Proofs.Filing
import LineScript.Proofs.Firsts
import LineScript.Proofs.Flatten
import LineScript.Proofs.Guarded
import LineScript.Proofs.Halves
import LineScript.Proofs.HandsBack
import LineScript.Proofs.Intact
import LineScript.Proofs.Isolation
import LineScript.Proofs.KeptOut
import LineScript.Proofs.KeyOrder
import LineScript.Proofs.Landing
import LineScript.Proofs.Ledger
import LineScript.Proofs.LineByLine
import LineScript.Proofs.LineFaults
import LineScript.Proofs.ListFrame
import LineScript.Proofs.LockAccount
import LineScript.Proofs.NeverWaits
import LineScript.Proofs.OpenRecords
import LineScript.Proofs.OptionUses
import LineScript.Proofs.Output
import LineScript.Proofs.OwnVariables
import LineScript.Proofs.Payloads
import LineScript.Proofs.Presence
import LineScript.Proofs.Quoting
import LineScript.Proofs.Readers
import LineScript.Proofs.Refusals
import LineScript.Proofs.Scans
import LineScript.Proofs.SettingLines
import LineScript.Proofs.SettingsFrame
import LineScript.Proofs.SmartCase
import LineScript.Proofs.SortOrder
import LineScript.Proofs.Sorting
import LineScript.Proofs.StableSort
import LineScript.Proofs.Steps
import LineScript.Proofs.Stores
import LineScript.Proofs.Sweep
import LineScript.Proofs.TimeFormats
import LineScript.Proofs.Transparent
import LineScript.Proofs.Uniform
import LineScript.Proofs.Unobserved
import LineScript.Proofs.Unrelated
import LineScript.Proofs.World
import LineScript.Proofs.Written
import LineScript.Proofs.ZeroBudget
import LineScript.Record
import LineScript.Regex.Age
import LineScript.Regex.Binary
import LineScript.Regex.Break
import LineScript.Regex.ByteRange
import LineScript.Regex.Category
import LineScript.Regex.CharSet
import LineScript.Regex.Fold
import LineScript.Regex.Matcher
import LineScript.Regex.Parser
import LineScript.Regex.Program
import LineScript.Regex.Property
import LineScript.Regex.ScriptName
import LineScript.Regex.Syntax
import LineScript.Regex.Weight
import LineScript.Remark
import LineScript.Scheduler
import LineScript.Script
import LineScript.Settings
import LineScript.Special
import LineScript.Statement
import LineScript.Statement.Grammar
import LineScript.Storage
import LineScript.Tail
import LineScript.Text.Blank
import LineScript.Text.Case
import LineScript.Text.CodeRuns
import LineScript.Text.Decimal
import LineScript.Text.Letter
import LineScript.Text.Quoted
import LineScript.Time.Duration
import LineScript.Time.Format
import LineScript.Time.Moment
import LineScript.Trigger
import LineScript.Value
import LineScript.ValueMap
