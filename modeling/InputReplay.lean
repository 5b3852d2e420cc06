import InputReplay.Number.Digits
import InputReplay.Text.Blank
import InputReplay.Text.LowerCase
import InputReplay.Text.Quoted
import InputReplay.Key.Names
import InputReplay.Command.Parser
import InputReplay.Document.Json
import InputReplay.Settings.File
import InputReplay.Gesture.Script
import InputReplay.Play.Player
import InputReplay.Desktop.Controller
import InputReplay.Log.Basic
import InputReplay.Observe.Listener
import InputReplay.Session.Live
import InputReplay.CommandLine.Perform
import InputReplay.Rehearsal.Terminal
import InputReplay.Main
import InputReplay.Proofs.Attempt
import InputReplay.Proofs.Held
import InputReplay.Proofs.Release
import InputReplay.Proofs.Cleanup
import InputReplay.Proofs.BrokenOff
import InputReplay.Proofs.Batch
import InputReplay.Proofs.Containment
import InputReplay.Proofs.Callers
import InputReplay.Proofs.Stopping
import InputReplay.Proofs.Heeding
import InputReplay.Proofs.Pacing
import InputReplay.Proofs.Afresh
import InputReplay.Proofs.Utf8
import InputReplay.Proofs.Whole
import InputReplay.Proofs.Saving
import InputReplay.Proofs.Names
import InputReplay.Proofs.Export
import InputReplay.Proofs.Echo
import InputReplay.Proofs.Fields
import InputReplay.Proofs.Buffer
import InputReplay.Proofs.Numeral
import InputReplay.Proofs.Grammar
import InputReplay.Proofs.Alike
import InputReplay.Proofs.Desk
import InputReplay.Proofs.DryRun
import InputReplay.Proofs.Leaves
import InputReplay.Proofs.Nesting
import InputReplay.Proofs.Expansion
import InputReplay.Proofs.Asking
import InputReplay.Proofs.Overreach
import InputReplay.Proofs.Typing
import InputReplay.Proofs.Overflow
import InputReplay.Proofs.Refusal
import InputReplay.Proofs.LineEnds
import InputReplay.Proofs.Recasing
import InputReplay.Proofs.Shortcut
import InputReplay.Proofs.Rounding
import InputReplay.Proofs.Scrolling
import InputReplay.Proofs.Dragging
import InputReplay.Proofs.Resting
import InputReplay.Proofs.Scripting
import InputReplay.Proofs.Agreement
import InputReplay.Proofs.Spelling
