import OutlineNav.Main
import OutlineNav.Server.Scripted
import OutlineNav.Proofs.Repair
import OutlineNav.Proofs.ReachableStates
import OutlineNav.Proofs.TreeWalk
import OutlineNav.Proofs.Unwinding
import OutlineNav.Proofs.Synchronization
import OutlineNav.Proofs.FailedWrites
import OutlineNav.Proofs.CacheHistory
import OutlineNav.Proofs.RequestEndings
import OutlineNav.Proofs.Farewell
import OutlineNav.Proofs.Starts
import OutlineNav.Proofs.StaleHandles
import OutlineNav.Proofs.Independence
import OutlineNav.Proofs.Echoes
import OutlineNav.Proofs.MessageTexts
import OutlineNav.Proofs.Conservation
import OutlineNav.Proofs.Nesting
import OutlineNav.Proofs.Truncation
import OutlineNav.Proofs.Pruning
import OutlineNav.Proofs.FoldedLines
import OutlineNav.Proofs.SiblingOrder
import OutlineNav.Proofs.Settling
import OutlineNav.Proofs.Cursors
import OutlineNav.Proofs.SymbolReplies
import OutlineNav.Proofs.RecordTrees
import OutlineNav.Proofs.DisplayedPositions
import OutlineNav.Proofs.LocationTexts
import OutlineNav.Proofs.PrintedSelections
import OutlineNav.Proofs.FailedCommands
import OutlineNav.Proofs.Precedence
import OutlineNav.Proofs.DocumentAddresses
