import StoryShell.Completion
import StoryShell.Main
import StoryShell.Proofs.Config
import StoryShell.Proofs.Path.Canonical
import StoryShell.Proofs.Terminal.Pipeline
import StoryShell.Proofs.Tree.Ordered
import StoryShell.Proofs.Builtin.Requests
import StoryShell.Proofs.NameMap
import StoryShell.Proofs.Words
import StoryShell.Proofs.Tree.Home
import StoryShell.Proofs.Terminal.Standard
import StoryShell.Proofs.Terminal.Moves
import StoryShell.Proofs.World.Connections
import StoryShell.Proofs.World.CurrentDirectory
import StoryShell.Proofs.Builtin.Blindness
import StoryShell.Proofs.Terminal.Secrecy
import StoryShell.Proofs.Terminal.Conversations
import StoryShell.Proofs.Terminal.LoginInForce
import StoryShell.Proofs.Terminal.Connecting
import StoryShell.Proofs.Terminal.Playable
import StoryShell.Proofs.Terminal.Actions
import StoryShell.Proofs.Path.Resolving
import StoryShell.Proofs.Words.Spelling
import StoryShell.Proofs.Tree.Edits
import StoryShell.Proofs.Tree.Mounting
import StoryShell.Proofs.Tree.Descendants
import StoryShell.Proofs.Terminal.FaithfulHistory
import StoryShell.Proofs.Terminal.Origins
import StoryShell.Proofs.CommandTable
import StoryShell.Proofs.Completion
import StoryShell.Proofs.Terminal.HiddenNodes
import StoryShell.Proofs.Tree.Refusals
import StoryShell.Proofs.Terminal.Echoing
import StoryShell.Proofs.Text.ByteLines
import StoryShell.Proofs.Cli.Records
import StoryShell.Proofs.Cli.Transcript
import StoryShell.Proofs.Tree.Unmounting
import StoryShell.Proofs.Tree.IndependentMounts
import StoryShell.Proofs.Path.Stages
import StoryShell.Proofs.Changes
import StoryShell.Proofs.Changes.Streams
import StoryShell.Proofs.Terminal.Frames
import StoryShell.Proofs.Terminal.FailedLogins
import StoryShell.Proofs.Text.Lowercase
import StoryShell.Proofs.Search
import StoryShell.Proofs.Words.Cutting
import StoryShell.Proofs.Search.Agreement
import StoryShell.Proofs.Completion.Rules
import StoryShell.Proofs.CommandTable.Overview
import StoryShell.Proofs.Config.Acceptance
import StoryShell.Proofs.CommandTable.AnyOrder
import StoryShell.Proofs.CommandTable.Grouping
import StoryShell.Proofs.Recall
import StoryShell.Proofs.History.Columns
import StoryShell.Proofs.Path.Within
import StoryShell.Proofs.Tree.EntryNames
import StoryShell.Proofs.Cli.Arguments
import StoryShell.Proofs.Terminal.Footprints
import StoryShell.Proofs.Terminal.OrderedTrees
