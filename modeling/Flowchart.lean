import Flowchart.CommandLine.Session
import Flowchart.Main
import Flowchart.Script.Running
import Flowchart.Proofs.Success
import Flowchart.Proofs.Table
import Flowchart.Proofs.Graph
import Flowchart.Proofs.Walk
import Flowchart.Proofs.Blocks
import Flowchart.Proofs.Acceptance
import Flowchart.Proofs.Execution
import Flowchart.Proofs.Expressions
import Flowchart.Proofs.Names
import Flowchart.Proofs.Accesses
import Flowchart.Proofs.Scope
import Flowchart.Proofs.Exposed
import Flowchart.Proofs.Image
import Flowchart.Proofs.Declarations
import Flowchart.Proofs.Returns
import Flowchart.Proofs.Meaning
import Flowchart.Proofs.Renaming
import Flowchart.Proofs.Agreement
import Flowchart.Proofs.Resemblance
import Flowchart.Proofs.Correspondence
import Flowchart.Proofs.Emission
import Flowchart.Proofs.Extension
import Flowchart.Proofs.Passes
import Flowchart.Proofs.Rewriting
import Flowchart.Proofs.Order
import Flowchart.Proofs.Documentation
import Flowchart.Proofs.Nodes
import Flowchart.Proofs.Repetitions
import Flowchart.Proofs.Escapes
import Flowchart.Proofs.Terminators
import Flowchart.Proofs.DocBlocks
import Flowchart.Proofs.Rounding
import Flowchart.Proofs.Numerals
import Flowchart.Proofs.Legible
import Flowchart.Proofs.Reader
import Flowchart.Proofs.ReadBack
import Flowchart.Proofs.Readability
import Flowchart.Proofs.Errors
import Flowchart.Proofs.Defects
import Flowchart.Proofs.Reports
import Flowchart.Proofs.Statements
import Flowchart.Proofs.Types
import Flowchart.Proofs.Assignments
import Flowchart.Proofs.Members
import Flowchart.Proofs.Scanners
import Flowchart.Proofs.EntryPoints
import Flowchart.Proofs.EntryFunctions
import Flowchart.Proofs.Creations
import Flowchart.Proofs.Objects
import Flowchart.Proofs.Initialization
import Flowchart.Proofs.Lookup
import Flowchart.Proofs.DeclaredNames
import Flowchart.Proofs.Conversion
import Flowchart.Proofs.Ancestors
import Flowchart.Proofs.Rooted
import Flowchart.Proofs.Ways
import Flowchart.Proofs.Growth
import Flowchart.Proofs.Contents
import Flowchart.Proofs.Writing
import Flowchart.Proofs.Publication
import Flowchart.Proofs.NamePaths
import Flowchart.Proofs.Traversal
import Flowchart.Proofs.Identifiers
import Flowchart.Proofs.Recording
import Flowchart.Proofs.Logs
import Flowchart.Proofs.GivenParameters
import Flowchart.Proofs.Stages
import Flowchart.Proofs.Braces
import Flowchart.Proofs.Indentation
import Flowchart.Proofs.Patterns
import Flowchart.Proofs.Readings
import Flowchart.Proofs.Actions
import Flowchart.Proofs.Evaluations
import Flowchart.Proofs.Builtins
import Flowchart.Proofs.Processes
import Flowchart.Proofs.Commands
import Flowchart.Proofs.Surroundings
import Flowchart.Proofs.Launches
