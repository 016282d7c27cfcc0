import AstHierarchy.CommandLine.FileTree
import AstHierarchy.Main
import AstHierarchy.Proofs.Outcome
import AstHierarchy.Proofs.Render.Trace
import AstHierarchy.Proofs.Text.Lines
import AstHierarchy.Session
import AstHierarchy.Proofs.Text.Spacing
import AstHierarchy.Proofs.Render.Text
import AstHierarchy.Proofs.Hierarchy.Blocks
import AstHierarchy.Proofs.Template.Line
import AstHierarchy.Proofs.Template.SpanRoundTrip
import AstHierarchy.Proofs.Render.Substitution
import AstHierarchy.Proofs.Text.Lowercase
import AstHierarchy.Proofs.Text.Words
import AstHierarchy.Proofs.Render.Lines
import AstHierarchy.Proofs.Language.Listing
import AstHierarchy.Proofs.Language.Php
import AstHierarchy.Proofs.Language.Java
import AstHierarchy.Proofs.Language.TypeScript
import AstHierarchy.Proofs.Language.Python
import AstHierarchy.Proofs.Language.Dispatch
import AstHierarchy.Proofs.Grammar.RoundTrip
import AstHierarchy.Proofs.Template.Bodies
import AstHierarchy.Proofs.Hierarchy.Lookups
import AstHierarchy.Proofs.Language.Recovery
import AstHierarchy.Proofs.Language.NodeText
import AstHierarchy.Proofs.Render.Units
import AstHierarchy.Proofs.Render.Capacity
import AstHierarchy.Proofs.Render.Indentation
import AstHierarchy.Proofs.Session
import AstHierarchy.Proofs.Grammar.Rejection
import AstHierarchy.Proofs.Template.Faults
import AstHierarchy.Proofs.Template.Sections
import AstHierarchy.Proofs.CommandLine.Arguments
import AstHierarchy.Proofs.CommandLine.Paths
import AstHierarchy.Proofs.CommandLine.Saving
import AstHierarchy.Proofs.CommandLine.Modes
import AstHierarchy.Proofs.Text.Tidy
import AstHierarchy.Proofs.Grammar.Layout
import AstHierarchy.Proofs.Template.LineEndings
import AstHierarchy.Proofs.Render.Delimited
import AstHierarchy.Proofs.Hierarchy.Stages
import AstHierarchy.Proofs.Text.SelfDelimiting
import AstHierarchy.Proofs.Grammar.Dump
import AstHierarchy.Template.Scanner
import AstHierarchy.Proofs.Template.LineScanner
import AstHierarchy.Proofs.Template.SectionScanner
