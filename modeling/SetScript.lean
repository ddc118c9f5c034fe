import SetScript.Main
import SetScript.Host.FileTree
import SetScript.Cursor
import SetScript.Proofs.Lexical.Lines
import SetScript.Proofs.Lexical.LongestMatch
import SetScript.Proofs.Lexical.UnknownRun
import SetScript.Proofs.Tree.Lossless
import SetScript.Proofs.Tree.Statement
import SetScript.Proofs.Tree.Stack
import SetScript.Proofs.Tree.LiteralEnd
import SetScript.Proofs.Tree.Coordinates
import SetScript.Proofs.Tree.Shape
import SetScript.Proofs.Diagnostic
import SetScript.Proofs.Diagnostic.Statement
import SetScript.Proofs.Diagnostic.Missing
import SetScript.Proofs.Grammar.Errors
import SetScript.Proofs.Rendering
import SetScript.Proofs.Server.Life
import SetScript.Proofs.Diagnostic.Families
import SetScript.Proofs.Tree.Preorder
import SetScript.Proofs.Config.Schema
import SetScript.Proofs.Server.Settings
import SetScript.Proofs.Tree.Records
import SetScript.Proofs.Uri
