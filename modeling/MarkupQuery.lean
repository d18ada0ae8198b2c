import MarkupQuery.Collection
import MarkupQuery.Translator
import MarkupQuery.Number.Integer
import MarkupQuery.Encoding.Detection
import MarkupQuery.Transcoding
import MarkupQuery.Field
import MarkupQuery.Xml.Prolog
import MarkupQuery.Xml.Writer
import MarkupQuery.Query.Evaluate
import MarkupQuery.Html.Reader
import MarkupQuery.Html.Writer
import MarkupQuery.Document.Basic
import MarkupQuery.Document.Rewriting
import MarkupQuery.Document.Handle
import MarkupQuery.Console.Cell
import MarkupQuery.Console.Picture
import MarkupQuery.Console.Style
import MarkupQuery.Console.Line
import MarkupQuery.Console.Tagged
import MarkupQuery.Console.Table
import MarkupQuery.Command.Arguments
import MarkupQuery.Command.Run
import MarkupQuery.Config
import MarkupQuery.Main
import MarkupQuery.Proofs.Tree.Identity
import MarkupQuery.Proofs.Tree.Mixed
import MarkupQuery.Proofs.Tree.Outline
import MarkupQuery.Proofs.Tree.Bare
import MarkupQuery.Proofs.Xml.Names
import MarkupQuery.Proofs.Xml.Text
import MarkupQuery.Proofs.Xml.Tags
import MarkupQuery.Proofs.Xml.Lawful
import MarkupQuery.Proofs.Document.Coherence
import MarkupQuery.Proofs.Document.Removal
import MarkupQuery.Proofs.Document.Rewriting
import MarkupQuery.Proofs.Document.Session
import MarkupQuery.Proofs.Document.Staleness
import MarkupQuery.Proofs.Document.Isolation
import MarkupQuery.Proofs.Document.Reparsing
import MarkupQuery.Proofs.Document.Records
import MarkupQuery.Proofs.Document.Remarks
import MarkupQuery.Proofs.Console.Escaping
import MarkupQuery.Proofs.Config.Usable
import MarkupQuery.Proofs.Command.Running
import MarkupQuery.Proofs.Document.Reporting
import MarkupQuery.Proofs.Encoding.Undeclared
import MarkupQuery.Proofs.Document.HandleRemoval
import MarkupQuery.Proofs.Document.NestedText
import MarkupQuery.Proofs.Document.Losing
import MarkupQuery.Proofs.Document.InnerOuter
import MarkupQuery.Proofs.Document.TextRemoval
import MarkupQuery.Proofs.Pattern.Cutting
import MarkupQuery.Proofs.Config.Saving
import MarkupQuery.Proofs.Document.Refusing
import MarkupQuery.Proofs.Document.HtmlText
import MarkupQuery.Proofs.Selector.Conservative
import MarkupQuery.Proofs.Selector.GluedPattern
import MarkupQuery.Proofs.Document.Pairing
import MarkupQuery.Proofs.Html.Restoring
import MarkupQuery.Proofs.Collection.Pipelines
import MarkupQuery.Proofs.Console.Printing
import MarkupQuery.Proofs.Command.Words
import MarkupQuery.Proofs.Command.Querying
import MarkupQuery.Proofs.Fields
