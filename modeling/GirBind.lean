import GirBind.Binding.Callable
import GirBind.Binding.Decision
import GirBind.Binding.Json
import GirBind.Binding.Marshal
import GirBind.Binding.Namespace
import GirBind.Binding.Rule
import GirBind.CommandLine.Arguments
import GirBind.CommandLine.Flag
import GirBind.CommandLine.Program
import GirBind.CommandLine.Setup
import GirBind.Compile
import GirBind.Config.Basic
import GirBind.Config.Escape
import GirBind.Config.Json
import GirBind.Config.Load
import GirBind.Config.Toml.Document
import GirBind.Config.Toml.Layout
import GirBind.Config.Toml.Scalar
import GirBind.Config.Toml.Text
import GirBind.Config.Value
import GirBind.Discover
import GirBind.Doc.Item
import GirBind.Doc.Javadoc
import GirBind.Doc.Recognize
import GirBind.Doc.Render
import GirBind.Error
import GirBind.Files.Fault
import GirBind.Files.Host
import GirBind.Files.Tree
import GirBind.Floating
import GirBind.Java.Literal
import GirBind.Java.Name
import GirBind.Json
import GirBind.Main
import GirBind.Markup.Cursor
import GirBind.Markup.Fault
import GirBind.Markup.Position
import GirBind.Markup.Reference
import GirBind.Markup.Scan
import GirBind.Markup.Token
import GirBind.Node.Basic
import GirBind.Node.Identity
import GirBind.Node.Kind
import GirBind.Node.OfTokens
import GirBind.Numeral.Binary
import GirBind.Numeral.Decimal
import GirBind.Numeral.Integer
import GirBind.Numeral.Shortest
import GirBind.OrderedMap
import GirBind.Output
import GirBind.Platform
import GirBind.Repository.Basic
import GirBind.Repository.Merge
import GirBind.Repository.OfNode
import GirBind.Repository.Patch
import GirBind.Run
import GirBind.Signature.Annotation
import GirBind.Signature.Callable
import GirBind.Signature.Primitive
import GirBind.Signature.TypeRef
import GirBind.Source
import GirBind.SymbolTable.Basic
import GirBind.SymbolTable.Resolve
import GirBind.Text.Blank
import GirBind.Text.Case
import GirBind.Text.Lines
import GirBind.Text.Reader
import GirBind.Text.Word
import GirBind.Proofs.Accounting
import GirBind.Proofs.Agreement.Decision
import GirBind.Proofs.Agreement.Documentation
import GirBind.Proofs.Agreement.Floating
import GirBind.Proofs.Agreement.Namespace
import GirBind.Proofs.Agreement.Outcome
import GirBind.Proofs.Agreement.Signature
import GirBind.Proofs.Agreement.Table
import GirBind.Proofs.AliasChain
import GirBind.Proofs.AliasMarshalling
import GirBind.Proofs.Attempt
import GirBind.Proofs.Availability
import GirBind.Proofs.Carrier
import GirBind.Proofs.ClassNames
import GirBind.Proofs.Closure
import GirBind.Proofs.Coherence
import GirBind.Proofs.ConstantType
import GirBind.Proofs.Content
import GirBind.Proofs.CountedBinding
import GirBind.Proofs.Decided
import GirBind.Proofs.Declarations
import GirBind.Proofs.DeclaredTypes
import GirBind.Proofs.Derived
import GirBind.Proofs.DescriptorShape
import GirBind.Proofs.DiscoveryOrder
import GirBind.Proofs.Doc.BlockComment
import GirBind.Proofs.Doc.Breaks
import GirBind.Proofs.Doc.Conversion
import GirBind.Proofs.Doc.Counting
import GirBind.Proofs.Doc.InlineLine
import GirBind.Proofs.Doc.ItemSource
import GirBind.Proofs.Doc.ItemText
import GirBind.Proofs.Doc.ListMarkers
import GirBind.Proofs.Doc.PlainText
import GirBind.Proofs.Doc.Recognition
import GirBind.Proofs.Doc.Reference
import GirBind.Proofs.Doc.Scan
import GirBind.Proofs.Doc.SigilReference
import GirBind.Proofs.Doc.Spans
import GirBind.Proofs.Doc.Terminator
import GirBind.Proofs.Doc.Token
import GirBind.Proofs.DocIndependence
import GirBind.Proofs.Document
import GirBind.Proofs.EmittedComments
import GirBind.Proofs.FirstDeclaration
import GirBind.Proofs.FloatingClasses
import GirBind.Proofs.Gathering.Absorption
import GirBind.Proofs.Gathering.Basic
import GirBind.Proofs.Gathering.Image
import GirBind.Proofs.Gathering.Keyed
import GirBind.Proofs.Gathering.Lookup
import GirBind.Proofs.Gathering.Pass
import GirBind.Proofs.Gathering.Sifting
import GirBind.Proofs.Gathering.Success
import GirBind.Proofs.Growth
import GirBind.Proofs.InputOrder
import GirBind.Proofs.IntegerConstants
import GirBind.Proofs.IntegerLiteral
import GirBind.Proofs.JavaName
import GirBind.Proofs.LibraryMerge
import GirBind.Proofs.LinkedDecisions
import GirBind.Proofs.Markup.Decoding
import GirBind.Proofs.Markup.Lexeme
import GirBind.Proofs.Markup.Piece
import GirBind.Proofs.Markup.Reading
import GirBind.Proofs.Markup.Scan
import GirBind.Proofs.Markup.Spelling
import GirBind.Proofs.Markup.Tiling
import GirBind.Proofs.MemberIdentity
import GirBind.Proofs.MemberMap
import GirBind.Proofs.MemberPlatforms
import GirBind.Proofs.MemberReading
import GirBind.Proofs.MemberUnion
import GirBind.Proofs.Members
import GirBind.Proofs.Mention
import GirBind.Proofs.MergedLibraries
import GirBind.Proofs.NodeIdentity
import GirBind.Proofs.OrderedMap
import GirBind.Proofs.Outline
import GirBind.Proofs.OutlineCompile
import GirBind.Proofs.OutlineReading
import GirBind.Proofs.PatchEffects
import GirBind.Proofs.Patching
import GirBind.Proofs.PlatformGuard
import GirBind.Proofs.PlatformSplit
import GirBind.Proofs.Platforms
import GirBind.Proofs.Provenance
import GirBind.Proofs.Reading
import GirBind.Proofs.Recast
import GirBind.Proofs.RecordLayout
import GirBind.Proofs.Regroup
import GirBind.Proofs.Removal
import GirBind.Proofs.Rendering
import GirBind.Proofs.Reordering
import GirBind.Proofs.Repetition
import GirBind.Proofs.Replatform
import GirBind.Proofs.RepositoryGrammar
import GirBind.Proofs.Shadowing
import GirBind.Proofs.SignatureAgreement
import GirBind.Proofs.Singletons
import GirBind.Proofs.Sketch
import GirBind.Proofs.SketchCompile
import GirBind.Proofs.SketchMerge
import GirBind.Proofs.StringConstants
import GirBind.Proofs.StringLiteral
import GirBind.Proofs.SymbolIndex
import GirBind.Proofs.SymbolTable
import GirBind.Proofs.TreeGrammar
import GirBind.Proofs.TypeMerge
import GirBind.Proofs.UpperCase
import GirBind.Proofs.VisibleNames
