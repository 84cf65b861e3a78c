import Conform.Number.Numeral
import Conform.Text.Digit
import Conform.Number.Binary64
import Conform.Number.Shortest
import Conform.Number.Decimal
import Conform.Number.Integer
import Conform.Number
import Conform.Text.Printable
import Conform.Text.Hexadecimal
import Conform.Text.Quoted
import Conform.Text.Label
import Conform.Text.Encoding
import Conform.Value
import Conform.Attributes
import Conform.Progression
import Conform.Function
import Conform.Object
import Conform.Store
import Conform.Fault
import Conform.Run
import Conform.Action
import Conform.Kind
import Conform.Shape
import Conform.Equality
import Conform.Form
import Conform.Conversion
import Conform.Enumerated
import Conform.Descriptor
import Conform.Enumeration
import Conform.Check
import Conform.Call
import Conform.Field
import Conform.Copy
import Conform.Lookup
import Conform.Judgement
import Conform.Rule
import Conform.Outcome
import Conform.Demand
import Conform.Table
import Conform.Assembly
import Conform.Mutation
import Conform.Term
import Conform.Operation
import Conform.Session
import Conform.Proofs.Parts
import Conform.Proofs.Contents
import Conform.Proofs.Attributes
import Conform.Proofs.Forms
import Conform.Proofs.Checks
import Conform.Proofs.Descriptors
import Conform.Proofs.Grammar
import Conform.Proofs.Items
import Conform.Proofs.Entries
import Conform.Proofs.Rules
import Conform.Proofs.Fields
import Conform.Proofs.Acceptance
import Conform.Proofs.Misuse
import Conform.Proofs.Names
import Conform.Proofs.Membership
import Conform.Proofs.Sight
import Conform.Proofs.Coverage
import Conform.Proofs.Growth
import Conform.Proofs.OwnFields
import Conform.Proofs.Assembled
import Conform.Proofs.Foreign
import Conform.Proofs.Demands
import Conform.Proofs.Surroundings
import Conform.Proofs.Announcements
import Conform.Proofs.Revision
import Conform.Proofs.Disciplines
import Conform.Proofs.Warnings
import Conform.Proofs.Evolution
import Conform.Proofs.QuietGrowth
import Conform.Proofs.Tables
import Conform.Proofs.Copies
import Conform.Proofs.LiveTables
import Conform.Proofs.NormalForms
import Conform.Proofs.Itemwise
import Conform.Proofs.Spelling
import Conform.Proofs.Assembly
import Conform.Proofs.Routes
import Conform.Proofs.Order
import Conform.Proofs.Aliases
import Conform.Proofs.Domains
import Conform.Proofs.Frames
import Conform.Proofs.Isolation
import Conform.Proofs.Locality
import Conform.Proofs.LocalJudgements
