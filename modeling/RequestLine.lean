import RequestLine.Domain.Ascii
import RequestLine.Domain.Label
import RequestLine.Domain.Mapping
import RequestLine.Domain.Punycode
import RequestLine.Envelope
import RequestLine.Event
import RequestLine.Journal
import RequestLine.Json.Binary64
import RequestLine.Json.Misfit
import RequestLine.Json.Number
import RequestLine.Json.Printer
import RequestLine.Json.Reader
import RequestLine.Json.Shortest
import RequestLine.Json.Value
import RequestLine.Line.Fault
import RequestLine.Line.Reader
import RequestLine.Line.Sections
import RequestLine.Log.Filter
import RequestLine.Log.Format
import RequestLine.Log.Session
import RequestLine.Main
import RequestLine.Proofs.Asking
import RequestLine.Proofs.Batches
import RequestLine.Proofs.Bodies
import RequestLine.Proofs.Building
import RequestLine.Proofs.Choices
import RequestLine.Proofs.DescriptorText
import RequestLine.Proofs.Domain
import RequestLine.Proofs.EnvelopeShape
import RequestLine.Proofs.Envelopes
import RequestLine.Proofs.Extension
import RequestLine.Proofs.FirstFault
import RequestLine.Proofs.FrontEnds
import RequestLine.Proofs.Grammar
import RequestLine.Proofs.Image
import RequestLine.Proofs.Installing
import RequestLine.Proofs.Json.Characters
import RequestLine.Proofs.Json.Decoded
import RequestLine.Proofs.Json.DepthLimit
import RequestLine.Proofs.Json.Pairs
import RequestLine.Proofs.Json.ReadBack
import RequestLine.Proofs.Json.Values
import RequestLine.Proofs.Keywords
import RequestLine.Proofs.Masking
import RequestLine.Proofs.Messages
import RequestLine.Proofs.Order
import RequestLine.Proofs.Outcomes
import RequestLine.Proofs.Pieces
import RequestLine.Proofs.Preparing
import RequestLine.Proofs.QueryPairs
import RequestLine.Proofs.ReadDescriptors
import RequestLine.Proofs.Reading
import RequestLine.Proofs.Reports
import RequestLine.Proofs.Resolution
import RequestLine.Proofs.Results
import RequestLine.Proofs.Scans
import RequestLine.Proofs.Sections
import RequestLine.Proofs.Trimming
import RequestLine.Proofs.Url.Division
import RequestLine.Proofs.Url.Forms
import RequestLine.Proofs.Utf8
import RequestLine.Request.Descriptor
import RequestLine.Request.Failure
import RequestLine.Request.Keyword
import RequestLine.Request.Method
import RequestLine.Request.Report
import RequestLine.Request.Wire
import RequestLine.Service.Basic
import RequestLine.Service.MediaType
import RequestLine.Service.Network
import RequestLine.Service.Transport
import RequestLine.Settings
import RequestLine.Text.Alphanumeric
import RequestLine.Text.Blank
import RequestLine.Text.CodeTable
import RequestLine.Text.Composed
import RequestLine.Text.Numeral
import RequestLine.Text.Pieces
import RequestLine.Text.Quoted
import RequestLine.Text.Token
import RequestLine.Text.Uppercase
import RequestLine.Text.Utf8
import RequestLine.Url.Basic
import RequestLine.Url.Error
import RequestLine.Url.Form
import RequestLine.Url.Host
import RequestLine.Url.Ipv4
import RequestLine.Url.Ipv6
import RequestLine.Url.Parser
import RequestLine.Url.Path
import RequestLine.Url.Percent
import RequestLine.Url.Scheme
