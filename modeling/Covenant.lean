import Covenant.Main
import Covenant.Proofs.Filter.Fault
import Covenant.Proofs.Filter.Repeat
import Covenant.Proofs.Filter.Union
import Covenant.Proofs.Check.Parts
import Covenant.Proofs.Contract.Source
import Covenant.Proofs.Filter.Depth
import Covenant.Proofs.Contract.Params
import Covenant.Proofs.Filter.Alias
import Covenant.Proofs.Check.Loose
import Covenant.Proofs.Filter.Loose
import Covenant.Proofs.Filter.Malformed
import Covenant.Proofs.Command.Document
import Covenant.Proofs.Filter.Json
import Covenant.Proofs.Registry.Lawful
import Covenant.Proofs.Filter.Loop
import Covenant.Proofs.Filter.Registered
import Covenant.Proofs.Filter.Null
import Covenant.Proofs.Filter.Keys
import Covenant.Proofs.Check.Float
import Covenant.Proofs.Filter.Rest
import Covenant.Proofs.Check.Timestamp
import Covenant.Proofs.Check.Integer
import Covenant.Proofs.Check.Alphabet
import Covenant.Proofs.Check.Digest
import Covenant.Proofs.Check.Carry
import Covenant.Proofs.Check.Count
import Covenant.Proofs.Check.Slug
import Covenant.Proofs.Check.Geo
import Covenant.Proofs.Check.Reread
import Covenant.Proofs.Check.Json
import Covenant.Proofs.Check.Binary
import Covenant.Proofs.Filter.Url
import Covenant.Proofs.Check.Base64
import Covenant.Proofs.Check.Repertoire
import Covenant.Proofs.Check.Bounds
import Covenant.Proofs.Check.Checksum
import Covenant.Proofs.Check.Spelling
import Covenant.Proofs.Contract.Segment
import Covenant.Proofs.Filter.Token
import Covenant.Proofs.Filter.Mode
import Covenant.Proofs.Filter.Notation
import Covenant.Proofs.Filter.Flag
import Covenant.Proofs.Check.Member
import Covenant.Proofs.Filter.Positions
import Covenant.Proofs.Filter.Rounded
import Covenant.Proofs.Config.Precedence
import Covenant.Proofs.Value.Merge
import Covenant.Proofs.Contract.Normal
import Covenant.Proofs.Filter.Grouped
