import ChainProfile.Address
import ChainProfile.Block.Reader
import ChainProfile.FileTree
import ChainProfile.Json.ChainData
import ChainProfile.Main
import ChainProfile.Merkle.Tree
import ChainProfile.Node
import ChainProfile.Script.Token
import ChainProfile.Session
import ChainProfile.Transaction.Reader
import ChainProfile.Proofs.CompactSize.Sequence
import ChainProfile.Proofs.Collision
import ChainProfile.Proofs.Digest.Display
import ChainProfile.Proofs.Merkle.Binding
import ChainProfile.Proofs.Transaction.RoundTrip
import ChainProfile.Proofs.Block.Binding
import ChainProfile.Proofs.Block.Layout
import ChainProfile.Proofs.Address.RoundTrip
import ChainProfile.Proofs.Base58.PrefixTable
import ChainProfile.Proofs.Parameters.Construction
import ChainProfile.Proofs.Genesis.Commitment
import ChainProfile.Proofs.Genesis.Layout
import ChainProfile.Proofs.Address.Separation
import ChainProfile.Proofs.Address.Shape
import ChainProfile.Proofs.Session.Balanced
import ChainProfile.Proofs.Target.Exact
import ChainProfile.Proofs.Target.Canonical
import ChainProfile.Proofs.Target.Limit
import ChainProfile.Proofs.Merkle.Padding
import ChainProfile.Proofs.Parameters.Moment
import ChainProfile.Proofs.Parameters.Summary
import ChainProfile.Proofs.Session.Trace
import ChainProfile.Proofs.Node.Choice
import ChainProfile.Proofs.Script.Steps
