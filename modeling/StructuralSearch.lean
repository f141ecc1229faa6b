import StructuralSearch.Engine.Basic
import StructuralSearch.Engine.Query
import StructuralSearch.Inspect
import StructuralSearch.Proofs.Commit.Kept
import StructuralSearch.Proofs.Commit.Order
import StructuralSearch.Proofs.Commit.Locality
import StructuralSearch.Proofs.Commit.Splicing
import StructuralSearch.Proofs.Dependency
import StructuralSearch.Proofs.Evaluation.Captured
import StructuralSearch.Proofs.Evaluation.Document
import StructuralSearch.Proofs.Fix
import StructuralSearch.Proofs.Formula
import StructuralSearch.Proofs.Matching.Completeness
import StructuralSearch.Proofs.Matching.Variables
import StructuralSearch.Proofs.Merging
import StructuralSearch.Proofs.Noise
import StructuralSearch.Proofs.Replacement
import StructuralSearch.Proofs.Rewriting
import StructuralSearch.Rule.Decode
import StructuralSearch.Proofs.References
import StructuralSearch.Proofs.Transforms
import StructuralSearch.Proofs.Wrapping
import StructuralSearch.Proofs.Matching.Levels
import StructuralSearch.Proofs.Matching.Literal
import StructuralSearch.Proofs.Tree.Subtree
import StructuralSearch.Proofs.Evaluation.Walks
import StructuralSearch.Proofs.Relations
import StructuralSearch.Proofs.Registry
import StructuralSearch.Proofs.Regions
import StructuralSearch.Proofs.Positions
import StructuralSearch.Proofs.Template
import StructuralSearch.Proofs.Ascii
import StructuralSearch.Proofs.Words
import StructuralSearch.Proofs.Conversion
import StructuralSearch.Proofs.Slicing
import StructuralSearch.Proofs.Runs
import StructuralSearch.Tree.Arena
import StructuralSearch.Proofs.Tree.Siblings
import StructuralSearch.Proofs.Tokenizing
import StructuralSearch.Proofs.Closed
import StructuralSearch.Proofs.Tree.Arena
import StructuralSearch.Regex.Property
