import Interchain.Json.Recorded
import Interchain.Text.Decimal
import Interchain.Text.Listing
import Interchain.Trace

/-
  Roots, proofs and prefixes.

  A root is what a light client remembers of a store, a proof
  is what is checked against it, and a prefix is put in front
  of every path of a store.  A proof or a prefix that is made
  from bytes is not empty; one that is read from a record may
  be.

  Main declarations:
    * `CommitmentRoot`
    * `CommitmentProof`
    * `CommitmentPrefix`
    * `CommitmentPrefix.apply`
-/

------------------------------------------------------------
-- Errors
------------------------------------------------------------

namespace Interchain

/- Why octets are not a prefix or a proof. -/
inductive CommitmentError where
  | emptyPrefix
  | emptyProof
  deriving DecidableEq

namespace CommitmentError

/- What is reported of an error. -/
def message : CommitmentError → String
  | .emptyPrefix => "empty commitment prefix"
  | .emptyProof => "empty commitment proof"

/- The name of an error. -/
def name : CommitmentError → String
  | .emptyPrefix => "EmptyCommitmentPrefix"
  | .emptyProof => "EmptyCommitmentProof"

instance : Traced CommitmentError where
  trace e := [⟨e.name, e.message⟩]

end CommitmentError

/- The listing of bytes as decimal numbers. -/
def Bytes.listing (bytes : Bytes) : String :=
  Text.listing (bytes.map fun b => Text.decimal b.toNat)

end Interchain

------------------------------------------------------------
-- Roots
------------------------------------------------------------

namespace Interchain

/- The digest of a whole store. -/
structure CommitmentRoot where
  bytes : Bytes
  deriving DecidableEq

namespace CommitmentRoot

/- How a root is written out. -/
def inspect (root : CommitmentRoot) : String :=
  "CommitmentRoot(" ++ root.bytes.listing ++ ")"

/- The record of a root lists its octets. -/
def toJson (root : CommitmentRoot) : Json :=
  .ofBytes root.bytes

/- The root that a record lists. -/
def ofJson? (value : Json) : Option CommitmentRoot :=
  value.bytes?.map CommitmentRoot.mk

instance : Recorded CommitmentRoot := ⟨toJson, ofJson?⟩

end CommitmentRoot

end Interchain

------------------------------------------------------------
-- Proofs
------------------------------------------------------------

namespace Interchain

/- Octets that are meant to show what a store holds. -/
structure CommitmentProof where
  bytes : Bytes
  deriving DecidableEq

namespace CommitmentProof

/- A proof that is built is not empty. -/
def ofBytes (bytes : Bytes) :
    Except CommitmentError CommitmentProof :=
  if bytes = [] then .error .emptyProof else .ok ⟨bytes⟩

/- How a proof is written out. -/
def inspect (proof : CommitmentProof) : String :=
  "CommitmentProof(" ++ proof.bytes.listing ++ ")"

/- The record of a proof lists its octets. -/
def toJson (proof : CommitmentProof) : Json :=
  .ofBytes proof.bytes

/- The proof that a record lists, which may be empty. -/
def ofJson? (value : Json) : Option CommitmentProof :=
  value.bytes?.map CommitmentProof.mk

instance : Recorded CommitmentProof := ⟨toJson, ofJson?⟩

end CommitmentProof

end Interchain

------------------------------------------------------------
-- Prefixes
------------------------------------------------------------

namespace Interchain

/- The place of the protocol in the store of a chain. -/
structure CommitmentPrefix where
  bytes : Bytes
  deriving DecidableEq

namespace CommitmentPrefix

/- A prefix that is built is not empty. -/
def ofBytes (bytes : Bytes) :
    Except CommitmentError CommitmentPrefix :=
  if bytes = [] then .error .emptyPrefix else .ok ⟨bytes⟩

/- The key of a path in a store: the prefix read as text, a
   slash, and the path. -/
def apply (start : CommitmentPrefix) (path : String) : String :=
  start.bytes.lossyText ++ "/" ++ path

/- The prefix as text if it is one, else its bytes. -/
def inspect (start : CommitmentPrefix) : String :=
  match start.bytes.text? with
  | some s => s
  | none => start.bytes.listing

/- The record of a prefix lists its octets. -/
def toJson (start : CommitmentPrefix) : Json :=
  .ofBytes start.bytes

/- The prefix that a record lists, which may be empty. -/
def ofJson? (value : Json) : Option CommitmentPrefix :=
  value.bytes?.map CommitmentPrefix.mk

instance : Recorded CommitmentPrefix := ⟨toJson, ofJson?⟩

end CommitmentPrefix

end Interchain
