import ChainProfile.Bytes

/-!
# Prefixes of base 58 data

Each kind of key or address is marked by leading bytes, which differ from
network to network.  A table has exactly one entry for each kind.  A usable table
has no empty entry and no two equal entries; `firstFault?` finds what is wrong
with the first kind at fault.
-/

namespace ChainProfile

/-- What base 58 data can stand for. -/
inductive KeyKind where
  | pubkeyAddress
  | scriptAddress
  | secretKey
  | extPublicKey
  | extSecretKey
deriving DecidableEq, Inhabited

namespace KeyKind

/-- Every kind, in the order in which a table is checked. -/
def all : List KeyKind :=
  [.pubkeyAddress, .scriptAddress, .secretKey, .extPublicKey, .extSecretKey]

/-- The name that is shown for a kind. -/
def name : KeyKind → String
  | .pubkeyAddress => "PubkeyAddress"
  | .scriptAddress => "ScriptAddress"
  | .secretKey => "SecretKey"
  | .extPublicKey => "ExtPublicKey"
  | .extSecretKey => "ExtSecretKey"

/-- The kind with a name. -/
def ofName? (text : String) : Option KeyKind := all.find? fun kind => kind.name == text

end KeyKind

/-- What makes a table of prefixes unusable. -/
inductive PrefixFault where
  | empty (kind : KeyKind)
  /-- Two kinds have equal entries. -/
  | collision (first second : KeyKind)
deriving DecidableEq

/-- One entry for each kind. -/
structure PrefixTable where
  pubkeyAddress : Bytes
  scriptAddress : Bytes
  secretKey : Bytes
  extPublicKey : Bytes
  extSecretKey : Bytes
deriving DecidableEq

namespace PrefixTable

/-- The entry of a kind. -/
def get (table : PrefixTable) : KeyKind → Bytes
  | .pubkeyAddress => table.pubkeyAddress
  | .scriptAddress => table.scriptAddress
  | .secretKey => table.secretKey
  | .extPublicKey => table.extPublicKey
  | .extSecretKey => table.extSecretKey

/-- The entries of a table with their kinds, in the order of `KeyKind.all`. -/
def entries (table : PrefixTable) : List (KeyKind × Bytes) :=
  KeyKind.all.map fun kind => (kind, table.get kind)

/-- The first fault of a list of entries.  Each entry is looked at in turn: whether it is empty,
then whether a later one equals it. -/
def faultAmong : List (KeyKind × Bytes) → Option PrefixFault
  | [] => none
  | (kind, bytes) :: later =>
      if bytes.isEmpty then some (.empty kind)
      else
        match later.find? fun entry => entry.2 == bytes with
        | some (other, _) => some (.collision kind other)
        | none => faultAmong later

/-- What is wrong with the first kind at fault, if anything is. -/
def firstFault? (table : PrefixTable) : Option PrefixFault := faultAmong table.entries

/-- A table in which every kind is marked and no two kinds are marked alike. -/
def IsUsable (table : PrefixTable) : Prop :=
  (∀ kind, table.get kind ≠ []) ∧
    ∀ first second, table.get first = table.get second → first = second

/-- The table with the entries of a list of five. -/
def ofList? : List Bytes → Option PrefixTable
  | [pubkeyAddress, scriptAddress, secretKey, extPublicKey, extSecretKey] =>
      some ⟨pubkeyAddress, scriptAddress, secretKey, extPublicKey, extSecretKey⟩
  | _ => none

end PrefixTable

end ChainProfile
