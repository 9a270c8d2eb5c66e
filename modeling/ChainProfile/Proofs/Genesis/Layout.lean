import ChainProfile.Proofs.Parameters.Construction
import ChainProfile.Proofs.Script.Steps

/-!
# The layout of a genesis block

The header of a genesis block takes the digest of the coinbase for its Merkle root.  That is
the root over the transactions, since the coinbase is the only one.  The spend script of the
coinbase is read as three pieces of data, whatever the length class of the message is, so the
block tells the message that it was made with.
-/

namespace ChainProfile

/-- The text in the third piece of data that the first transaction spends with. -/
def Block.message? (block : Block) : Option String := do
  let transaction ← block.transactions.head?
  let input ← transaction.inputs.head?
  let tokens ← Script.tokens? input.script.bytes
  let .data text ← tokens[2]? | none
  String.fromUTF8? ⟨text.toArray⟩

namespace Genesis

theorem spendScript_eq_build (message : String) :
    spendScript message = Script.build [.integer 486604799, .number 4, .data (utf8 message)] :=
  rfl

theorem tokens?_spendScript {message : String} (short : (utf8 message).length < 2 ^ 32) :
    Script.tokens? (spendScript message).bytes =
      some [.data [0xff, 0xff, 0x00, 0x1d], .data [0x04], .data (utf8 message)] := by
  have number : (Script.Step.integer 486604799).token = .data [0xff, 0xff, 0x00, 0x1d] := by decide
  have extra : (Script.Step.number 4).token = .data [0x04] := by decide
  have readable : ∀ step ∈ [Script.Step.integer 486604799, .number 4, .data (utf8 message)],
      step.IsReadable := by
    simpa [Script.Step.IsReadable] using short
  rw [spendScript_eq_build, Script.bytes_build, Script.tokens?_flatMap_written readable]
  simp only [List.map_cons, List.map_nil, number, extra]
  rfl

theorem message?_block {spec : GenesisSpec} (short : (utf8 spec.message).length < 2 ^ 32) :
    (block spec).message? = some spec.message := by
  simp [Block.message?, block, coinbase, Transaction.coinbase, tokens?_spendScript short,
    fromUTF8?_utf8]

theorem ofBlock_block (spec : GenesisSpec) :
    GenesisInfo.ofBlock (block spec) =
      { digest := (block spec).digest, merkleRoot := (block spec).merkleRoot, time := spec.time
        bits := spec.bits, nonce := spec.nonce, reward := reward } := by
  have paid : (coinbase spec.message spec.payout).totalOutput = reward := by
    simp [coinbase, Transaction.coinbase, Transaction.totalOutput]
  rw [merkleRoot_block]
  simp [GenesisInfo.ofBlock, block, paid]

/-- A genesis block has no parent, and the root in its header is the one over its transactions.
Its only transaction is a coinbase that pays the reward to the payout script: the header holds the
digest of that coinbase, and the root over the transactions is the Merkle root of that one digest.
The spend script is read as three pieces of data, of which the last is the message.  The summary of
the block repeats its digest, its root and the specification. -/
theorem block_isGenesis_and_message?_block (spec : GenesisSpec)
    (short : (utf8 spec.message).length < 2 ^ 32) :
    (block spec).isGenesis ∧
      (block spec).merkleRoot = (block spec).header.merkleRoot ∧
      (∃ transaction input,
        (block spec).transactions = [transaction] ∧
          (block spec).header.merkleRoot = transaction.txid ∧
          (block spec).merkleRoot = Merkle.root [transaction.txid] ∧ transaction.isCoinbase ∧
          transaction.outputs = [⟨reward, spec.payout⟩] ∧ transaction.inputs = [input] ∧
          Script.tokens? input.script.bytes =
            some [.data [0xff, 0xff, 0x00, 0x1d], .data [0x04], .data (utf8 spec.message)]) ∧
      (block spec).message? = some spec.message ∧
      GenesisInfo.ofBlock (block spec) =
        { digest := (block spec).digest, merkleRoot := (block spec).merkleRoot, time := spec.time
          bits := spec.bits, nonce := spec.nonce, reward := reward } := by
  refine ⟨?_, merkleRoot_block spec, ?_, message?_block short, ofBlock_block spec⟩
  · simp [block, Block.isGenesis]
  · refine ⟨coinbase spec.message spec.payout, _, rfl, rfl, rfl, ?_, rfl, rfl,
      tokens?_spendScript short⟩
    simp [coinbase, Transaction.coinbase, Transaction.isCoinbase, OutPoint.isNull]

/-- A specification whose message takes seventy-six bytes, the fewest with a length field. -/
def lengthy : GenesisSpec := ⟨String.ofList (List.replicate 38 'é'), .empty, 0, 0x207fffff, 7⟩

theorem block_isGenesis_and_message?_block_lengthy :
    (utf8 lengthy.message).length < 2 ^ 32 ∧
      (spendScript lengthy.message).bytes.take 9 = [4, 0xff, 0xff, 0, 0x1d, 1, 4, 0x4c, 76] ∧
      (block lengthy).message? = some (String.ofList (List.replicate 38 'é')) ∧
      (GenesisInfo.ofBlock (block lengthy)).merkleRoot = (block lengthy).header.merkleRoot := by
  have short : (utf8 lengthy.message).length < 2 ^ 32 := by decide
  rcases block_isGenesis_and_message?_block lengthy short with ⟨_, shortcut, _, told, summary⟩
  refine ⟨short, by decide, told, ?_⟩
  rw [summary, shortcut]

end Genesis

end ChainProfile
