import WebBaseline.Proofs.Download.Caller

/-! Calls and outcomes.

The calls of a run use up the outcomes in order. A call makes one request, or two if the first connection
fails, all for its own address, and its result depends on the last outcome that it uses up and on nothing
else: not on the client, nor on what other calls came to (`run_exchanges`). -/
namespace WebBaseline.Download

end WebBaseline.Download
