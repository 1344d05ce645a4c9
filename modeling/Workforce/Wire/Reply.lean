import Workforce.Reply
import Workforce.Wire.Activity
import Workforce.Wire.Leave
import Workforce.Wire.Pay
import Workforce.Wire.People

/-!
The wire form of replies.
-/

namespace Workforce.Wire

/-- The wire form of an approval. -/
def encodeApproval (a : LeaveApproval) : Json := .obj
  [("request", encode a.request), ("balance", encode a.balance)]

/-- The wire form of a reply; nothing is null. -/
def encodeReply : Reply → Json
  | .nothing => .null
  | .record r => encode r
  | .records rs => encode rs
  | .aggregates rows => .arr (rows.map encodeAggregate)
  | .leave r => encode r
  | .leaves rs => encode rs
  | .decisions ds => encode ds
  | .balance b => encode b
  | .approval a => encodeApproval a
  | .schedule s => encode s
  | .schedules rows => encode rows
  | .preview p => encodePreview p
  | .run r => encode r
  | .runs rs => encode rs
  | .profile p => encode p
  | .employee e => encode e
  | .employees es => encode es
  | .organization o => encode o
  | .organizations os => encode os
  | .audit entries => encode entries
  | .events events => .arr (events.map encodeEvent)

end Workforce.Wire
