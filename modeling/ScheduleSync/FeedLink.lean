import ScheduleSync.Feed
import ScheduleSync.Hex
import ScheduleSync.Isolation

/-! The calendar link. getICSURL hands it out once, and calendar applications ask for it for
as long as they like. It leads to the feed of the user it was given to and of nobody else,
until the account is deleted. -/
namespace ScheduleSync

namespace Server
variable {env : Env} {s s' : Server} {a : Action}

end Server
end ScheduleSync
