import ScheduleSync.FinishedLogs
import ScheduleSync.Writes

/-! has_successful_scrape is a count over scrape_logs, and retention deletes
successful logs after seven days. The flag stays up as long as the account
exists, every such DELETE leaves the user one success and no UPDATE turns a
success into something else. -/
namespace ScheduleSync
namespace Server
variable {env : Env} {s s' s₁ s₂ : Server} {a : Action} {u : Uuid}

def retentionAfter (days : Nat) : List Action :=
  List.replicate 3 (.schedule {}) ++ [.advance (days * (24 * 60 * 60 * 1000000000)),
    .schedule { retentionTick := true }] ++ List.replicate 6 (.schedule {})

end Server
end ScheduleSync
