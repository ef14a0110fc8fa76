import Mathlib.Data.List.Infix
import ScheduleSync.Ddl

/-! internal/database: the embedded schema.sql, the additions for existing
installs, and Migrate, which runs one after the other on whatever is there. -/
namespace ScheduleSync.Database
open Ddl

/-- `user_id ... REFERENCES users(id) ON DELETE CASCADE`. -/
def userID (primaryKey : Bool) : Column where
  name := "user_id"
  type := "TEXT"
  primaryKey := primaryKey
  notNull := !primaryKey
  references := some "users"

def column (name type : String) : Column := { name := name, type := type }

def notNull (name type : String) : Column := { name := name, type := type, notNull := true }

section Ready
variable {c : Catalog}

variable {part : List Statement}

end Ready

/-! What stands in the way otherwise. -/

section Converse
variable {c c' : Catalog}

end Converse

end ScheduleSync.Database
