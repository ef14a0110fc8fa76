import ScheduleSync.Calendar
import ScheduleSync.CredentialStore
import ScheduleSync.Resume
import ScheduleSync.Writes

/-! What a feed holds in a reachable state: the user's rows of the window, in order,
each under an identifier of its own that it keeps. -/
namespace ScheduleSync

theorem scanShift_columns (sh : Shift) : scanShift sh.columns = some { sh with userID := "" } := rfl

section Query
variable {db : DB} {userID : Uuid} {now : Int}

def DB.inWindow (db : DB) (userID : Uuid) (now : Int) : List Shift :=
  db.shifts.rows.filter fun sh => sh.userID == userID && decide (now - 7 * day < sh.endTime)

theorem DB.mem_inWindow {sh : Shift} :
    sh ∈ db.inWindow userID now ↔
      sh ∈ db.shifts ∧ sh.userID = userID ∧ now - 7 * day < sh.endTime := by
  simp [DB.inWindow, Table.mem_def]

theorem shiftWindow_perm : (db.shiftWindow userID now).Perm (db.inWindow userID now) :=
  List.perm_insertionSort _ _

theorem queryUserShifts_eq : db.queryUserShifts userID now = db.shiftWindow userID now := by
  have hscan : ∀ sh ∈ db.shiftWindow userID now,
      ((scanShift sh.columns).map fun r => { r with userID := userID }) = some sh := by
    intro sh hsh
    obtain ⟨_, huser, _⟩ := DB.mem_inWindow.mp (shiftWindow_perm.mem_iff.mp hsh)
    rw [scanShift_columns, Option.map_some, ← huser]
  unfold DB.queryUserShifts
  generalize db.shiftWindow userID now = rows at hscan
  induction rows with
  | nil => rfl
  | cons sh rows ih =>
    rw [List.filterMap_cons, hscan sh List.mem_cons_self]
    exact congrArg (List.cons sh) (ih fun r hr => hscan r (List.mem_cons_of_mem _ hr))

theorem queryUserShifts_sorted :
    (db.queryUserShifts userID now).Pairwise fun a b => a.startTime ≤ b.startTime := by
  have : Std.Total earlierStart := ⟨fun a b => Int.le_total a.startTime b.startTime⟩
  have : IsTrans Shift earlierStart := ⟨fun _ _ _ => Int.le_trans⟩
  rw [queryUserShifts_eq]
  exact List.pairwise_insertionSort earlierStart _

def DB.IDsApart (db : DB) (userID : Uuid) : Prop :=
  ∀ a ∈ db.shifts, ∀ b ∈ db.shifts, a.userID = userID → b.userID = userID → a.shiftIDExt ≠ b.id

theorem uid_inj {a b : Shift} (hapart : db.IDsApart userID) (ha : a ∈ db.shifts) (hb : b ∈ db.shifts)
    (hau : a.userID = userID) (hbu : b.userID = userID) (h : a.uid = b.uid) : a = b := by
  have hid : (if a.shiftIDExt = "" then a.id else a.shiftIDExt) =
      if b.shiftIDExt = "" then b.id else b.shiftIDExt := by
    simpa [Shift.uid] using h
  have hsame : a.userID = b.userID := hau.trans hbu.symm
  split_ifs at hid with hae hbe hbe
  · exact Table.eq_of_clash ha hb (.inl hid)
  · exact absurd hid.symm (hapart b hb a ha hbu hau)
  · exact absurd hid (hapart a ha b hb hau hbu)
  · exact Table.eq_of_clash ha hb (.inr ⟨hsame, hid⟩)

theorem map_uid_vevents (clock : Nat → Int) (shifts : List Shift) :
    (vevents clock shifts).map VEvent.uid = shifts.map Shift.uid := by
  simp only [vevents, List.map_map]
  have hfst : (VEvent.uid ∘ fun p : Shift × Nat => p.1.vevent (clock p.2)) = Shift.uid ∘ Prod.fst := rfl
  rw [hfst, ← List.map_map, List.zipIdx_map_fst]

theorem mem_queryUserShifts (sh : Shift) :
    sh ∈ db.queryUserShifts userID now ↔
      sh ∈ db.shifts ∧ sh.userID = userID ∧ now - 7 * day < sh.endTime := by
  rw [queryUserShifts_eq, shiftWindow_perm.mem_iff, DB.mem_inWindow]

theorem nodup_queryUserShifts : (db.queryUserShifts userID now).Nodup := by
  rw [queryUserShifts_eq, shiftWindow_perm.nodup_iff]
  exact (db.shifts.nodup_rows fun _ => .inl rfl).filter _

theorem nodup_uids (hapart : db.IDsApart userID) (clock : Nat → Int) :
    ((vevents clock (db.queryUserShifts userID now)).map VEvent.uid).Nodup := by
  rw [map_uid_vevents]
  refine List.Nodup.map_on (fun a ha b hb hab => ?_) nodup_queryUserShifts
  rw [mem_queryUserShifts] at ha hb
  exact uid_inj hapart ha.1 hb.1 ha.2.1 hb.2.1 hab

end Query

section Address

theorem trimSuffix_append (s suffix : String) : trimSuffix (s ++ suffix) suffix = s := by
  unfold trimSuffix
  rw [String.toList_append, if_pos (List.suffix_append _ _), List.length_append,
    Nat.add_sub_cancel, List.take_left, String.ofList_toList]

def icsTokenText (token : String) : Bool :=
  token.length == 64 && token.toList.all fun c => "0123456789abcdef".toList.contains c

theorem icsTokenText_ne {token : String} (h : icsTokenText token = true) : token ≠ "" := by
  rintro rfl
  cases h

theorem userByICSToken_of_mem {db : DB} {u : User} (hu : u ∈ db.users) :
    db.userByICSToken u.icsToken = some u := by
  refine Table.queryRow_eq_some hu (by simp) ?_
  intro a b ha hb
  exact .inr (.inr ((beq_iff_eq.mp ha).trans (beq_iff_eq.mp hb).symm))

def linesText (lines : List String) : String := String.join (lines.map fun line => line ++ crlf)

/-- What the feed of an account is at a time: one block for each stored shift of the window,
in order of its start and, with the submitted ids apart from the row ids, under an
identifier of its own. -/
structure ServesWindow (db : DB) (u : User) (now : Int) (clock : Nat → Int) (shifts : List Shift)
    (events : List VEvent) (text : String) : Prop where
  answer : serveICS (u.icsToken ++ ".ics") (some db) (some db) now clock = .ok text
  blocks : text = linesText icsHeader ++ String.join (events.map fun e => linesText e.lines) ++
    linesText ["END:VCALENDAR"]
  each : List.Forall₂ (fun sh e => ∃ i, e = sh.vevent (clock i)) shifts events
  once : shifts.Nodup
  stored : ∀ sh, sh ∈ shifts ↔ sh ∈ db.shifts ∧ sh.userID = u.id ∧ now - 7 * day < sh.endTime
  ordered : shifts.Pairwise fun a b => a.startTime ≤ b.startTime
  uids : events.map VEvent.uid = shifts.map Shift.uid
  apart : db.IDsApart u.id → (events.map VEvent.uid).Nodup

theorem linesText_append (xs ys : List String) : linesText (xs ++ ys) = linesText xs ++ linesText ys := by
  rw [linesText, List.map_append, String.join_append]
  rfl

theorem linesText_flatMap (events : List VEvent) :
    linesText (events.flatMap VEvent.lines) = String.join (events.map fun e => linesText e.lines) := by
  induction events with
  | nil => rfl
  | cons e events ih => rw [List.flatMap_cons, linesText_append, ih, List.map_cons, String.join_cons]

theorem generateICS_blocks (clock : Nat → Int) (shifts : List Shift) :
    generateICS clock shifts =
      linesText icsHeader ++ String.join ((vevents clock shifts).map fun e => linesText e.lines) ++
        linesText ["END:VCALENDAR"] := by
  rw [← linesText_flatMap, ← linesText_append, ← linesText_append]
  rfl

theorem forall₂_vevents (clock : Nat → Int) (shifts : List Shift) :
    List.Forall₂ (fun sh e => ∃ i, e = sh.vevent (clock i)) shifts (vevents clock shifts) := by
  have hfrom : ∀ k, List.Forall₂ (fun sh e => ∃ i, e = Shift.vevent sh (clock i)) shifts
      ((shifts.zipIdx k).map fun p => p.1.vevent (clock p.2)) := by
    induction shifts with
    | nil => exact fun _ => .nil
    | cons sh shifts ih => exact fun k => .cons ⟨k, rfl⟩ (ih (k + 1))
  exact hfrom 0

theorem serveICS_of_mem {db : DB} {u : User} (hu : u ∈ db.users)
    (htoken : icsTokenText u.icsToken = true) (now : Int) (clock : Nat → Int) :
    serveICS (u.icsToken ++ ".ics") (some db) (some db) now clock =
      .ok (generateICS clock (db.queryUserShifts u.id now)) := by
  simp only [serveICS, trimSuffix_append, Option.bind_some, userByICSToken_of_mem hu]
  rw [if_neg (icsTokenText_ne htoken)]

theorem servesWindow {db : DB} {u : User} (hu : u ∈ db.users)
    (htoken : icsTokenText u.icsToken = true) (now : Int) (clock : Nat → Int) :
    ServesWindow db u now clock (db.queryUserShifts u.id now) (vevents clock (db.queryUserShifts u.id now))
      (generateICS clock (db.queryUserShifts u.id now)) where
  answer := serveICS_of_mem hu htoken now clock
  blocks := generateICS_blocks clock _
  each := forall₂_vevents clock _
  once := nodup_queryUserShifts
  stored := mem_queryUserShifts
  ordered := queryUserShifts_sorted
  uids := map_uid_vevents clock _
  apart hapart := nodup_uids hapart clock

end Address

namespace Server
variable {env : Env} {s s' : Server} {a : Action} {start : Int}

/-- The feed token of an account the step creates is one that randomHex can draw. -/
def drawsICSToken (env : Env) (s : Server) (a : Action) : Bool :=
  match s.write env a with
  | some (.insertUser u) => icsTokenText u.icsToken
  | _ => true

theorem icsToken_step (hok : s.drawsICSToken env a = true)
    (hs : ∀ u ∈ s.db.users, icsTokenText u.icsToken = true) (h : s.step env a = some s') :
    ∀ u ∈ s'.db.users, icsTokenText u.icsToken = true := by
  refine db_step h (P := fun db => ∀ u ∈ db.users, icsTokenText u.icsToken = true) hs ?_
  intro x hwr hdone _ u hu
  cases hdone.users hu with
  | inl hold =>
    obtain ⟨u₀, hu₀, _, _, htoken⟩ := hold
    exact htoken ▸ hs u₀ hu₀
  | inr heq => simpa [drawsICSToken, hwr, heq] using hok

theorem shift_kept {ok : Server → Action → Bool} (h : Reaches (step env) ok s s') {sh : Shift}
    (hsh : sh ∈ s'.db.shifts) (hid : sh.id ∈ s.drawn) : sh ∈ s.db.shifts := by
  induction h with
  | refl => exact hsh
  | tail hrun hmove ih =>
    obtain ⟨a, _, ha⟩ := hmove
    refine db_step ha (P := fun db => sh ∈ db.shifts → sh ∈ s.db.shifts) ih ?_ hsh
    intro x _ hdone hdraws hsh
    cases hdone.shifts hsh with
    | inl hold => exact ih hold
    | inr heq =>
      have hfresh := (hdraws sh.id (by simp [heq, Write.draws])).1
      exact absurd (drawn_of_reaches hrun hid) hfresh

def KeepsUIDs (env : Env) (s : Server) : Prop :=
  ∀ s', Reaches (step env) anyStep s s' → ∀ sh ∈ s.db.shifts, ∀ sh' ∈ s'.db.shifts,
    sh'.id = sh.id → sh'.uid = sh.uid

theorem keepsUIDs (hs : s.Registered) : s.KeepsUIDs env := by
  intro s' hrun sh hsh sh' hsh' hid
  have hdrawn : sh'.id ∈ s.drawn := hid ▸ hs.shifts sh hsh
  have hsame : sh' = sh := Table.eq_of_clash (shift_kept hrun hsh' hdrawn) hsh (.inl hid)
  rw [hsame]

theorem feed_exact (h : Reaches (step env) (drawsICSToken env) (boot .empty start) s) {u : User}
    (hu : u ∈ s.db.users) (now : Int) (clock : Nat → Int) :
    s.KeepsUIDs env ∧ ∃ shifts events text, ServesWindow s.db u now clock shifts events text := by
  have htokens : ∀ u ∈ s.db.users, icsTokenText u.icsToken = true := by
    refine h.invariant (I := fun s => ∀ u ∈ s.db.users, icsTokenText u.icsToken = true) ?_
      fun _ _ _ hok hs ha => icsToken_step hok hs ha
    intro u hu
    cases hu
  exact ⟨keepsUIDs (registered_of_reaches h), _, _, _, servesWindow hu (htokens u hu) now clock⟩

def syncOf (i : Nat) (n : String) (token : String) (shifts : List CallbackShift) : List Action :=
  .arrive (.requestPin (n ++ "@x.com")) :: statements i 2 ++
    [.run i { uuid := "u" ++ n, token := token }, .run i {}, .run i {},
      .arrive (.verifyPin (n ++ "@x.com") "000000"), .run (i + 1) {}, .run (i + 1) {},
      .run (i + 1) { uuid := "s" ++ n, token := "tok" ++ n },
      .arrive (.authed ("tok" ++ n) (.writeCredentials (.ok sampleInput)))] ++ statements (i + 2) 7 ++
    launch (i + 3) ("log" ++ n) ("key" ++ n) ("c" ++ n) ++
    .arrive (.submitShifts ("key" ++ n) (.ok shifts)) :: statements (i + 4) 2 ++
    iterations (i + 4) (shifts.map fun sh => n ++ sh.shiftIDExt) ++ statements (i + 4) 2

def shiftOn (shiftIDExt date : String) : CallbackShift :=
  { sampleShift (date ++ "T09:00:00") (date ++ "T13:00:00") with shiftIDExt := shiftIDExt }

def twoSynced : Server :=
  after (step sampleEnv) (drawsICSToken sampleEnv) (boot .empty 0)
    (syncOf 0 "1" (String.ofList (List.replicate 64 '1'))
        [shiftOn "late" "2026-03-10", shiftOn "early" "2026-03-09", shiftOn "past" "2026-02-01"] ++
      syncOf 5 "2" (String.ofList (List.replicate 64 '2')) [shiftOn "early" "2026-03-09"])

theorem feed_exact_two_users : twoSynced.db.shifts.rows.map Shift.id = ["1late", "1early", "1past", "2early"] ∧
    ∃ u, twoSynced.db.user "u1" = some u ∧ twoSynced.KeepsUIDs sampleEnv ∧ ∃ shifts events text,
      ServesWindow twoSynced.db u 1772928000 (fun _ => 0) shifts events text ∧
      shifts.map Shift.id = ["1early", "1late"] ∧ (events.map VEvent.uid).Nodup := by
  have hreach : Reaches (step sampleEnv) (drawsICSToken sampleEnv) (boot .empty 0) twoSynced :=
    reaches_after (by decide +kernel)
  obtain ⟨u, hu⟩ : ∃ u, twoSynced.db.user "u1" = some u :=
    Option.isSome_iff_exists.mp (by decide +kernel)
  obtain ⟨hmem, hid⟩ := Table.queryRow_some hu
  obtain ⟨hkeeps, shifts, events, text, hserves⟩ := feed_exact hreach hmem 1772928000 fun _ => 0
  have hwindow : (twoSynced.db.inWindow "u1" 1772928000).map (fun sh => (sh.id, sh.startTime)) =
      [("1late", 1773133200), ("1early", 1773046800)] := by decide +kernel
  have hapart : twoSynced.db.shifts.rows.all (fun a =>
      twoSynced.db.shifts.rows.all fun b => a.shiftIDExt != b.id) = true := by decide +kernel
  have hperm : shifts.Perm (twoSynced.db.inWindow u.id 1772928000) := by
    refine (List.perm_ext_iff_of_nodup hserves.once ?_).mpr fun sh => ?_
    · exact (twoSynced.db.shifts.nodup_rows fun _ => .inl rfl).filter _
    · rw [hserves.stored, DB.mem_inWindow]
  refine ⟨by decide +kernel, u, hu, hkeeps, shifts, events, text, hserves, ?_, hserves.apart ?_⟩
  · rw [beq_iff_eq.mp hid] at hperm
    have hrows := hperm.map fun sh => (sh.id, sh.startTime)
    rw [hwindow] at hrows
    have hordered : (shifts.map fun sh => (sh.id, sh.startTime)).Pairwise fun a b => a.2 ≤ b.2 :=
      List.pairwise_map.mpr hserves.ordered
    have hsame : (shifts.map fun sh => (sh.id, sh.startTime)) = [("1early", 1773046800), ("1late", 1773133200)] := by
      refine List.Perm.eq_of_pairwise ?_ hordered (by simp) (hrows.trans (.swap _ _ _))
      intro a b ha hb hle hge
      rw [hrows.mem_iff] at ha
      simp only [List.mem_cons, List.not_mem_nil, or_false] at ha hb
      rcases ha with rfl | rfl <;> rcases hb with rfl | rfl <;> simp_all
    have hids := congrArg (List.map Prod.fst) hsame
    rwa [List.map_map] at hids
  · intro a ha b hb _ _
    have hne := List.all_eq_true.mp (List.all_eq_true.mp hapart a ha) b hb
    simpa using hne

end Server
end ScheduleSync
