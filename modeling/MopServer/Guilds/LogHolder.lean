import Mathlib.Data.UInt
import MopServer.Foundation.KeyRing
import MopServer.Foundation.Table

/-! # The logs of a guild

A log holds the last events in memory, and each event has a row of the database under a key.  The
keys go round: behind the largest comes zero.  Memory drops the oldest event when it is full, and
the database the one whose key is used again.  These are the same event exactly if the keys of the
loaded events follow each other.
-/

namespace MopServer.Guilds

open MopServer.Foundation

def guildEventLogGuidUndefined : UInt32 := 0xFFFFFFFF

/-- An entry; its data beside the key are the same in memory and in its row. -/
structure LogEntry (Event : Type) where
  guid : UInt32
  event : Event
  deriving DecidableEq

instance (Event : Type) : Keyed (LogEntry Event) UInt32 := ⟨LogEntry.guid⟩

/-- The oldest entry is the first. -/
structure LogHolder (Event : Type) where
  maxRecords : UInt32
  nextGuid : UInt32
  log : List (LogEntry Event)

namespace LogHolder

variable {Event : Type} (maxRecords : UInt32)

def new : LogHolder Event where
  maxRecords := maxRecords
  nextGuid := guildEventLogGuidUndefined
  log := []

variable (holder : LogHolder Event)

def canInsert : Bool :=
  holder.log.length < holder.maxRecords.toNat

def loadEvent (entry : LogEntry Event) : LogHolder Event :=
  { holder with
    nextGuid := if holder.nextGuid = guildEventLogGuidUndefined then entry.guid else holder.nextGuid
    log := entry :: holder.log }

/-- `LoadEventLogFromDB` for the rows of a guild, which come newest first. -/
def load (rows : List (LogEntry Event)) : LogHolder Event :=
  rows.foldl (fun holder row => if holder.canInsert then holder.loadEvent row else holder)
    (new maxRecords)

/-- The key after the last one; the first key is zero. -/
def nextKey (nextGuid : UInt32) : UInt32 :=
  if nextGuid = guildEventLogGuidUndefined then 0 else (nextGuid + 1) % maxRecords

/-- `GetNextGUID`. -/
def getNextGuid : UInt32 × LogHolder Event :=
  let guid := nextKey holder.maxRecords holder.nextGuid
  (guid, { holder with nextGuid := guid })

end LogHolder

/-- A log with its rows of the database, which have one row for each key. -/
structure Journal (Event : Type) where
  holder : LogHolder Event
  rows : UInt32 → Option (LogEntry Event)

namespace Journal

variable {Event : Type} (journal : Journal Event)

/-- `AddEvent`, with `SaveToDB`. -/
def addEvent (entry : LogEntry Event) : Journal Event :=
  let holder := journal.holder
  let log := if holder.log.length ≥ holder.maxRecords.toNat then holder.log.tail else holder.log
  { holder := { holder with log := log ++ [entry] }
    rows := fun guid => if guid = entry.guid then some entry else journal.rows guid }

/-- `_LogEvent`. -/
def logEvent (event : Event) : Journal Event :=
  let (guid, holder) := journal.holder.getNextGuid
  { journal with holder := holder }.addEvent { guid, event }

def logEvents (events : List Event) : Journal Event :=
  events.foldl logEvent journal

end Journal

/-- The rows of a log after the start of the server, oldest first. -/
structure LoadedLog (Event : Type) where
  maxRecords : UInt32
  entries : Table (LogEntry Event)
  pos : 0 < maxRecords.toNat
  length_le : entries.rows.length ≤ maxRecords.toNat

def LoadedLog.start {Event : Type} (loaded : LoadedLog Event) : Journal Event where
  holder := LogHolder.load loaded.maxRecords loaded.entries.rows.reverse
  rows guid := loaded.entries.get? guid

/-- The log and its rows hold the last events of a history, under keys of their own, and reload. -/
structure Recorded {Event : Type} (history : List Event) (journal : Journal Event) : Prop where
  last : journal.holder.log.map LogEntry.event =
    history.drop (history.length - journal.holder.maxRecords.toNat)
  keys : (journal.holder.log.map LogEntry.guid).Nodup
  rows : ∀ guid entry, journal.rows guid = some entry ↔
    entry ∈ journal.holder.log ∧ entry.guid = guid
  reloads : ∀ (time : LogEntry Event → Nat) (rows : List (LogEntry Event)),
    journal.holder.log.Pairwise (fun older newer => time older < time newer) →
    rows.Pairwise (fun newer older => time older < time newer) →
    (∀ entry, entry ∈ rows ↔ journal.rows entry.guid = some entry) →
      LogHolder.load journal.holder.maxRecords rows = journal.holder

/-! ## Loading -/

namespace LogHolder

variable {Event : Type} (rows : List (LogEntry Event)) (holder : LogHolder Event)

/-- If there is room for all rows, they end up in the log in the opposite order. -/
theorem foldl_loadEvent_log (hroom : holder.log.length + rows.length ≤ holder.maxRecords.toNat) :
    let loaded := rows.foldl
      (fun holder row => if holder.canInsert then holder.loadEvent row else holder) holder
    loaded.log = rows.reverse ++ holder.log ∧ loaded.maxRecords = holder.maxRecords := by
  induction rows generalizing holder with
  | nil => exact ⟨rfl, rfl⟩
  | cons row rest ih =>
    rw [List.length_cons] at hroom
    have hinsert : holder.canInsert = true := decide_eq_true (by omega)
    have hrest := ih (holder.loadEvent row) (by
      simp only [loadEvent, List.length_cons]
      omega)
    simp only [List.foldl_cons, hinsert, if_true]
    refine ⟨hrest.1.trans ?_, hrest.2⟩
    simp [loadEvent]

variable {maxRecords : UInt32}

theorem load_log {rows : List (LogEntry Event)} (hroom : rows.length ≤ maxRecords.toNat) :
    (load maxRecords rows).log = rows.reverse ∧
      (load maxRecords rows).maxRecords = maxRecords := by
  have hload := foldl_loadEvent_log rows (new maxRecords) (by simpa [new] using hroom)
  exact ⟨hload.1.trans (List.append_nil _), hload.2⟩

/-- Once a key is defined, it stays. -/
theorem foldl_loadEvent_nextGuid (hdefined : holder.nextGuid ≠ guildEventLogGuidUndefined) :
    (rows.foldl (fun holder row => if holder.canInsert then holder.loadEvent row else holder)
      holder).nextGuid = holder.nextGuid := by
  induction rows generalizing holder with
  | nil => rfl
  | cons row rest ih =>
    have hkept : (holder.loadEvent row).nextGuid = holder.nextGuid := if_neg hdefined
    rw [List.foldl_cons]
    split
    · rw [ih _ (hkept ▸ hdefined), hkept]
    · exact ih holder hdefined

theorem load_nextGuid {rows : List (LogEntry Event)} (hpos : 0 < maxRecords.toNat)
    (hdefined : ∀ row ∈ rows, row.guid ≠ guildEventLogGuidUndefined) :
    (load maxRecords rows).nextGuid =
      (rows.head?.map LogEntry.guid).getD guildEventLogGuidUndefined := by
  cases rows with
  | nil => rfl
  | cons row rest =>
    have hinsert : (new maxRecords : LogHolder Event).canInsert = true := decide_eq_true hpos
    have hfirst : ((new maxRecords).loadEvent row).nextGuid = row.guid := by
      simp [loadEvent, new]
    unfold load
    rw [List.foldl_cons, if_pos hinsert,
      foldl_loadEvent_nextGuid rest _ (hfirst ▸ hdefined row List.mem_cons_self), hfirst]
    rfl

end LogHolder

/-! ## The log in memory -/

namespace Journal

variable {Event : Type}

def entriesAfter (maxRecords : UInt32) : UInt32 → List Event → List (LogEntry Event)
  | _, [] => []
  | guid, event :: rest =>
    let guid := LogHolder.nextKey maxRecords guid
    { guid, event } :: entriesAfter maxRecords guid rest

variable (maxRecords : UInt32) (journal : Journal Event)

theorem map_event_entriesAfter (guid : UInt32) (events : List Event) :
    (entriesAfter maxRecords guid events).map LogEntry.event = events := by
  induction events generalizing guid with
  | nil => rfl
  | cons event rest ih => rw [entriesAfter, List.map_cons, ih]

theorem length_entriesAfter (guid : UInt32) (events : List Event) :
    (entriesAfter maxRecords guid events).length = events.length := by
  rw [← List.length_map LogEntry.event, map_event_entriesAfter]

/-- An event comes last, and the first one goes if there are too many. -/
theorem logEvent_log (event : Event)
    (hlength : journal.holder.log.length ≤ journal.holder.maxRecords.toNat)
    (hpos : 0 < journal.holder.maxRecords.toNat) :
    (journal.logEvent event).holder.log =
      (journal.holder.log ++ entriesAfter journal.holder.maxRecords journal.holder.nextGuid
        [event]).drop (journal.holder.log.length + 1 - journal.holder.maxRecords.toNat) := by
  show (if journal.holder.log.length ≥ journal.holder.maxRecords.toNat then
    journal.holder.log.tail else journal.holder.log) ++ _ = _
  split
  next hfull =>
    have hdrop : journal.holder.log.length + 1 - journal.holder.maxRecords.toNat = 1 := by omega
    rw [hdrop, List.drop_append_of_le_length (by omega), List.drop_one]
    rfl
  next hroom =>
    have hdrop : journal.holder.log.length + 1 - journal.holder.maxRecords.toNat = 0 := by omega
    rw [hdrop, List.drop_zero]
    rfl

theorem logEvents_maxRecords (events : List Event) :
    (journal.logEvents events).holder.maxRecords = journal.holder.maxRecords := by
  induction events generalizing journal with
  | nil => rfl
  | cons event rest ih => exact ih (journal.logEvent event)

theorem logEvents_replicate_succ (n : Nat) (event : Event) :
    journal.logEvents (List.replicate (n + 1) event) =
      (journal.logEvents (List.replicate n event)).logEvent event := by
  rw [List.replicate_succ', logEvents, List.foldl_append]
  rfl

theorem logEvents_log (events : List Event)
    (hlength : journal.holder.log.length ≤ journal.holder.maxRecords.toNat)
    (hpos : 0 < journal.holder.maxRecords.toNat) :
    (journal.logEvents events).holder.log =
      (journal.holder.log ++ entriesAfter journal.holder.maxRecords journal.holder.nextGuid
        events).drop (journal.holder.log.length + events.length -
          journal.holder.maxRecords.toNat) := by
  induction events generalizing journal with
  | nil =>
    have hdrop : journal.holder.log.length - journal.holder.maxRecords.toNat = 0 := by omega
    simp [logEvents, entriesAfter, hdrop]
  | cons event rest ih =>
    have hstep := journal.logEvent_log event hlength hpos
    have hafter : (journal.logEvent event).holder.log.length =
        journal.holder.log.length + 1 -
          (journal.holder.log.length + 1 - journal.holder.maxRecords.toNat) := by
      rw [hstep, List.length_drop, List.length_append]
      rfl
    refine (ih (journal.logEvent event) ?_ hpos).trans ?_
    · rw [hafter]
      show _ ≤ journal.holder.maxRecords.toNat
      omega
    · rw [hafter, hstep]
      show (List.drop _ _ ++ entriesAfter journal.holder.maxRecords
        (LogHolder.nextKey journal.holder.maxRecords journal.holder.nextGuid) rest).drop
          (_ - journal.holder.maxRecords.toNat) = _
      rw [← List.drop_append_of_le_length (by
        rw [List.length_append]
        omega), List.drop_drop, List.append_assoc]
      congr 1
      rw [List.length_cons]
      omega

/-! ## The keys -/

theorem ne_undefined {maxRecords guid : UInt32} (hguid : guid.toNat < maxRecords.toNat) :
    guid ≠ guildEventLogGuidUndefined := by
  rintro rfl
  have hmax := maxRecords.toNat_lt
  simp only [guildEventLogGuidUndefined] at hguid
  have hvalue : (0xFFFFFFFF : UInt32).toNat = 2 ^ 32 - 1 := rfl
  omega

theorem nextKey_toNat {maxRecords guid : UInt32} (hguid : guid.toNat < maxRecords.toNat) :
    (LogHolder.nextKey maxRecords guid).toNat = (guid.toNat + 1) % maxRecords.toNat := by
  have hmax := maxRecords.toNat_lt
  rw [LogHolder.nextKey, if_neg (ne_undefined hguid), UInt32.toNat_mod, UInt32.toNat_add]
  congr 1
  exact Nat.mod_eq_of_lt (by show guid.toNat + 1 < _; omega)

def keysOf (log : List (LogEntry Event)) : List Nat := log.map fun entry => entry.guid.toNat

/-- What holds of the log and its rows as long as the keys follow each other. -/
structure InStep (journal : Journal Event) : Prop where
  pos : 0 < journal.holder.maxRecords.toNat
  length_le : journal.holder.log.length ≤ journal.holder.maxRecords.toNat
  ring : InRing journal.holder.maxRecords.toNat (keysOf journal.holder.log)
  next : journal.holder.nextGuid =
    (journal.holder.log.getLast?.map LogEntry.guid).getD guildEventLogGuidUndefined
  rows : ∀ guid entry, journal.rows guid = some entry ↔
    entry ∈ journal.holder.log ∧ entry.guid = guid

namespace InStep

variable {journal : Journal Event}

theorem length_keysOf (log : List (LogEntry Event)) : (keysOf log).length = log.length :=
  List.length_map _

variable (hstep : InStep journal) (event : Event)

include hstep in
theorem ring_append :
    InRing journal.holder.maxRecords.toNat (keysOf (journal.holder.log ++ entriesAfter
      journal.holder.maxRecords journal.holder.nextGuid [event])) := by
  have hring := hstep.ring
  have hnext := hstep.next
  have hkeys : (keysOf journal.holder.log).getLast? =
      (journal.holder.log.getLast?).map fun entry => entry.guid.toNat := by
    rw [keysOf, List.getLast?_map]
  rw [keysOf, entriesAfter, entriesAfter, List.map_append, List.map_singleton]
  cases hlast : journal.holder.log.getLast? with
  | none =>
    rw [hlast, Option.map_none, Option.getD_none] at hnext
    rw [hlast] at hkeys
    refine hring.append_singleton ?_ fun last hmem => ?_
    · rw [LogHolder.nextKey, if_pos hnext]
      exact hstep.pos
    · rw [hkeys] at hmem
      cases hmem
  | some last =>
    rw [hlast] at hnext hkeys
    have hmem : last.guid.toNat ∈ keysOf journal.holder.log :=
      List.mem_map_of_mem (List.mem_of_getLast? hlast)
    have hkey := nextKey_toNat (hring.below _ hmem)
    rw [← (show journal.holder.nextGuid = last.guid from hnext)] at hkey
    refine hring.append_singleton ?_ fun other hother => ?_
    · rw [hkey]
      exact Nat.mod_lt _ hstep.pos
    · rw [hkeys] at hother
      obtain rfl : last.guid.toNat = other := by simpa using hother
      rw [hkey, show journal.holder.nextGuid = last.guid from hnext]

include hstep event in
/-- What memory drops is what has the next key, and no other entry has it. -/
theorem kept : let guid := LogHolder.nextKey journal.holder.maxRecords journal.holder.nextGuid
    let kept := journal.holder.log.drop
      (journal.holder.log.length + 1 - journal.holder.maxRecords.toNat)
    (∀ entry ∈ kept, entry.guid ≠ guid) ∧
      ∀ entry ∈ journal.holder.log, entry.guid ≠ guid → entry ∈ kept := by
  intro guid kept
  have hring := hstep.ring_append event
  have hlength := hstep.length_le
  have hpos := hstep.pos
  constructor
  · have hdrop := hring.drop
      (journal.holder.log.length + 1 - journal.holder.maxRecords.toNat)
    rw [keysOf, ← List.map_drop, List.drop_append_of_le_length (by omega), entriesAfter,
      entriesAfter, List.map_append, List.map_singleton] at hdrop
    have hnodup := hdrop.nodup (by
      simp only [List.length_append, List.length_map, List.length_drop, List.length_singleton]
      omega)
    intro entry hentry heq
    exact (List.nodup_append.mp hnodup).2.2 _ (List.mem_map_of_mem hentry) _
      (List.mem_singleton_self _) (congrArg UInt32.toNat heq)
  · intro entry hentry hne
    rcases Nat.lt_or_ge journal.holder.log.length journal.holder.maxRecords.toNat with hroom | hfull
    · have hnone : journal.holder.log.length + 1 - journal.holder.maxRecords.toNat = 0 := by omega
      show entry ∈ List.drop _ _
      rwa [hnone, List.drop_zero]
    · have hone : journal.holder.log.length + 1 - journal.holder.maxRecords.toNat = 1 := by omega
      show entry ∈ List.drop _ _
      rw [hone]
      cases hlog : journal.holder.log with
      | nil => exact absurd (hlog ▸ hentry) List.not_mem_nil
      | cons first rest =>
        rw [hlog] at hring hentry hfull hlength
        rw [keysOf, entriesAfter, entriesAfter, List.map_append, List.map_cons,
          List.map_singleton] at hring
        have hfirst := hring.last_eq_first (by
          rw [List.length_cons] at hfull hlength
          rw [List.length_map]
          omega)
        rcases List.mem_cons.mp hentry with rfl | hrest
        · exact absurd (UInt32.toNat_inj.mp hfirst.symm) hne
        · exact hrest

include hstep in
theorem logEvent : InStep (journal.logEvent event) := by
  have hlog := journal.logEvent_log event hstep.length_le hstep.pos
  have hpos := hstep.pos
  obtain ⟨hfresh, hkeep⟩ := hstep.kept event
  have happend : (journal.logEvent event).holder.log = journal.holder.log.drop
      (journal.holder.log.length + 1 - journal.holder.maxRecords.toNat) ++
        [{ guid := LogHolder.nextKey journal.holder.maxRecords journal.holder.nextGuid
           event }] := by
    rw [hlog, List.drop_append_of_le_length (by omega)]
    rfl
  refine ⟨hpos, ?_, ?_, ?_, ?_⟩
  · rw [happend, List.length_append, List.length_drop, List.length_singleton]
    show _ ≤ journal.holder.maxRecords.toNat
    omega
  · have hdrop := (hstep.ring_append event).drop
      (journal.holder.log.length + 1 - journal.holder.maxRecords.toNat)
    rw [keysOf, ← List.map_drop] at hdrop
    rw [hlog]
    exact hdrop
  · rw [happend, List.getLast?_concat]
    rfl
  · intro guid entry
    rw [happend, List.mem_append, List.mem_singleton]
    show (if guid = LogHolder.nextKey journal.holder.maxRecords journal.holder.nextGuid then _
      else journal.rows guid) = some entry ↔ _
    split
    next heq =>
      rw [heq, Option.some.injEq]
      constructor
      · rintro rfl
        exact ⟨.inr rfl, rfl⟩
      · rintro ⟨hold | hnew, hguid⟩
        · exact absurd hguid (hfresh entry hold)
        · exact hnew.symm
    next hne =>
      rw [hstep.rows]
      constructor
      · rintro ⟨hold, hguid⟩
        exact ⟨.inl (hkeep entry hold (hguid ▸ hne)), hguid⟩
      · rintro ⟨hold | rfl, hguid⟩
        · exact ⟨List.mem_of_mem_drop hold, hguid⟩
        · exact absurd hguid.symm hne

include hstep in
theorem logEvents (events : List Event) : InStep (journal.logEvents events) := by
  induction events generalizing journal with
  | nil => exact hstep
  | cons event rest ih => exact ih (hstep.logEvent event)

include hstep in
theorem nodup : (journal.holder.log.map LogEntry.guid).Nodup := by
  have hkeys := hstep.ring.nodup (by rw [length_keysOf]; exact hstep.length_le)
  apply List.Nodup.of_map UInt32.toNat
  rw [List.map_map]
  exact hkeys

include hstep in
/-- The rows, read from the newest to the oldest, give the log back. -/
theorem reloads {time : LogEntry Event → Nat} {rows : List (LogEntry Event)}
    (hlog : journal.holder.log.Pairwise fun older newer => time older < time newer)
    (hrows : rows.Pairwise fun newer older => time older < time newer)
    (hall : ∀ entry, entry ∈ rows ↔ journal.rows entry.guid = some entry) :
    LogHolder.load journal.holder.maxRecords rows = journal.holder := by
  have hsame : rows.reverse = journal.holder.log := by
    have hreverse : rows.reverse.Pairwise fun older newer => time older < time newer :=
      List.pairwise_reverse.mpr hrows
    refine List.Perm.eq_of_pairwise (fun _ _ _ _ hlt hgt => absurd hlt (Nat.lt_asymm hgt))
      hreverse hlog ((List.perm_ext_iff_of_nodup ?_ ?_).mpr fun entry => ?_)
    · refine hreverse.imp fun hlt => ?_
      rintro rfl
      exact Nat.lt_irrefl _ hlt
    · exact hstep.nodup.of_map
    · rw [List.mem_reverse, hall, hstep.rows]
      exact and_iff_left rfl
  have hlength : rows.length ≤ journal.holder.maxRecords.toNat := by
    rw [← List.length_reverse, hsame]
    exact hstep.length_le
  have hdefined : ∀ row ∈ rows, row.guid ≠ guildEventLogGuidUndefined := by
    intro row hrow
    have hmem : row ∈ journal.holder.log := hsame ▸ List.mem_reverse.mpr hrow
    exact ne_undefined (hstep.ring.below _ (List.mem_map_of_mem hmem))
  obtain ⟨hloaded, hmax⟩ := LogHolder.load_log hlength
  have hnext := LogHolder.load_nextGuid hstep.pos hdefined
  rw [← List.getLast?_reverse, hsame, ← hstep.next] at hnext
  rw [hsame] at hloaded
  generalize LogHolder.load journal.holder.maxRecords rows = loaded at *
  cases loaded
  cases hloaded
  cases hmax
  cases hnext
  rfl

end InStep

/-- If memory and rows agree before an event on a full log, and also after it, then the first entry
had the key of the new one. -/
theorem first_guid_eq {journal : Journal Event} {event : Event} {first : LogEntry Event}
    {rest : List (LogEntry Event)} (hlog : journal.holder.log = first :: rest)
    (hfull : rest.length + 1 = journal.holder.maxRecords.toNat)
    (hkeys : (journal.holder.log.map LogEntry.guid).Nodup)
    (hbefore : journal.rows first.guid = some first)
    (hafter : ∀ guid entry, (journal.logEvent event).rows guid = some entry ↔
      entry ∈ (journal.logEvent event).holder.log ∧ entry.guid = guid) :
    first.guid = LogHolder.nextKey journal.holder.maxRecords journal.holder.nextGuid := by
  by_contra hne
  have hrow : (journal.logEvent event).rows first.guid = some first := (if_neg hne).trans hbefore
  have hmem := ((hafter first.guid first).mp hrow).1
  have hlength : journal.holder.log.length = rest.length + 1 := by rw [hlog, List.length_cons]
  rw [logEvent_log journal event (by omega) (by omega), hlength, hfull,
    Nat.add_sub_cancel_left, hlog, List.cons_append, List.drop_one, List.tail_cons,
    List.mem_append] at hmem
  rw [hlog, List.map_cons, List.nodup_cons] at hkeys
  rcases hmem with hrest | hnew
  · exact hkeys.1 (List.mem_map_of_mem hrest)
  · rw [List.mem_singleton.mp hnew] at hne
    exact hne rfl

end Journal

/-! ## Histories -/

variable {Event : Type} (loaded : LoadedLog Event)

theorem start_log :
    loaded.start.holder.log = loaded.entries.rows ∧
      loaded.start.holder.maxRecords = loaded.maxRecords := by
  have hroom : loaded.entries.rows.reverse.length ≤ loaded.maxRecords.toNat := by
    rw [List.length_reverse]
    exact loaded.length_le
  have hload := LogHolder.load_log hroom
  rw [List.reverse_reverse] at hload
  exact hload

theorem start_inStep {loaded : LoadedLog Event}
    (hring : InRing loaded.maxRecords.toNat (Journal.keysOf loaded.entries.rows)) :
    loaded.start.InStep := by
  obtain ⟨hlog, hmax⟩ := start_log loaded
  have hdefined : ∀ row ∈ loaded.entries.rows.reverse, row.guid ≠ guildEventLogGuidUndefined :=
    fun row hrow => Journal.ne_undefined
      (hring.below _ (List.mem_map_of_mem (List.mem_reverse.mp hrow)))
  refine ⟨?_, ?_, ?_, ?_, ?_⟩
  · rw [hmax]
    exact loaded.pos
  · rw [hlog, hmax]
    exact loaded.length_le
  · rwa [hlog, hmax]
  · rw [hlog, ← List.head?_reverse]
    exact LogHolder.load_nextGuid loaded.pos hdefined
  · intro guid entry
    rw [hlog]
    exact Table.get?_eq_some_iff

/-- From rows whose keys run around the ring, memory and rows record every further event. -/
theorem recorded_of_inRing {loaded : LoadedLog Event}
    (hring : InRing loaded.maxRecords.toNat (Journal.keysOf loaded.entries.rows))
    (events : List Event) :
    Recorded (loaded.entries.rows.map LogEntry.event ++ events)
      (loaded.start.logEvents events) := by
  have hstep := (start_inStep hring).logEvents events
  obtain ⟨hlog, hmax⟩ := start_log loaded
  refine ⟨?_, hstep.nodup, hstep.rows, fun time rows => hstep.reloads⟩
  rw [Journal.logEvents_log _ _ (start_inStep hring).length_le (start_inStep hring).pos,
    Journal.logEvents_maxRecords, List.map_drop, List.map_append, Journal.map_event_entriesAfter,
    hlog, List.length_append, List.length_map]

/-- An event added to the full log comes with the key of the entry that memory drops. -/
theorem guid_of_recorded {loaded : LoadedLog Event} (event : Event)
    (hall : ∀ events, Recorded (loaded.entries.rows.map LogEntry.event ++ events)
      (loaded.start.logEvents events)) (i : Nat) (hi : i < loaded.entries.rows.length) :
    let before := loaded.start.logEvents
      (List.replicate (loaded.maxRecords.toNat - loaded.entries.rows.length + i) event)
    loaded.entries.rows[i].guid =
      LogHolder.nextKey loaded.maxRecords before.holder.nextGuid := by
  intro before
  obtain ⟨hlog, hmax⟩ := start_log loaded
  have hlength := loaded.length_le
  have hbefore : Recorded _ before := hall _
  have hafter : Recorded _ (before.logEvent event) :=
    Journal.logEvents_replicate_succ _ _ event ▸ hall (List.replicate
      (loaded.maxRecords.toNat - loaded.entries.rows.length + i + 1) event)
  have hmaxBefore : before.holder.maxRecords = loaded.maxRecords :=
    (Journal.logEvents_maxRecords _ _).trans hmax
  -- The entry is the first one of the log, which is full.
  have hkept := Journal.logEvents_log loaded.start
    (List.replicate (loaded.maxRecords.toNat - loaded.entries.rows.length + i) event)
    (by rw [hlog, hmax]; exact hlength) (by rw [hmax]; exact loaded.pos)
  have hdrop : loaded.entries.rows.length +
      (loaded.maxRecords.toNat - loaded.entries.rows.length + i) - loaded.maxRecords.toNat = i := by
    omega
  rw [hlog, hmax, List.length_replicate, hdrop, List.drop_append_of_le_length (Nat.le_of_lt hi),
    List.drop_eq_getElem_cons hi, List.cons_append] at hkept
  have hmem : loaded.entries.rows[i] ∈ before.holder.log := hkept ▸ List.mem_cons_self
  rw [← hmaxBefore]
  refine Journal.first_guid_eq hkept ?_ hbefore.keys ((hbefore.rows _ _).mpr ⟨hmem, rfl⟩)
    hafter.rows
  rw [List.length_append, List.length_drop, Journal.length_entriesAfter, List.length_replicate,
    hmaxBefore]
  omega

/-- Memory, the rows and a restart agree after every run of events if and only if the keys of the
loaded entries follow each other. -/
theorem recorded_iff_inRing :
    (∀ events, Recorded (loaded.entries.rows.map LogEntry.event ++ events)
      (loaded.start.logEvents events)) ↔
      InRing loaded.maxRecords.toNat (loaded.entries.rows.map fun entry => entry.guid.toNat) := by
  constructor
  · intro hall
    cases hrows : loaded.entries.rows with
    | nil => exact InRing.nil _
    | cons oldest rest =>
      have hguid := guid_of_recorded oldest.event hall
      rw [← hrows]
      have hbelow : ∀ i, ∀ hi : i < loaded.entries.rows.length,
          loaded.entries.rows[i].guid.toNat < loaded.maxRecords.toNat := by
        intro i hi
        rw [hguid i hi, LogHolder.nextKey]
        split
        · exact loaded.pos
        · rw [UInt32.toNat_mod]
          exact Nat.mod_lt _ loaded.pos
      constructor
      · intro key hkey
        obtain ⟨entry, hentry, rfl⟩ := List.mem_map.mp hkey
        obtain ⟨i, hi, rfl⟩ := List.getElem_of_mem hentry
        exact hbelow i hi
      · apply List.isChain_iff_getElem.mpr
        intro i hi
        rw [List.length_map] at hi
        rw [List.getElem_map, List.getElem_map, ← Journal.nextKey_toNat (hbelow i (by omega)),
          hguid (i + 1) hi]
        congr 2
        rw [← Nat.add_assoc, Journal.logEvents_replicate_succ]
        show LogHolder.nextKey (Journal.logEvents _ _).holder.maxRecords _ = _
        rw [Journal.logEvents_maxRecords, (start_log loaded).2]
        exact (hguid i (by omega)).symm
  · exact fun hring => recorded_of_inRing hring

/-- Of three entries, the second has been deleted with its player.  The next event takes the row of
the oldest one, which is still in memory. -/
theorem not_always_recorded :
    ¬ ∀ (loaded : LoadedLog Nat) (events : List Nat),
      Recorded (loaded.entries.rows.map LogEntry.event ++ events)
        (loaded.start.logEvents events) := by
  intro hall
  have hkeys := (hall
    { maxRecords := 3
      entries := { rows := [⟨0, 10⟩, ⟨2, 12⟩], nodup := by decide }
      pos := by decide
      length_le := by decide } [13]).keys
  exact absurd hkeys (by decide)

end MopServer.Guilds
