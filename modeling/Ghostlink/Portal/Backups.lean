import Ghostlink.Base.Runs
import Mathlib.Tactic

/-! Backups of the portal's database. Every table is dumped by a query of its own, outside a
transaction, and handlers commit in between. The file gives back what was dumped. -/

namespace Ghostlink.Portal
open List Function

inductive Table
  | users | tokens | sessions | credentials | projects | securityEvents | mfaTotp
  | mfaRecoveryCodes | webauthnCredentials | developerDevices | pairingCodes | apiCredentials
  | apiTokens | apiActivity
  deriving DecidableEq

open Table

def tables : List Table :=
  [users, tokens, sessions, credentials, projects, securityEvents, mfaTotp, mfaRecoveryCodes,
    webauthnCredentials, developerDevices, pairingCodes, apiCredentials, apiTokens, apiActivity]

/-- The columns that reference the `id` of another table. -/
def references : Table → List (String × Table)
  | users => []
  | apiCredentials =>
    [("user_id", users), ("project_id", projects), ("device_id", developerDevices)]
  | apiTokens =>
    [("user_id", users), ("device_id", developerDevices), ("project_id", projects),
      ("credential_id", apiCredentials)]
  | apiActivity =>
    [("user_id", users), ("device_id", developerDevices), ("project_id", projects)]
  | _ => [("user_id", users)]

inductive Cell
  | null
  | int (n : ℤ)
  | text (s : String)
  deriving DecidableEq

abbrev Row := List (String × Cell)

def Row.get (row : Row) (column : String) : Cell := (row.lookup column).getD .null

abbrev Database := Table → List Row

/-- Every reference of the row is null or finds its row. -/
def Database.accepts (db : Database) (t : Table) (row : Row) : Bool :=
  (references t).all fun ref =>
    Row.get row ref.1 = .null || (db ref.2).any fun p => Row.get p "id" = Row.get row ref.1

def Database.Valid (db : Database) : Prop := ∀ t, ∀ row ∈ db t, db.accepts t row

abbrev Dump := List (Table × List Row)

/-- PostgreSQL enforces foreign keys, and SQLite does when the connection asks for it. -/
def insertRows (enforced : Bool) (t : Table) : List Row → Database → Option Database
  | [], db => some db
  | row :: rows, db =>
    if enforced && !db.accepts t row then none
    else insertRows enforced t rows (update db t (db t ++ [row]))

/-- The transaction of `restore_backup`. -/
def restore (enforced : Bool) : Dump → Database → Option Database
  | [], db => some db
  | (t, rows) :: data, db => (insertRows enforced t rows db).bind (restore enforced data)

/-- `_dump_rows` between two queries; `past` lists the states the database has had. -/
structure Dumping where
  db : Database
  left : List Table
  data : Dump
  past : List Database

inductive Event
  | read
  | commit (next : Database)

def Dumping.step (s : Dumping) : Event → Dumping
  | .read =>
    match s.left with
    | [] => s
    | t :: rest => { s with left := rest, data := s.data ++ [(t, s.db t)] }
  | .commit next => { s with db := next, past := s.past ++ [next] }

def Dumping.start (db : Database) : Dumping :=
  { db, left := tables, data := [], past := [db] }

/-- A commit keeps the references valid and, while tables are left to dump, leaves alone the tables
that have been dumped. -/
def Dumping.Quiet (s : Dumping) : Event → Prop
  | .read => True
  | .commit next => next.Valid ∧ (s.left ≠ [] → ∀ e ∈ s.data, next e.1 = e.2)

/-- Each table is dumped after those it references. -/
def ordered : List Table → List Table → Bool
  | _, [] => true
  | done, t :: rest =>
    !done.contains t && (references t).all (fun ref => done.contains ref.2) &&
      ordered (t :: done) rest

/-- The tables restored so far. -/
def only (done : List Table) (db : Database) : Database := fun t => if t ∈ done then db t else []

lemma accepts_of_same {db db' : Database} {t row}
    (same : ∀ ref ∈ references t, db' ref.2 = db ref.2) (h : db.accepts t row) :
    db'.accepts t row := by
  simp only [Database.accepts, all_eq_true] at h ⊢
  intro ref mem
  rw [same ref mem]
  exact h ref mem

lemma insertRows_eq (enforced) {t rows} {db : Database}
    (apart : ∀ ref ∈ references t, ref.2 ≠ t) (fine : ∀ row ∈ rows, db.accepts t row) :
    insertRows enforced t rows db = some (update db t (db t ++ rows)) := by
  induction rows generalizing db with
  | nil => simp [insertRows]
  | cons row rows ih =>
    have next : ∀ r ∈ rows,
        Database.accepts (update db t (db t ++ [row])) t r := by
      intro r mem
      have kept : ∀ ref ∈ references t, update db t (db t ++ [row]) ref.2 = db ref.2 :=
        fun ref listed => update_of_ne (apart ref listed) _ _
      exact accepts_of_same kept (fine r (mem_cons_of_mem _ mem))
    have first := fine row mem_cons_self
    simp [insertRows, first, ih next]

lemma update_only {done t} (new : t ∉ done) (db) :
    update (only done db) t (only done db t ++ db t) = only (t :: done) db := by
  funext u
  by_cases own : u = t
  · rw [own, update_self]
    simp [only, new]
  · rw [update_of_ne own]
    simp [only, own]

lemma restore_only (enforced) {db : Database} (valid : db.Valid) {done rest : List Table}
    (order : ordered done rest) :
    restore enforced (rest.map fun t => (t, db t)) (only done db) =
      some (only (rest.reverse ++ done) db) := by
  induction rest generalizing done with
  | nil => rfl
  | cons t rest ih =>
    simp only [ordered, Bool.and_eq_true, Bool.not_eq_true', all_eq_true,
      contains_eq_mem, decide_eq_true_eq, decide_eq_false_iff_not] at order
    obtain ⟨⟨new, earlier⟩, later⟩ := order
    have apart : ∀ ref ∈ references t, ref.2 ≠ t := by
      intro ref mem same
      exact new (same ▸ earlier ref mem)
    have fine : ∀ row ∈ db t, (only done db).accepts t row := by
      intro row mem
      refine accepts_of_same (fun ref listed => ?_) (valid t row mem)
      exact if_pos (earlier ref listed)
    rw [map_cons, restore, insertRows_eq enforced apart fine, update_only new,
      Option.bind_some, ih later, reverse_cons, append_assoc, singleton_append]

lemma restore_snapshot (enforced) {db : Database} (valid : db.Valid) :
    restore enforced (tables.map fun t => (t, db t)) (fun _ => []) = some db := by
  have order : ordered [] tables := by decide
  have all : ∀ t, t ∈ tables.reverse ++ [] := by
    intro t
    cases t <;> decide
  have full : only (tables.reverse ++ []) db = db := funext fun t => if_pos (all t)
  rw [← full]
  exact full.symm ▸ restore_only enforced valid order

namespace Dumping
variable {s : Dumping} {e : Event}

/-- What has been dumped is of one state, which is the present one while tables are left. -/
structure OfOneState (s : Dumping) : Prop where
  valid : s.db.Valid
  present : s.db ∈ s.past
  listed : s.data.map Prod.fst ++ s.left = tables
  moment : ∃ db ∈ s.past, db.Valid ∧ (s.left ≠ [] → db = s.db) ∧ ∀ e ∈ s.data, db e.1 = e.2

lemma OfOneState.step (h : s.OfOneState) (quiet : s.Quiet e) : (s.step e).OfOneState := by
  obtain ⟨db, had, fine, current, same⟩ := h.moment
  cases e with
  | read =>
    simp only [Dumping.step]
    cases tables_left : s.left with
    | nil => exact h
    | cons t rest =>
      have now : db = s.db := current (by simp [tables_left])
      refine ⟨h.valid, h.present, ?_, db, had, fine, fun _ => now, ?_⟩
      · have listed := h.listed
        rw [tables_left] at listed
        simpa using listed
      · intro entry mem
        rcases mem_append.mp mem with old | new
        · exact same entry old
        · rw [mem_singleton.mp new, now]
  | commit next =>
    obtain ⟨valid, undisturbed⟩ := quiet
    have latest : next ∈ s.past ++ [next] := by simp
    refine ⟨valid, latest, h.listed, ?_⟩
    by_cases over_ : s.left = []
    · exact ⟨db, mem_append_left _ had, fine, fun more => absurd over_ more, same⟩
    · exact ⟨next, latest, valid, fun _ => rfl, undisturbed over_⟩

/-- A backup restores to a state the database has had, if no commit touches a dumped table while
others are left. -/
theorem quiet_backup_restorable (enforced : Bool) {db : Database} (valid : db.Valid)
    (events : List Event) (quiet : Runs.Along Dumping.step Quiet (start db) events)
    (finished : (events.foldl Dumping.step (start db)).left = []) :
    ∃ state ∈ (events.foldl Dumping.step (start db)).past, state.Valid ∧
      restore enforced (events.foldl Dumping.step (start db)).data (fun _ => []) = some state := by
  have begun : (start db).OfOneState :=
    ⟨valid, by simp [start], rfl, db, by simp [start], valid, fun _ => rfl, by simp [start]⟩
  have result := quiet.invariant begun fun s e h ok => h.step ok
  obtain ⟨state, had, fine, -, same⟩ := result.moment
  have listed := result.listed
  rw [finished, append_nil] at listed
  have snapshot : (events.foldl Dumping.step (start db)).data = tables.map fun t => (t, state t) := by
    rw [← listed, map_map]
    refine (map_id _).symm.trans (map_congr_left fun entry mem => ?_)
    exact Prod.ext rfl (same entry mem).symm
  exact ⟨state, had, fine, snapshot ▸ restore_snapshot enforced fine⟩

/-- One user; the user with a token; or two users and a token of the second. -/
def oneUser : Database
  | users => [[("id", .int 1)]]
  | _ => []

def signedIn : Database
  | users => [[("id", .int 1)]]
  | tokens => [[("id", .int 1), ("user_id", .int 1)]]
  | _ => []

def twoUsers : Database
  | users => [[("id", .int 1)], [("id", .int 2)]]
  | tokens => [[("id", .int 1), ("user_id", .int 2)]]
  | _ => []

lemma valid_oneUser : oneUser.Valid := by
  intro t
  cases t <;> decide

/-- The user is given the token after the users have been dumped and before the tokens are. -/
def signIn : List Event := .read :: .commit signedIn :: List.replicate 13 .read

theorem signIn_backup_restorable :
    ∃ state ∈ (signIn.foldl Dumping.step (start oneUser)).past, state.Valid ∧
      restore true (signIn.foldl Dumping.step (start oneUser)).data (fun _ => []) = some state := by
  refine quiet_backup_restorable true valid_oneUser signIn ⟨trivial, ⟨?_, fun _ => ?_⟩, ?_⟩ rfl
  · intro t
    cases t <;> decide
  · simp [start, tables, Dumping.step, oneUser, signedIn]
  · simp [List.replicate, Runs.Along, Quiet]

/-- A user signs up and is given a token after the users have been dumped. -/
theorem signup_breaks_backup :
    oneUser.Valid ∧ twoUsers.Valid ∧
      (restore true ((Event.read :: .commit twoUsers :: List.replicate 13 .read).foldl
        Dumping.step (start oneUser)).data fun _ => []).isNone := by
  refine ⟨valid_oneUser, fun t => ?_, by decide +kernel⟩
  cases t <;> decide

end Dumping
end Ghostlink.Portal
