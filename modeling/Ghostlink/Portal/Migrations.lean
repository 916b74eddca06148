import Mathlib.Data.List.Basic
import Mathlib.Tactic

/-! The migrations of the SQLite schema. `executescript` commits what is pending before it runs, so
a migration is not one transaction: each statement is kept as it is done, and the version mark is
the last of the writes. What a run leaves when it stops is a number of these writes. -/

namespace Ghostlink.Portal
open List

inductive SchemaObject
  | table (name : String)
  | index (name : String)
  | roleColumn
  deriving DecidableEq

open SchemaObject

/-- A statement that adds what is not there yet. `users` is created with its role column. -/
structure Addition where
  object : SchemaObject
  needs : List SchemaObject
  brings : List SchemaObject
  deriving DecidableEq

def createTable (name : String) : Addition :=
  ⟨table name, [], if name = "users" then [roleColumn] else []⟩

def createIndex (name owner : String) : Addition := ⟨index name, [table owner], []⟩

def baseSchema : List Addition :=
  ["schema_meta", "users", "tokens", "sessions", "credentials", "projects", "security_events",
    "mfa_totp", "mfa_recovery_codes", "webauthn_credentials"].map createTable

def indexes : List Addition :=
  [createIndex "idx_sessions_user" "sessions", createIndex "idx_sessions_token_hash" "sessions",
    createIndex "idx_tokens_hash" "tokens", createIndex "idx_tokens_user" "tokens",
    createIndex "idx_credentials_user" "credentials",
    createIndex "idx_credentials_key_id" "credentials", createIndex "idx_projects_user" "projects",
    createIndex "idx_security_events_user_time" "security_events",
    createIndex "idx_recovery_user" "mfa_recovery_codes",
    createIndex "idx_webauthn_user" "webauthn_credentials"]

def devApiSchema : List Addition :=
  ["developer_devices", "pairing_codes", "api_credentials", "api_tokens", "api_activity"].map
      createTable ++
    [createIndex "idx_devices_user" "developer_devices",
      createIndex "idx_api_tokens_hash" "api_tokens",
      createIndex "idx_api_activity_user_time" "api_activity",
      createIndex "idx_pairing_nonce" "pairing_codes"]

def addUserRole : Addition := ⟨roleColumn, [table "users"], []⟩

def migrations : List (ℕ × List Addition) :=
  [(1, baseSchema), (2, indexes), (3, devApiSchema ++ [addUserRole])]

structure Schema where
  objects : List SchemaObject
  version : ℕ

inductive Write
  | add (a : Addition)
  | mark (version : ℕ)
  deriving DecidableEq

/-- `none` where SQLite raises an error. -/
def Schema.write (db : Schema) : Write → Option Schema
  | .add a =>
    if a.object ∈ db.objects then some db
    else if a.needs ⊆ db.objects then
      some { db with objects := db.objects ++ a.object :: a.brings }
    else none
  | .mark version => some { db with version }

/-- The writes of `_init_schema` on a database that records the version. -/
def writes (current : ℕ) : List Write :=
  .add (createTable "schema_meta") :: (migrations.filter fun m => current < m.1).flatMap fun m =>
    m.2.map .add ++ [.mark m.1]

/-- What `_init_schema` has done when it stops, or a statement fails, after `n` writes. -/
def Schema.initUpTo (n : ℕ) (db : Schema) : Option Schema :=
  ((writes db.version).take n).foldlM Schema.write db

def schemaVersion : ℕ := 3

/-- A database of a newer version is refused. -/
def Schema.init (db : Schema) : Option Schema :=
  if schemaVersion < db.version then none else (writes db.version).foldlM Schema.write db

/-- The objects of the schema of a version. A database from before the third may lack the role. -/
def complete (version : ℕ) : List SchemaObject :=
  (migrations.filter fun m => m.1 ≤ version).flatMap fun m => m.2.map Addition.object

/-- The same with the version mark's own table and the role column, which `users` may have already. -/
def schemaOf (version : ℕ) : List SchemaObject := table "schema_meta" :: roleColumn :: complete version

/-- The run has not stopped among the statements of a migration. -/
def between (current n : ℕ) : Bool :=
  ((writes current).take n).getLast?.all fun
    | .add a => a.object = table "schema_meta"
    | .mark _ => true

/-- What a statement needs stands before it, and what a version comprises before its mark. -/
def ready : List SchemaObject → List Write → Bool
  | _, [] => true
  | there, .add a :: ws => a.needs ⊆ there && ready (a.object :: there) ws
  | there, .mark version :: ws => (version ≤ 3 && complete version ⊆ there) && ready there ws

def Schema.Sound (db : Schema) : Prop := db.version ≤ 3 ∧ complete db.version ⊆ db.objects

def lastMark (ws : List Write) (version : ℕ) : ℕ :=
  ws.foldl (fun v w => match w with | .add _ => v | .mark k => k) version

lemma Schema.writes_sound {ws there} (steps : ready there ws) (db : Schema) (sound : db.Sound)
    (known : there ⊆ db.objects) (n) :
    ∃ db', (ws.take n).foldlM Schema.write db = some db' ∧ db'.Sound ∧
      db'.version = lastMark (ws.take n) db.version := by
  -- objects are only added, and a mark stands after all that its version comprises
  induction ws generalizing there db n with
  | nil => exact ⟨db, by rw [take_nil]; rfl, sound, by rw [take_nil]; rfl⟩
  | cons w ws ih =>
    cases n with
    | zero => exact ⟨db, rfl, sound, rfl⟩
    | succ n =>
      rw [take_succ_cons, foldlM_cons]
      cases w with
      | add a =>
        simp only [ready, Bool.and_eq_true, decide_eq_true_eq] at steps
        rw [Schema.write]
        split_ifs with present fits
        · exact ih steps.2 db sound (cons_subset.mpr ⟨present, known⟩) n
        · have grows : db.objects ⊆ db.objects ++ a.object :: a.brings := subset_append_left ..
          refine ih steps.2 ⟨db.objects ++ a.object :: a.brings, _⟩
            ⟨sound.1, Subset.trans sound.2 grows⟩ (cons_subset.mpr ⟨?_, Subset.trans known grows⟩) n
          simp
        · exact absurd (Subset.trans steps.1 known) fits
      | mark version =>
        simp only [ready, Bool.and_eq_true, decide_eq_true_eq] at steps
        obtain ⟨⟨supported, comprised⟩, rest⟩ := steps
        exact ih rest { db with version } ⟨supported, Subset.trans comprised known⟩ known n

lemma ready_writes {version} (supported : version ≤ 3) :
    ready (complete version) (writes version) := by
  interval_cases version <;> decide +kernel

lemma lastMark_writes {version} (supported : version ≤ 3) :
    lastMark (writes version) version = 3 := by
  interval_cases version <;> decide +kernel

def added (ws : List Write) : List SchemaObject :=
  ws.flatMap fun
    | .add a => a.object :: a.brings
    | .mark _ => []

lemma Schema.objects_writes {ws : List Write} {db db' : Schema}
    (h : ws.foldlM Schema.write db = some db') : db'.objects ⊆ db.objects ++ added ws := by
  induction ws generalizing db with
  | nil =>
    cases h
    exact subset_append_left ..
  | cons w ws ih =>
    obtain ⟨next, written, rest⟩ := Option.bind_eq_some_iff.mp h
    have grown : next.objects ⊆ db.objects ++ added [w] := by
      unfold Schema.write at written
      split at written
      · split_ifs at written <;> cases written <;> simp [added]
      · cases written
        simp
    refine Subset.trans (ih rest) ?_
    rw [show added (w :: ws) = added [w] ++ added ws by simp [added], ← append_assoc]
    exact append_subset.mpr ⟨Subset.trans grown (subset_append_left ..), subset_append_right ..⟩

lemma added_between {version} (supported : version ≤ 3) :
    ∀ n ≤ (writes version).length, between version n →
      schemaOf version ++ added ((writes version).take n) ⊆
        schemaOf (lastMark ((writes version).take n) version) := by
  interval_cases version <;> decide +kernel

/-- Wherever a run stops, the database has at least the schema of the version it records, and the
next run reaches the latest. If it stops between two migrations, it has nothing more. -/
theorem migrations_resumable (db : Schema) (sound : db.Sound) (n : ℕ) :
    ∃ db', db.initUpTo n = some db' ∧ db'.Sound ∧
      (∃ latest, db'.init = some latest ∧ latest.version = 3 ∧ complete 3 ⊆ latest.objects) ∧
      (db.objects ⊆ schemaOf db.version → between db.version n →
        db'.objects ⊆ schemaOf db'.version) := by
  obtain ⟨db', stopped, sound', marked⟩ :=
    Schema.writes_sound (ready_writes sound.1) db sound sound.2 n
  obtain ⟨latest, done, whole, last⟩ :=
    Schema.writes_sound (ready_writes sound'.1) db' sound' sound'.2 (writes db'.version).length
  rw [take_length] at done last
  rw [lastMark_writes sound'.1] at last
  have again : db'.init = some latest := (if_neg sound'.1.not_gt).trans done
  refine ⟨db', stopped, sound', ⟨latest, again, last, last ▸ whole.2⟩, fun exact cut => ?_⟩
  have capped : (writes db.version).take (min n (writes db.version).length) =
      (writes db.version).take n := by rw [← take_take, take_length]
  have fits := added_between sound.1 (min n (writes db.version).length) (min_le_right ..)
    (by rwa [between, capped])
  rw [capped] at fits
  rw [marked]
  exact Subset.trans (Schema.objects_writes stopped)
    (Subset.trans (append_subset.mpr ⟨Subset.trans exact (subset_append_left ..),
      subset_append_right ..⟩) fits)

/-- A fresh database, with a stop after the first migration. -/
theorem fresh_database_resumable :
    ∃ db', Schema.initUpTo 12 ⟨[], 0⟩ = some db' ∧ db'.Sound ∧
      (∃ latest, db'.init = some latest ∧ latest.version = 3 ∧ complete 3 ⊆ latest.objects) ∧
      db'.objects ⊆ schemaOf db'.version := by
  obtain ⟨db', stopped, sound, resumed, exact⟩ :=
    migrations_resumable ⟨[], 0⟩ ⟨by decide, by decide⟩ 12
  exact ⟨db', stopped, sound, resumed, exact (nil_subset _) (by decide +kernel)⟩

/-- A stop within the third migration: its first table is there, and version 2 is recorded. -/
theorem stopped_migration_visible :
    (Schema.initUpTo 2 ⟨complete 2, 2⟩).map (fun db => (db.version, db.objects)) =
        some (2, complete 2 ++ [table "developer_devices"]) ∧
      table "developer_devices" ∉ complete 2 := by
  decide +kernel

end Ghostlink.Portal
