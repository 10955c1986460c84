import Passbook.Migration.Basic
import Passbook.Store.Tables
/-! The schema of the ledger in four steps: accounts, orders, the transaction log, and the guards that make the log
append-only. Each step is written for an embedded store and for a server. -/
namespace Passbook

inductive Ddl where
  | createAccounts
  | dropAccounts
  | createOrders
  | indexOrders (name columns : String)
  | dropOrders
  | createLog
  | indexLog (name column : String)
  | dropLog
  | guardUpdate
  | guardDelete
  | unguardUpdate
  | unguardDelete
deriving DecidableEq, Repr

namespace Ddl

def block (lines : List String) : String :=
  "\n" ++ String.join (lines.map fun line => "        " ++ line ++ "\n") ++ "        "

def entryKinds : String := "('enrollment', 'transfer', 'reservation', 'cancel_reservation')"

def trigger (name event : String) : String := block [
  "CREATE TRIGGER " ++ name ++ " BEFORE " ++ event ++ " ON transactions",
  "BEGIN",
  "    SELECT RAISE(ABORT, 'transaction log is append-only');",
  "END"]

def updateGuard : String := "transactions_no_update"

def deleteGuard : String := "transactions_no_delete"

def wording : Ddl → String
  | .createAccounts => block [
    "CREATE TABLE accounts (",
    "    id INTEGER PRIMARY KEY,",
    "    balance INTEGER NOT NULL DEFAULT 0,",
    "    CONSTRAINT accounts_balance_non_negative CHECK (balance >= 0),",
    "    CONSTRAINT accounts_balance_integer CHECK (typeof(balance) = 'integer')",
    ")"]
  | .dropAccounts => "DROP TABLE accounts"
  | .createOrders => block [
    "CREATE TABLE orders (",
    "    order_id INTEGER PRIMARY KEY,",
    "    account_id INTEGER NOT NULL REFERENCES accounts (id),",
    "    service_id INTEGER NOT NULL,",
    "    amount INTEGER NOT NULL,",
    "    is_paid BOOLEAN NOT NULL DEFAULT 0,",
    "    is_cancelled BOOLEAN NOT NULL DEFAULT 0,",
    "    created_at TEXT NOT NULL,",
    "    updated_at TEXT NOT NULL,",
    "    CONSTRAINT orders_amount_positive CHECK (amount > 0),",
    "    CONSTRAINT orders_single_terminal_state CHECK (NOT (is_paid AND is_cancelled))",
    ")"]
  | .indexOrders name columns => "CREATE INDEX " ++ name ++ " ON orders (" ++ columns ++ ")"
  | .dropOrders => "DROP TABLE orders"
  | .createLog => block [
    "CREATE TABLE transactions (",
    "    id INTEGER PRIMARY KEY AUTOINCREMENT,",
    "    type TEXT NOT NULL,",
    "    sender_id INTEGER NOT NULL REFERENCES accounts (id),",
    "    receiver_id INTEGER NOT NULL REFERENCES accounts (id),",
    "    amount INTEGER NOT NULL,",
    "    description TEXT NOT NULL,",
    "    created_at TEXT NOT NULL,",
    "    CONSTRAINT transactions_type_known CHECK (type IN " ++ entryKinds ++ "),",
    "    CONSTRAINT transactions_amount_non_negative CHECK (amount >= 0)",
    ")"]
  | .indexLog name column => "CREATE INDEX " ++ name ++ " ON transactions (" ++ column ++ ")"
  | .dropLog => "DROP TABLE transactions"
  | .guardUpdate => trigger updateGuard "UPDATE"
  | .guardDelete => trigger deleteGuard "DELETE"
  | .unguardUpdate => "DROP TRIGGER " ++ updateGuard
  | .unguardDelete => "DROP TRIGGER " ++ deleteGuard

instance : Worded Ddl := ⟨wording⟩

def makeTable {α : Type} (name : String) (table : Option α) (t : Tables) : Except Refusal (Unit × Tables) :=
  match table with
  | some _ => .error (.existingTable name)
  | none => .ok ((), t)

def dropTable {α : Type} (name : String) (table : Option α) (t : Tables) : Except Refusal (Unit × Tables) :=
  match table with
  | some _ => .ok ((), t)
  | none => .error (.missingTable name)

/-- Changes the guards of the log, which must be there. -/
def onLog (t : Tables) (missing : Refusal) (change : Log → Except Refusal Log) :
    Except Refusal (Unit × Tables) := do
  match t.log with
  | none => throw missing
  | some log =>
    let log ← change log
    return ((), { t with log := some log })

def noLog : Refusal := .missingTable "main.transactions"

/-- Runs a statement. A table whose rows are referred to cannot be dropped; a dropped log takes its guards along. -/
def run (d : Ddl) : Statement Tables Unit := fun _ t =>
  match d with
  | .createAccounts => makeTable "accounts" t.accounts { t with accounts := some [] }
  | .dropAccounts =>
    match t.accounts with
    | none => .error (.missingTable "accounts")
    | some rows =>
      if rows.any fun a => t.referenced.contains (.int a.id) then .error (.violated .foreignKey)
      else .ok ((), { t with accounts := none })
  | .createOrders => makeTable "orders" t.orders { t with orders := some [] }
  | .indexOrders _ _ => dropTable "main.orders" t.orders t
  | .dropOrders => dropTable "orders" t.orders { t with orders := none }
  | .createLog => makeTable "transactions" t.log { t with log := some .empty }
  | .indexLog _ _ => dropTable "main.transactions" t.log t
  | .dropLog => dropTable "transactions" t.log { t with log := none }
  | .guardUpdate => onLog t noLog fun log =>
    if log.refusesUpdate then .error (.existingTrigger updateGuard) else .ok { log with refusesUpdate := true }
  | .guardDelete => onLog t noLog fun log =>
    if log.refusesDelete then .error (.existingTrigger deleteGuard) else .ok { log with refusesDelete := true }
  | .unguardUpdate => onLog t (.missingTrigger updateGuard) fun log =>
    if log.refusesUpdate then .ok { log with refusesUpdate := false } else .error (.missingTrigger updateGuard)
  | .unguardDelete => onLog t (.missingTrigger deleteGuard) fun log =>
    if log.refusesDelete then .ok { log with refusesDelete := false } else .error (.missingTrigger deleteGuard)

instance : Runs Ddl Tables := ⟨fun ddl => (run ddl).onSchema⟩

def migrations : List (Migration Ddl) := [
  ⟨1, "Create accounts table", [.createAccounts], some [.dropAccounts]⟩,
  ⟨2, "Create orders table",
    [.createOrders, .indexOrders "idx_orders_account_id" "account_id",
      .indexOrders "idx_orders_service_created" "service_id, created_at"],
    some [.dropOrders]⟩,
  ⟨3, "Create transactions table",
    [.createLog, .indexLog "idx_transactions_sender_id" "sender_id",
      .indexLog "idx_transactions_receiver_id" "receiver_id", .indexLog "idx_transactions_created_at" "created_at"],
    some [.dropLog]⟩,
  ⟨4, "Make transaction log append-only", [.guardUpdate, .guardDelete], some [.unguardUpdate, .unguardDelete]⟩]

def serverMigrations : List (Migration String) := [
  ⟨1, "Create accounts table", [block [
      "CREATE TABLE accounts (",
      "    id BIGINT PRIMARY KEY,",
      "    balance BIGINT NOT NULL DEFAULT 0,",
      "    CONSTRAINT accounts_balance_non_negative CHECK (balance >= 0)",
      ")"]],
    some [dropAccounts.wording]⟩,
  ⟨2, "Create orders table", [block [
      "CREATE TABLE orders (",
      "    order_id BIGINT PRIMARY KEY,",
      "    account_id BIGINT NOT NULL REFERENCES accounts (id),",
      "    service_id BIGINT NOT NULL,",
      "    amount BIGINT NOT NULL,",
      "    is_paid BOOLEAN NOT NULL DEFAULT FALSE,",
      "    is_cancelled BOOLEAN NOT NULL DEFAULT FALSE,",
      "    created_at TIMESTAMPTZ NOT NULL,",
      "    updated_at TIMESTAMPTZ NOT NULL,",
      "    CONSTRAINT orders_amount_positive CHECK (amount > 0),",
      "    CONSTRAINT orders_single_terminal_state CHECK (NOT (is_paid AND is_cancelled))",
      ")"],
      (indexOrders "idx_orders_account_id" "account_id").wording,
      (indexOrders "idx_orders_service_created" "service_id, created_at").wording],
    some [dropOrders.wording]⟩,
  ⟨3, "Create transactions table", [block [
      "CREATE TABLE transactions (",
      "    id BIGSERIAL PRIMARY KEY,",
      "    type TEXT NOT NULL,",
      "    sender_id BIGINT NOT NULL REFERENCES accounts (id),",
      "    receiver_id BIGINT NOT NULL REFERENCES accounts (id),",
      "    amount BIGINT NOT NULL,",
      "    description TEXT NOT NULL,",
      "    created_at TIMESTAMPTZ NOT NULL,",
      "    CONSTRAINT transactions_type_known CHECK (type IN " ++ entryKinds ++ "),",
      "    CONSTRAINT transactions_amount_non_negative CHECK (amount >= 0)",
      ")"],
      (indexLog "idx_transactions_sender_id" "sender_id").wording,
      (indexLog "idx_transactions_receiver_id" "receiver_id").wording,
      (indexLog "idx_transactions_created_at" "created_at").wording],
    some [dropLog.wording]⟩,
  ⟨4, "Make transaction log append-only", [
      block [
        "CREATE FUNCTION transactions_append_only() RETURNS trigger AS $$",
        "BEGIN",
        "    RAISE EXCEPTION 'transaction log is append-only';",
        "END;",
        "$$ LANGUAGE plpgsql"],
      block [
        "CREATE TRIGGER transactions_no_modify BEFORE UPDATE OR DELETE ON transactions",
        "FOR EACH ROW EXECUTE FUNCTION transactions_append_only()"]],
    some ["DROP TRIGGER transactions_no_modify ON transactions", "DROP FUNCTION transactions_append_only()"]⟩]

end Ddl
end Passbook
