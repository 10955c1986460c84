import Passbook.Proofs.Banking

/-! A balance is changed by just as much as is asked for, over the whole numbers, or not at all. A store does not compute like that: a
sum that leaves 64 bits becomes a double, and of the two rules of a balance the first that it breaks tells the error. No rounding of
such a sum leads back into 64 bits, so that the two come to the same. -/
namespace Passbook

namespace Decimal
variable {n d m a b : Nat}

/-- The double nearest to a whole number, as the whole number that it is: 53 binary digits, a half going to the even one. -/
def nearestDouble (n : Nat) : Nat :=
  let unit := 2 ^ (n.log2 - 52)
  halfEven n unit * unit

theorem le_halfEven (below : m * d ≤ n) (positive : 0 < d) : m ≤ halfEven n d := by
  have floor : m ≤ n / d := (Nat.le_div_iff_mul_le positive).mpr below
  unfold halfEven
  dsimp only
  split <;> omega

/-- What is rounded loses half a unit at most. -/
theorem le_halfEven_mul (n : Nat) (positive : 0 < d) : 2 * n ≤ 2 * (halfEven n d * d) + d := by
  have whole := Nat.div_add_mod' n d
  have rest := Nat.mod_lt n positive
  unfold halfEven
  dsimp only
  split
  · rw [Nat.add_mul]
    omega
  · omega

theorem pow_log2_le_nearestDouble (some_ : n ≠ 0) : 2 ^ n.log2 ≤ nearestDouble n := by
  have low := Nat.log2_self_le some_
  unfold nearestDouble
  dsimp only
  have unit : 2 ^ (n.log2 - 52) ∣ 2 ^ n.log2 := Nat.pow_dvd_pow 2 (Nat.sub_le _ _)
  obtain ⟨m, split⟩ := unit
  rw [Nat.mul_comm] at split
  rw [split] at low ⊢
  exact Nat.mul_le_mul_right _ (le_halfEven low (Nat.two_pow_pos _))

theorem pow_le_nearestDouble {k : Nat} (large : 2 ^ k ≤ n) : 2 ^ k ≤ nearestDouble n := by
  have some_ : n ≠ 0 := by
    have := Nat.two_pow_pos k
    omega
  have order : k ≤ n.log2 := (Nat.le_log2 some_).mpr large
  exact (Nat.pow_le_pow_right (by omega) order).trans (pow_log2_le_nearestDouble some_)

/-- Just below the end of 64 bits the unit is 1024, and what is nearer to the end than to the double before it is rounded up. -/
theorem nearestDouble_before_end (low : 2 ^ 63 - 512 ≤ n) (high : n < 2 ^ 63) : nearestDouble n = 2 ^ 63 := by
  have order : n.log2 = 62 := (Nat.log2_eq_iff (by omega)).mpr (by omega)
  have below : n / 1024 = 2 ^ 53 - 1 := by omega
  have up : 1024 < 2 * (n % 1024) ∨ (2 * (n % 1024) = 1024 ∧ n / 1024 % 2 = 1) := by omega
  unfold nearestDouble halfEven
  simp only [order, Nat.reduceSub, Nat.reducePow]
  rw [if_pos up, below]
  rfl

theorem unit_dvd_nearestDouble (n : Nat) : 2 ^ (n.log2 - 52) ∣ nearestDouble n := Nat.dvd_mul_left _ _

/-- A sum of two doubles that stand for numbers that leave 64 bits together is rounded out of them. -/
theorem le_nearestDouble_add (first : a ≤ 2 ^ 63) (second : b ≤ 2 ^ 63) (leaves : 2 ^ 63 ≤ a + b) :
    2 ^ 63 ≤ nearestDouble (nearestDouble a + nearestDouble b) := by
  wlog larger : b ≤ a generalizing a b
  · rw [Nat.add_comm (nearestDouble a)]
    exact this second first (by omega) (by omega)
  have half : 2 ^ 62 ≤ nearestDouble a := pow_le_nearestDouble (by omega)
  by_cases both : 2 ^ 62 ≤ b
  · have half' : 2 ^ 62 ≤ nearestDouble b := pow_le_nearestDouble both
    exact pow_le_nearestDouble (by omega)
  by_cases whole : a = 2 ^ 63
  · have whole' : 2 ^ 63 ≤ nearestDouble a := pow_le_nearestDouble (by omega)
    exact pow_le_nearestDouble (by omega)
  -- Now the larger one loses 512 at most, and the smaller one half of its unit, of which everything in sight is a multiple.
  have order : a.log2 = 62 := (Nat.log2_eq_iff (by omega)).mpr (by omega)
  have some_ : b ≠ 0 := by omega
  have order' : b.log2 ≤ 61 := by
    have := (Nat.log2_lt some_).mpr (show b < 2 ^ 62 by omega)
    omega
  have lost : 2 * a ≤ 2 * nearestDouble a + 1024 := by
    have := le_halfEven_mul a (d := 1024) (by decide)
    unfold nearestDouble
    simpa [order] using this
  have lost' : 2 * b ≤ 2 * nearestDouble b + 2 ^ (b.log2 - 52) := le_halfEven_mul b (Nat.two_pow_pos _)
  have near : 2 ^ 63 - 512 ≤ nearestDouble a + nearestDouble b := by
    have fine : 2 ^ (b.log2 - 52) ∣ 512 := Nat.pow_dvd_pow 2 (show b.log2 - 52 ≤ 9 by omega)
    have coarse : 2 ^ (b.log2 - 52) ∣ nearestDouble a := by
      have dvd := unit_dvd_nearestDouble a
      rw [order] at dvd
      exact (Nat.pow_dvd_pow 2 (by omega)).trans dvd
    have own := unit_dvd_nearestDouble b
    have start : 2 ^ (b.log2 - 52) ∣ 2 ^ 63 - 512 := fine.trans (by decide)
    refine Nat.le_of_lt_add_of_dvd ?_ start (coarse.add own)
    omega
  by_cases inside : nearestDouble a + nearestDouble b < 2 ^ 63
  · exact (nearestDouble_before_end near inside).ge
  · exact pow_le_nearestDouble (by omega)

end Decimal

/-- What a store makes of a sum of integers: an integer while it fits 64 bits, and a double otherwise. So large a double stands for a
whole number. -/
inductive Total where
  | int (value : Int)
  | real (value : Int)
deriving DecidableEq, Repr

namespace Total

def ofSum (m n : Int) : Total :=
  if fitsInteger (m + n) then .int (m + n)
  else
    let size : Int := Decimal.nearestDouble (Decimal.nearestDouble m.natAbs + Decimal.nearestDouble n.natAbs)
    .real (if m + n < 0 then -size else size)

def integral : Total → Total
  | .int n => .int n
  | .real x => if minInteger < x ∧ x ≤ maxInteger then .int x else .real x

def value : Total → Int
  | .int n => n
  | .real x => x

variable {m n : Int}

theorem integral_ofSum_of_beyond (held : 0 ≤ m ∧ m ≤ maxInteger) (bound : n ≤ maxInteger + 1) (beyond : maxInteger < m + n) :
    ∃ x, (ofSum m n).integral = .real x ∧ 0 < x := by
  have end_ : maxInteger = 2 ^ 63 - 1 := rfl
  have oversized : ¬ fitsInteger (m + n) = true := by
    simp only [fitsInteger, Bool.and_eq_true, decide_eq_true_eq]
    omega
  have large := Decimal.le_nearestDouble_add (a := m.natAbs) (b := n.natAbs) (by omega) (by omega) (by omega)
  have upward : ¬ m + n < 0 := by omega
  unfold ofSum
  rw [if_neg oversized]
  dsimp only
  rw [if_neg upward]
  generalize Decimal.nearestDouble _ = size at large ⊢
  refine ⟨size, if_neg ?_, ?_⟩ <;> omega

end Total

namespace AccountRows

/-- A change of a balance as a store carries it out: it keeps what the column makes of the sum, and checks the rules of a balance one
after the other. -/
def adjustInColumn (amount delta id : Int) : Query (Option Int) := fun _ t => do
  let rows ← accountsOf t
  bindAll [amount, id]
  match Rows.find? Account.id id rows with
  | none => return (none, t)
  | some account =>
    let kept := (Total.ofSum account.balance delta).integral
    if kept.value < 0 then throw (.violated (.check "accounts_balance_non_negative"))
    match kept with
    | .real _ => throw (.violated (.check "accounts_balance_integer"))
    | .int balance =>
      return (some balance, { t with accounts := some (Rows.update Account.id id (fun a => { a with balance }) rows) })

variable {t : Tables} {rows : List Account} {id amount delta : Int}

def rebalance (id balance : Int) (rows : List Account) : List Account := Rows.update Account.id id (fun a => { a with balance }) rows

theorem adjust_of_table (table : t.accounts = some rows) (deferred : Bool) :
    adjust amount delta id deferred t = if ∀ n ∈ [amount, id], fitsInteger n = true then
      match Rows.find? Account.id id rows with
      | none => .ok (none, t)
      | some account =>
        if account.balance + delta < 0 then .error (.violated (.check "accounts_balance_non_negative"))
        else if maxInteger < account.balance + delta then .error (.violated (.check "accounts_balance_integer"))
        else .ok (some (account.balance + delta), { t with accounts := some (rebalance id (account.balance + delta) rows) })
    else .error .oversizedInteger := by
  have held : accountsOf t = .ok rows := by rw [accountsOf, table]
  unfold adjust
  rw [held, ok_bind, bindAll_eq]
  split
  · rw [ok_bind]
    cases Rows.find? Account.id id rows with
    | none => rfl
    | some account =>
      dsimp only
      split
      · rfl
      · split <;> rfl
  · rfl

theorem adjust_eq_adjustInColumn (table : t.accounts = some rows)
    (inRange : ∀ account ∈ rows, 0 ≤ account.balance ∧ account.balance ≤ maxInteger) (either : delta = amount ∨ delta = -amount)
    (deferred : Bool) : adjust amount delta id deferred t = adjustInColumn amount delta id deferred t := by
  have held : accountsOf t = .ok rows := by rw [accountsOf, table]
  rw [adjust_of_table table]
  unfold adjustInColumn
  rw [held, ok_bind, bindAll_eq]
  by_cases fits : ∀ n ∈ [amount, id], fitsInteger n = true
  · have bounds := fitsInteger_bounds (fits amount (by simp))
    have start : minInteger = -maxInteger - 1 := rfl
    rw [if_pos fits, if_pos fits, ok_bind]
    cases found : Rows.find? Account.id id rows with
    | none => rfl
    | some account =>
      have balance := inRange account (Rows.find?_some found).1
      dsimp only
      by_cases beyond : maxInteger < account.balance + delta
      · obtain ⟨x, kept, positive⟩ := Total.integral_ofSum_of_beyond balance (by omega) beyond
        have low : ¬ account.balance + delta < 0 := by omega
        have low' : ¬ (Total.real x).value < 0 := Int.not_lt.mpr (Int.le_of_lt positive)
        rw [kept, if_neg low, if_pos beyond, if_neg low']
        rfl
      · have sum : fitsInteger (account.balance + delta) = true := by
          simp only [fitsInteger, Bool.and_eq_true, decide_eq_true_eq]
          omega
        have kept : (Total.ofSum account.balance delta).integral = .int (account.balance + delta) := by
          rw [Total.ofSum, if_pos sum]
          rfl
        rw [kept, if_neg beyond]
        change _ = if account.balance + delta < 0 then _ else _
        split <;> rfl
  · rw [if_neg fits, if_neg fits]
    rfl

end AccountRows

def Store.withAccounts (rows : List Account) (s : Store Database) : Store Database :=
  { s with content := { s.content with schema := { s.content.schema with accounts := some rows } } }

theorem Store.withAccounts_withAccounts (rows rows' : List Account) (s : Store Database) :
    (s.withAccounts rows).withAccounts rows' = s.withAccounts rows' := rfl

theorem Store.withAccounts_of_table {rows : List Account} {s : Store Database} (table : s.content.schema.accounts = some rows) :
    s.withAccounts rows = s := by
  unfold Store.withAccounts
  rw [← table]

namespace Accounts

def changeFault? (operation : String) (id amount : Int) (change : Int → Int) (rows : List Account) : Option LedgerError :=
  if ¬ (fitsInteger id = true ∧ fitsInteger amount = true) then some (.oversized operation)
  else match Rows.find? Account.id id rows with
    | none => some (.accountNotFound id)
    | some account =>
      if change account.balance < 0 then some (.insufficientFunds id amount)
      else if maxInteger < change account.balance then some (.balanceOverflow id amount)
      else none

/-- The same accounts, of which one has another balance and no other has changed. -/
structure Rebalanced (rows : List Account) (id balance : Int) (rows' : List Account) : Prop where
  ids : rows'.map Account.id = rows.map Account.id
  own : Rows.find? Account.id id rows' = some ⟨id, balance⟩
  others : ∀ k, k ≠ id → Rows.find? Account.id k rows' = Rows.find? Account.id k rows
  inRange : ∀ account ∈ rows', 0 ≤ account.balance ∧ account.balance ≤ maxInteger

/-- The work fails with the fault and changes nothing, or stores just what the change makes of the balance and answers with it. -/
structure ChangesExactly (work : LedgerWork Int) (operation : String) (id amount : Int) (change : Int → Int) (rows : List Account)
    (s : Store Database) : Prop where
  refuses : ∀ e, changeFault? operation id amount change rows = some e → work s = (.error (.ledger e), s)
  stores : changeFault? operation id amount change rows = none → ∃ account rows', Rows.find? Account.id id rows = some account ∧
    Rebalanced rows id (change account.balance) rows' ∧ work s = (.ok (change account.balance), s.withAccounts rows')

section
variable {rows : List Account} {account : Account} {operation : String} {id amount delta balance : Int} {change : Int → Int}

theorem changeFault?_eq_none : changeFault? operation id amount change rows = none ↔
    fitsInteger id = true ∧ fitsInteger amount = true ∧ ∃ account, Rows.find? Account.id id rows = some account ∧
      0 ≤ change account.balance ∧ change account.balance ≤ maxInteger := by
  unfold changeFault?
  rw [refuse_eq_none, not_not, and_assoc]
  refine and_congr_right fun _ => and_congr_right fun _ => ?_
  cases Rows.find? Account.id id rows with
  | none => simp
  | some account => simp [refuse_eq_none]

theorem find?_rebalance (k : Int) : Rows.find? Account.id k (AccountRows.rebalance id balance rows) =
    (Rows.find? Account.id k rows).map fun row => if row.id = id then { row with balance } else row := by
  have keeps (row : Account) : Account.id { row with balance } = row.id := rfl
  exact Rows.find?_update keeps

theorem rebalanced_rebalance (found : Rows.find? Account.id id rows = some account) (low : 0 ≤ balance) (high : balance ≤ maxInteger)
    (inRange : ∀ account ∈ rows, 0 ≤ account.balance ∧ account.balance ≤ maxInteger) :
    Rebalanced rows id balance (AccountRows.rebalance id balance rows) where
  ids := by
    unfold AccountRows.rebalance Rows.update
    rw [List.map_map]
    refine List.map_congr_left fun row _ => ?_
    dsimp only [Function.comp_apply]
    split <;> rfl
  own := by
    obtain ⟨-, rfl⟩ := Rows.find?_some found
    rw [find?_rebalance, found, Option.map_some, if_pos rfl]
  others k other := by
    rw [find?_rebalance]
    cases there : Rows.find? Account.id k rows with
    | none => rfl
    | some row =>
      obtain ⟨-, rfl⟩ := Rows.find?_some there
      rw [Option.map_some, if_neg other]
  inRange row among := by
    obtain ⟨old, held, rfl⟩ := Rows.mem_update.mp among
    split
    · exact ⟨low, high⟩
    · exact inRange old held

theorem rebalance_back (ids : (rows.map Account.id).Nodup) (found : Rows.find? Account.id id rows = some account) :
    AccountRows.rebalance id account.balance (AccountRows.rebalance id balance rows) = rows := by
  obtain ⟨held, rfl⟩ := Rows.find?_some found
  unfold AccountRows.rebalance Rows.update
  rw [List.map_map]
  refine (List.map_congr_left fun row among => ?_).trans (List.map_id rows)
  dsimp only [Function.comp_apply]
  by_cases here : row.id = account.id
  · have same : row = account := List.inj_on_of_nodup_map ids among held here
    rw [if_pos here, if_pos here, same]
    rfl
  · rw [if_neg here, if_neg here]
    rfl

end

section
variable {rows : List Account} {account : Account} {id amount delta : Int} {s : Store Database} {saved : Database} {deferred : Bool}

theorem adjust_of_asked {operation : String} {t : Store Database} {answer : Except Failure (Option Int)}
    (asked : LedgerWork.ask operation (AccountRows.adjust amount delta id) s = (answer, t)) :
    adjust operation id amount delta s = (match answer with
      | .ok (some balance) => .ok balance
      | .ok none => .error (.ledger (.accountNotFound id))
      | .error e => .error (recastBalance id amount e), t) := by
  have recast : Act.recast (recastBalance id amount) (LedgerWork.ask operation (AccountRows.adjust amount delta id)) s =
      (answer.mapError (recastBalance id amount), t) := by
    unfold Act.recast
    rw [asked]
    cases answer <;> rfl
  unfold adjust
  rcases answer with e | ⟨⟩ | balance
  · exact Act.bind_of_error recast
  · exact Act.bind_of_ok recast
  · exact Act.bind_of_ok recast

theorem adjust_eq (operation : String) (busy : s.status = .busy saved deferred) (table : s.content.schema.accounts = some rows) :
    adjust operation id amount delta s = match changeFault? operation id amount (· + delta) rows with
      | some e => (.error (.ledger e), s)
      | none => match Rows.find? Account.id id rows with
        | none => (.error (.ledger (.accountNotFound id)), s)
        | some account => (.ok (account.balance + delta), s.withAccounts (AccountRows.rebalance id (account.balance + delta) rows)) := by
  have asked := LedgerWork.ask_of_busy busy operation (AccountRows.adjust amount delta id)
  rw [AccountRows.adjust_of_table table] at asked
  unfold changeFault?
  by_cases fits : fitsInteger id = true ∧ fitsInteger amount = true
  · have bound : ∀ n ∈ [amount, id], fitsInteger n = true := by simp [fits]
    rw [if_neg (not_not.mpr fits)]
    rw [if_pos bound] at asked
    cases found : Rows.find? Account.id id rows with
    | none =>
      rw [found] at asked
      exact adjust_of_asked asked
    | some account =>
      rw [found] at asked
      dsimp only at asked ⊢
      by_cases low : account.balance + delta < 0
      · rw [if_pos low] at asked ⊢
        exact adjust_of_asked asked
      · rw [if_neg low] at asked ⊢
        by_cases high : maxInteger < account.balance + delta
        · rw [if_pos high] at asked ⊢
          exact adjust_of_asked asked
        · rw [if_neg high] at asked ⊢
          exact adjust_of_asked asked
  · have unbound : ¬ ∀ n ∈ [amount, id], fitsInteger n = true := fun bound => fits ⟨bound id (by simp), bound amount (by simp)⟩
    rw [if_pos fits]
    rw [if_neg unbound] at asked
    exact adjust_of_asked asked

theorem adjust_changes (operation : String) (busy : s.status = .busy saved deferred) (table : s.content.schema.accounts = some rows)
    (inRange : ∀ account ∈ rows, 0 ≤ account.balance ∧ account.balance ≤ maxInteger) :
    ChangesExactly (adjust operation id amount delta) operation id amount (· + delta) rows s where
  refuses e fault := by rw [adjust_eq operation busy table, fault]
  stores free := by
    obtain ⟨-, -, account, found, low, high⟩ := changeFault?_eq_none.mp free
    refine ⟨account, _, found, rebalanced_rebalance found low high inRange, ?_⟩
    rw [adjust_eq operation busy table, free, found]

theorem subtractBalance_addBalance (busy : s.status = .busy saved deferred) (table : s.content.schema.accounts = some rows)
    (ids : (rows.map Account.id).Nodup) (inRange : ∀ account ∈ rows, 0 ≤ account.balance ∧ account.balance ≤ maxInteger) {n : Int}
    {t : Store Database} (added : addBalance id amount s = (.ok n, t)) : subtractBalance id amount t = (.ok (n - amount), s) := by
  unfold addBalance at added
  rw [adjust_eq "add balance" busy table] at added
  cases fault : changeFault? "add balance" id amount (· + amount) rows with
  | some e =>
    rw [fault] at added
    cases added
  | none =>
    obtain ⟨known, bound, account, found, low, high⟩ := changeFault?_eq_none.mp fault
    obtain ⟨held, rfl⟩ := Rows.find?_some found
    have before := inRange account held
    have later := (rebalanced_rebalance found low high inRange).own
    have back : account.balance + amount + -amount = account.balance := by omega
    have free : changeFault? "subtract balance" account.id amount (· + -amount)
        (AccountRows.rebalance account.id (account.balance + amount) rows) = none :=
      changeFault?_eq_none.mpr ⟨known, bound, _, later, before.1.trans back.ge, back.le.trans before.2⟩
    rw [fault, found] at added
    dsimp only at added
    cases added
    unfold subtractBalance
    rw [adjust_eq "subtract balance" (s := s.withAccounts _) busy rfl, free, later]
    dsimp only
    rw [back, rebalance_back ids found, Store.withAccounts_withAccounts, Store.withAccounts_of_table table, Int.sub_eq_add_neg, back]

/-- Balances are added to and taken from over the whole numbers. Either stores just the sum and touches no other account, or fails with
the first of its faults and stores nothing; what has been added can be taken again, which leaves nothing behind. A store that computes in
64 bits and in doubles comes to the same, and so never keeps a double. -/
theorem balances_exact (busy : s.status = .busy saved deferred) (table : s.content.schema.accounts = some rows)
    (ids : (rows.map Account.id).Nodup) (inRange : ∀ account ∈ rows, 0 ≤ account.balance ∧ account.balance ≤ maxInteger)
    (id amount : Int) :
    ChangesExactly (addBalance id amount) "add balance" id amount (· + amount) rows s ∧
      ChangesExactly (subtractBalance id amount) "subtract balance" id amount (· - amount) rows s ∧
      (∀ n t, addBalance id amount s = (.ok n, t) → subtractBalance id amount t = (.ok (n - amount), s)) ∧
      AccountRows.adjust amount amount id deferred s.content.schema =
        AccountRows.adjustInColumn amount amount id deferred s.content.schema ∧
      AccountRows.adjust amount (-amount) id deferred s.content.schema =
        AccountRows.adjustInColumn amount (-amount) id deferred s.content.schema :=
  ⟨adjust_changes "add balance" busy table inRange, adjust_changes "subtract balance" busy table inRange,
    fun _ _ added => subtractBalance_addBalance busy table ids inRange added,
    AccountRows.adjust_eq_adjustInColumn table inRange (.inl rfl) deferred,
    AccountRows.adjust_eq_adjustInColumn table inRange (.inr rfl) deferred⟩

def full : Store Database :=
  let content := { Database.empty with schema := { Tables.empty with accounts := some [⟨1, 5⟩, ⟨2, maxInteger⟩] } }
  ⟨content, .busy content false, .universal .default, []⟩

/-- The least integer of 64 bits has no counterpart in them, so that to subtract it from a full account leaves them twice as far. -/
theorem subtract_least_overflows :
    subtractBalance 2 minInteger full = (.error (.ledger (.balanceOverflow 2 minInteger)), full) :=
  (balances_exact rfl rfl (by decide) (by decide) 2 minInteger).2.1.refuses _ (by decide)

end
end Accounts
end Passbook
