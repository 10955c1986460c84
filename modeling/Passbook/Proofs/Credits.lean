import Passbook.Proofs.Independence

/-! Credits in any order. As long as what is due to an account fits a balance together with what the account has, every credit of a
list succeeds and its order does not matter; where it does not fit, some credit of that account is refused in every order. -/
namespace Passbook
open Books OrderRows Time

structure Credit where
  account : Int
  amount : Int

namespace Credit

structure IsValid (c : Credit) : Prop where
  fits : fitsInteger c.account = true
  low : 0 ≤ c.amount
  high : c.amount ≤ maxInteger

def run (c : Credit) : LedgerWork Int := (Accounts.credit c.account c.amount).alone

def runAll : List Credit → Store Database → List (Except Failure Int) × Store Database
  | [], s => ([], s)
  | c :: rest, s => ((c.run s).1 :: (runAll rest (c.run s).2).1, (runAll rest (c.run s).2).2)

def due (id : Int) (credits : List Credit) : Int := ((credits.filter fun c => c.account == id).map Credit.amount).sum

def entry (time : Instant) (id : Nat) (c : Credit) : Entry Instant :=
  ⟨id, .enrollment, c.account, c.account, .int c.amount, creditText c.account c.amount, time⟩

def entries (time : Instant) (lastId : Nat) (credits : List Credit) : List (Entry Instant) :=
  credits.mapIdx fun i c => c.entry time (lastId + 1 + i)

/-- One of the credits, at a place of the list, is the one by which the account is opened. -/
def OpensAt (id : Int) (credits : List Credit) (s : Store Database) (i : Nat) : Prop :=
  i < credits.length ∧ (runAll (credits.take i) s).2.content.schema.hasAccount id = false ∧
    (runAll (credits.take (i + 1)) s).2.content.schema.hasAccount id = true

end Credit

def Books.creditedAll (time : Instant) (credits : List Credit) (b : Books) : Books :=
  credits.foldl (fun b c => b.credited c.account c.amount time) b

section
variable {b : Books} {c : Credit} {credits listed : List Credit} {time : Instant} {id : Int} {s : Store Database}

namespace Credit

theorem due_cons : due id (c :: credits) = (if c.account = id then c.amount else 0) + due id credits := by
  unfold due
  by_cases mine : c.account = id
  · simp [mine]
  · simp [mine]

theorem due_nonneg (valid : ∀ c ∈ credits, c.IsValid) : 0 ≤ due id credits := by
  refine List.sum_nonneg fun amount among => ?_
  obtain ⟨c, listed, rfl⟩ := List.mem_map.mp among
  exact (valid c (List.mem_of_mem_filter listed)).low

theorem due_perm (same : listed.Perm credits) : due id listed = due id credits :=
  ((same.filter _).map _).sum_eq

theorem due_take_le (valid : ∀ c ∈ credits, c.IsValid) (n : Nat) : due id (credits.take n) ≤ due id credits := by
  have rest : 0 ≤ due id (credits.drop n) := due_nonneg fun c among => valid c (List.mem_of_mem_drop among)
  have split : due id credits = due id (credits.take n) + due id (credits.drop n) := by
    unfold due
    rw [← List.sum_append, ← List.map_append, ← List.filter_append, List.take_append_drop]
  omega

end Credit

namespace Books

theorem has_credited {k amount : Int} : (b.credited k amount time).Has id ↔ id = k ∨ b.Has id :=
  has_shifted.trans has_opened

theorem creditedAll_cons : b.creditedAll time (c :: credits) = (b.credited c.account c.amount time).creditedAll time credits := rfl

theorem balanceOf_creditedAll : (b.creditedAll time credits).balanceOf id = b.balanceOf id + Credit.due id credits := by
  induction credits generalizing b with
  | nil => exact (Int.add_zero _).symm
  | cons c credits ih =>
    rw [creditedAll_cons, ih, balanceOf_credited, Credit.due_cons]
    simp only [eq_comm (a := id)]
    omega

theorem has_creditedAll : (b.creditedAll time credits).Has id ↔ b.Has id ∨ ∃ c ∈ credits, c.account = id := by
  induction credits generalizing b with
  | nil => simp [creditedAll]
  | cons c credits ih =>
    rw [creditedAll_cons, ih, has_credited, List.exists_mem_cons_iff, eq_comm (a := id)]
    tauto

theorem orders_creditedAll : (b.creditedAll time credits).orders = b.orders := by
  induction credits generalizing b with
  | nil => rfl
  | cons c credits ih =>
    rw [creditedAll_cons, ih]
    exact opened_orders

theorem entries_creditedAll : (b.creditedAll time credits).entries = b.entries ++ Credit.entries time b.log.lastId credits := by
  induction credits generalizing b with
  | nil => exact (List.append_nil _).symm
  | cons c credits ih =>
    have next : (b.credited c.account c.amount time).log.lastId = b.log.lastId + 1 :=
      congrArg (fun log : Log => log.lastId + 1) opened_log
    rw [creditedAll_cons, ih, entries_credited, next, Credit.entries, Credit.entries, List.mapIdx_cons, List.append_assoc]
    simp only [Nat.add_right_comm _ 1]
    rfl

end Books

namespace Credit

theorem outcome_eq (valid : c.IsValid) : Outcome.credit b c.account c.amount =
    if maxInteger < b.balanceOf c.account + c.amount then .error (.balanceOverflow c.account c.amount)
    else .ok (b.balanceOf c.account + c.amount) := by
  unfold Outcome.credit
  rw [Accounts.checkCredit_eq_ok.mpr ⟨valid.low, valid.high⟩, ok_bind, if_pos valid.fits]

theorem run_accepted (valid : c.IsValid) (stands : s.Stands time b) (room : b.balanceOf c.account + c.amount ≤ maxInteger) :
    (c.run s).1 = .ok (b.balanceOf c.account + c.amount) ∧ (c.run s).2.Stands time (b.credited c.account c.amount time) := by
  have told : Outcome.credit b c.account c.amount = .ok (b.balanceOf c.account + c.amount) :=
    (outcome_eq valid).trans (if_neg (Int.not_lt.mpr room))
  obtain ⟨t, ran, rests, answered, -⟩ := Accounts.credit_ends stands.sound s stands.rests stands.books
  rw [told] at ran
  rw [run, ran]
  exact ⟨rfl, rests, answered _ told, stands.sound.posts (Outcome.credit_posts told)⟩

theorem run_refused (valid : c.IsValid) (stands : s.Stands time b) (beyond : maxInteger < b.balanceOf c.account + c.amount) :
    (c.run s).1 = .error (.ledger (.balanceOverflow c.account c.amount)) ∧ (c.run s).2.Stands time b := by
  have told : Outcome.credit b c.account c.amount = .error (.balanceOverflow c.account c.amount) :=
    (outcome_eq valid).trans (if_pos beyond)
  obtain ⟨t, ran, rests, -, failed⟩ := Accounts.credit_ends stands.sound s stands.rests stands.books
  rw [told] at ran
  rw [run, ran]
  exact ⟨rfl, rests, failed _ told ▸ stands.books, stands.sound⟩

theorem runAll_accepted (valid : ∀ c ∈ credits, c.IsValid) (stands : s.Stands time b)
    (room : ∀ id, b.balanceOf id + due id credits ≤ maxInteger) :
    ((runAll credits s).1.length = credits.length ∧ ∀ answer ∈ (runAll credits s).1, ∃ balance, answer = .ok balance) ∧
      (runAll credits s).2.Stands time (b.creditedAll time credits) := by
  induction credits generalizing b s with
  | nil => exact ⟨⟨rfl, fun _ never => nomatch never⟩, stands⟩
  | cons c credits ih =>
    obtain ⟨here, rest⟩ := List.forall_mem_cons.mp valid
    have later : 0 ≤ due c.account credits := due_nonneg rest
    have fits := room c.account
    rw [due_cons, if_pos rfl] at fits
    obtain ⟨answered, stands'⟩ := run_accepted here stands (by omega)
    -- What an account has got and what is still due to it add up to the same after the credit.
    have room' (id : Int) : (b.credited c.account c.amount time).balanceOf id + due id credits ≤ maxInteger := by
      have bound := room id
      rw [due_cons] at bound
      rw [balanceOf_credited]
      simp only [eq_comm (a := id)]
      omega
    obtain ⟨⟨many, accepted⟩, ends⟩ := ih rest stands' room'
    refine ⟨⟨congrArg (· + 1) many, ?_⟩, ends⟩
    intro answer among
    rcases List.mem_cons.mp among with rfl | among
    · exact ⟨_, answered⟩
    · exact accepted answer among

theorem runAll_stands (valid : ∀ c ∈ credits, c.IsValid) (stands : s.Stands time b) :
    ∃ b', (runAll credits s).2.Stands time b' := by
  induction credits generalizing b s with
  | nil => exact ⟨b, stands⟩
  | cons c credits ih =>
    obtain ⟨here, rest⟩ := List.forall_mem_cons.mp valid
    by_cases room : b.balanceOf c.account + c.amount ≤ maxInteger
    · exact ih rest (run_accepted here stands room).2
    · exact ih rest (run_refused here stands (by omega)).2

/-- Where more is due to an account than fits, one of its credits is refused. -/
theorem runAll_refused (valid : ∀ c ∈ credits, c.IsValid) (stands : s.Stands time b)
    (beyond : maxInteger < b.balanceOf id + due id credits) :
    ∃ (i : Nat) (c : Credit), credits[i]? = some c ∧ c.account = id ∧
      (runAll credits s).1[i]? = some (.error (.ledger (.balanceOverflow id c.amount))) := by
  induction credits generalizing b s with
  | nil =>
    have bound := (stands.sound.balanceOf_inRange id).2
    have nothing : due id [] = 0 := rfl
    omega
  | cons c credits ih =>
    obtain ⟨here, rest⟩ := List.forall_mem_cons.mp valid
    have later {b' : Books} (stands' : (c.run s).2.Stands time b') (beyond' : maxInteger < b'.balanceOf id + due id credits) :
        ∃ (i : Nat) (c' : Credit), (c :: credits)[i]? = some c' ∧ c'.account = id ∧
          (runAll (c :: credits) s).1[i]? = some (.error (.ledger (.balanceOverflow id c'.amount))) := by
      obtain ⟨i, c', there, mine, refused⟩ := ih rest stands' beyond'
      exact ⟨i + 1, c', there, mine, refused⟩
    rw [due_cons] at beyond
    by_cases room : b.balanceOf c.account + c.amount ≤ maxInteger
    · refine later (run_accepted here stands room).2 ?_
      rw [balanceOf_credited]
      simp only [eq_comm (a := id)]
      omega
    · obtain ⟨refused, stands'⟩ := run_refused here stands (by omega)
      -- A credit that is refused is the one sought, or it is of another account and nothing of this one has changed.
      by_cases mine : c.account = id
      · refine ⟨0, c, rfl, mine, ?_⟩
        rw [← mine, ← refused]
        rfl
      · rw [if_neg mine, Int.zero_add] at beyond
        exact later stands' beyond

theorem hasAccount_after (valid : ∀ c ∈ credits, c.IsValid) (stands : s.Stands time b)
    (room : ∀ id, b.balanceOf id + due id credits ≤ maxInteger) (absent : ¬ b.Has id) (n : Nat) :
    (runAll (credits.take n) s).2.content.schema.hasAccount id = true ↔ ∃ c ∈ credits.take n, c.account = id := by
  have room' (id : Int) : b.balanceOf id + due id (credits.take n) ≤ maxInteger := by
    have whole := room id
    have part : due id (credits.take n) ≤ due id credits := due_take_le valid n
    omega
  have ends := (runAll_accepted (fun c among => valid c (List.mem_of_mem_take among)) stands room').2
  rw [ends.books, hasAccount_iff, has_creditedAll]
  exact or_iff_right absent

theorem opens_once (valid : ∀ c ∈ credits, c.IsValid) (stands : s.Stands time b)
    (room : ∀ id, b.balanceOf id + due id credits ≤ maxInteger) (absent : ¬ b.Has id) (mine : ∃ c ∈ credits, c.account = id) :
    ∃! i, OpensAt id credits s i := by
  have after := hasAccount_after valid stands room absent
  have notAfter (n : Nat) : (runAll (credits.take n) s).2.content.schema.hasAccount id = false ↔
      ¬ ∃ c ∈ credits.take n, c.account = id := by
    rw [← after n, Bool.not_eq_true]
  let first := credits.findIdx fun c => c.account == id
  have inside : first < credits.length := by
    obtain ⟨c, among, mine⟩ := mine
    exact List.findIdx_lt_length_of_exists ⟨c, among, by simp [mine]⟩
  have isMine : credits[first].account = id := by simpa using List.findIdx_getElem (w := inside)
  have isFirst (i : Nat) (before : i < first) : credits[i].account ≠ id := by simpa using List.not_of_lt_findIdx before
  refine ⟨first, ⟨inside, (notAfter first).mpr ?_, (after (first + 1)).mpr ?_⟩, ?_⟩
  · rintro ⟨c, among, mine⟩
    obtain ⟨i, before, rfl⟩ := List.mem_take_iff_getElem.mp among
    exact isFirst i (by omega) mine
  · exact ⟨_, List.mem_take_iff_getElem.mpr ⟨first, by omega, rfl⟩, isMine⟩
  · rintro i ⟨within, before, since⟩
    obtain ⟨c, among, mine⟩ := (after (i + 1)).mp since
    obtain ⟨j, upTo, rfl⟩ := List.mem_take_iff_getElem.mp among
    -- The account is not there before the credit at `i`, so no earlier one was made to it.
    have none (k : Nat) (earlier : k < i) : credits[k].account ≠ id := fun mine =>
      (notAfter i).mp before ⟨_, List.mem_take_iff_getElem.mpr ⟨k, by omega, rfl⟩, mine⟩
    rcases Nat.lt_trichotomy i first with lower | same | higher
    · exact absurd mine (isFirst j (by omega))
    · exact same
    · exact absurd isMine (none first higher)

end Credit

/-- What comes of credits that are made in the order listed: all succeed, and nothing but the ids of their entries tells the order. -/
structure Books.Credited (credits listed : List Credit) (time : Instant) (s : Store Database) (b b' : Books) : Prop where
  succeeded : (Credit.runAll listed s).1.length = listed.length ∧
    ∀ answer ∈ (Credit.runAll listed s).1, ∃ balance, answer = .ok balance
  stands : (Credit.runAll listed s).2.Stands time b'
  balances : ∀ id, b'.balanceOf id = b.balanceOf id + Credit.due id credits
  accounts : ∀ id, b'.Has id ↔ b.Has id ∨ ∃ c ∈ credits, c.account = id
  opened : ∀ id, ¬ b.Has id → (∃ c ∈ credits, c.account = id) → ∃! i, Credit.OpensAt id listed s i
  orders : b'.orders = b.orders
  entries : b'.entries = b.entries ++ Credit.entries time b.log.lastId listed
  unnumbered : ((Credit.entries time b.log.lastId listed).map fun e => { e with id := 0 }).Perm (credits.map fun c => c.entry time 0)

namespace Credit

theorem entries_unnumbered {lastId : Nat} :
    ((entries time lastId credits).map fun e => { e with id := 0 }) = credits.map fun c => c.entry time 0 := by
  refine List.ext_getElem (by simp [entries]) fun i _ _ => ?_
  simp [entries, entry]

theorem credited_of_perm (valid : ∀ c ∈ credits, c.IsValid) (stands : s.Stands time b)
    (room : ∀ id, b.balanceOf id + due id credits ≤ maxInteger) (same : listed.Perm credits) :
    Books.Credited credits listed time s b (b.creditedAll time listed) := by
  have valid' : ∀ c ∈ listed, c.IsValid := fun c among => valid c (same.mem_iff.mp among)
  have room' (id : Int) : b.balanceOf id + due id listed ≤ maxInteger := due_perm same ▸ room id
  have listed_iff (id : Int) : (∃ c ∈ listed, c.account = id) ↔ ∃ c ∈ credits, c.account = id :=
    exists_congr fun c => and_congr_left' same.mem_iff
  obtain ⟨succeeded, ends⟩ := runAll_accepted valid' stands room'
  exact {
    succeeded := succeeded
    stands := ends
    balances := fun id => by rw [balanceOf_creditedAll, due_perm same]
    accounts := fun id => has_creditedAll.trans (or_congr_right (listed_iff id))
    opened := fun id absent mine => opens_once valid' stands room' absent ((listed_iff id).mpr mine)
    orders := orders_creditedAll
    entries := entries_creditedAll
    unnumbered := by
      rw [entries_unnumbered]
      exact same.map _ }

/-- Credits that fit all succeed in every order and lead to the same accounts. Where those of an account do not fit, one of them is
refused in every order, and the balances stay in their range all the while. -/
theorem runAll_perm (credits : List Credit) (valid : ∀ c ∈ credits, c.IsValid) (time : Instant) (b : Books) (s : Store Database)
    (stands : s.Stands time b) :
    ((∀ id, b.balanceOf id + due id credits ≤ maxInteger) → ∃ accounts, ∀ listed : List Credit, listed.Perm credits →
      ∃ b', b'.accounts = accounts ∧ Books.Credited credits listed time s b b') ∧
    ∀ id, maxInteger < b.balanceOf id + due id credits → ∀ listed : List Credit, listed.Perm credits →
      (∃ (i : Nat) (c : Credit), listed[i]? = some c ∧ c.account = id ∧
        (runAll listed s).1[i]? = some (.error (.ledger (.balanceOverflow id c.amount)))) ∧
      ∀ n, ∃ b', (runAll (listed.take n) s).2.Stands time b' ∧ 0 ≤ b'.balanceOf id ∧ b'.balanceOf id ≤ maxInteger := by
  constructor
  · intro room
    refine ⟨(b.creditedAll time credits).accounts, fun listed same => ?_⟩
    have here := credited_of_perm valid stands room same
    have usual := credited_of_perm valid stands room (.refl credits)
    refine ⟨_, here.stands.sound.accounts.ext usual.stands.sound.accounts fun id => ?_, here⟩
    exact account?_ext ((here.accounts id).trans (usual.accounts id).symm) ((here.balances id).trans (usual.balances id).symm)
  · intro id beyond listed same
    have valid' : ∀ c ∈ listed, c.IsValid := fun c among => valid c (same.mem_iff.mp among)
    refine ⟨runAll_refused valid' stands (due_perm same ▸ beyond), fun n => ?_⟩
    obtain ⟨b', ends⟩ := runAll_stands (fun c among => valid' c (List.mem_of_mem_take among)) stands
    exact ⟨b', ends, ends.sound.balanceOf_inRange id⟩

/-- An account is filled to the limit by one credit, so another one cannot be taken. -/
theorem runAll_perm_at_limit :
    let credits : List Credit := [⟨2, 7⟩, ⟨1, maxInteger⟩, ⟨2, 3⟩]
    let s := Store.fresh .default
    (∀ c ∈ ⟨1, 1⟩ :: credits, c.IsValid) ∧ s.Stands .default Books.fresh ∧
      (∃ accounts, ∀ listed : List Credit, listed.Perm credits →
        ∃ b', b'.accounts = accounts ∧ Books.Credited credits listed .default s Books.fresh b') ∧
      ∀ listed : List Credit, listed.Perm (⟨1, 1⟩ :: credits) → ∃ (i : Nat) (c : Credit), listed[i]? = some c ∧
        c.account = 1 ∧
        (runAll listed s).1[i]? = some (.error (.ledger (.balanceOverflow 1 c.amount))) := by
  intro credits s
  have valid : ∀ c ∈ ⟨1, 1⟩ :: credits, c.IsValid := by
    simp only [credits, List.forall_mem_cons, List.not_mem_nil, false_implies, implies_true, and_true]
    refine ⟨?_, ?_, ?_, ?_⟩ <;> exact ⟨by decide, by decide, by decide⟩
  have stands : s.Stands .default Books.fresh := Store.fresh_stands _
  have room (id : Int) : Books.fresh.balanceOf id + due id credits ≤ maxInteger := by
    have empty : Books.fresh.balanceOf id = 0 := rfl
    have limit : (10 : Int) ≤ maxInteger := by decide
    simp only [empty, credits, due_cons]
    have nothing : due id [] = 0 := rfl
    split <;> split <;> omega
  refine ⟨valid, stands, (runAll_perm credits (List.forall_mem_cons.mp valid).2 .default _ s stands).1 room, fun listed same => ?_⟩
  exact ((runAll_perm _ valid .default _ s stands).2 1 (by decide) listed same).1

end Credit

end
end Passbook
